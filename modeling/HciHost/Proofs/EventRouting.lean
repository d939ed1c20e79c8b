import Mathlib.Data.List.Nodup
import HciHost.Log
import HciHost.Demux

/-!
# Event route tables

A route table is built by adding `(code, handler)` pairs one by one to the empty table, and
each addition refuses a code that already has a handler. Once built, the table answers every
event string on its own: a string that is no event is refused before any handler runs, and an
event goes to the one handler of its code, or is logged as unhandled.

* `RouteTable.routes_foldlM_add`: a table built without refusal holds the pairs in order.
* `RouteTable.foldlM_add_error`: a refused build names the first code that repeats an earlier
  one (`FirstRepeat`).
* `RouteTable.handle_of_find?_some` and its neighbours: with handlers that act in any monad,
  the handler the table names runs once, on the event's parameters.
* `RouteTable.ofList_routes`: the laws together, for every list of pairs.
-/

namespace HciHost

/-- `c` is the first entry of `l` equal to an entry before it: the entries before it are
distinct and `c` is one of them. -/
def FirstRepeat (l : List UInt8) (c : UInt8) : Prop :=
  ∃ pre post, l = pre ++ c :: post ∧ pre.Nodup ∧ c ∈ pre

namespace RouteTable

variable {α : Type}

/-! ### Building a table -/

/-- A build that succeeds appends the pairs to the routes it started from, in order. -/
theorem routes_foldlM_add (pairs : List (UInt8 × α)) :
    ∀ t t' : RouteTable α, pairs.foldlM (fun t (c, h) => t.add c h) t = .ok t' →
      t'.routes = t.routes ++ pairs := by
  induction pairs with
  | nil =>
    intro t t' h
    cases h
    simp
  | cons p ps ih =>
    intro t t' h
    obtain ⟨c, x⟩ := p
    simp only [List.foldlM_cons] at h
    cases hadd : t.add c x with
    | error e =>
      rw [hadd] at h
      cases h
    | ok t₁ =>
      rw [hadd] at h
      obtain ⟨-, rfl⟩ := add_eq_ok_iff.mp hadd
      rw [ih _ t' h, List.append_assoc]
      rfl

/-- A refused build, started from a table whose codes are distinct, names the first code of
the pairs that is already in the table or repeats an earlier pair's code. -/
theorem foldlM_add_error (pairs : List (UInt8 × α)) :
    ∀ (t : RouteTable α) (e : HciError), (t.routes.map (·.1)).Nodup →
      pairs.foldlM (fun t (c, h) => t.add c h) t = .error e →
      ∃ c, e = .duplicateEventHandler c ∧ ∃ pre post, pairs.map (·.1) = pre ++ c :: post ∧
        (t.routes.map (·.1) ++ pre).Nodup ∧ c ∈ t.routes.map (·.1) ++ pre := by
  induction pairs with
  | nil =>
    intro t e _ h
    cases h
  | cons p ps ih =>
    intro t e hnd h
    obtain ⟨c, x⟩ := p
    simp only [List.foldlM_cons] at h
    cases hadd : t.add c x with
    | error e' =>
      -- the first pair is refused: its code is in the table
      rw [hadd] at h
      cases h
      have hc : c ∈ t.routes.map (·.1) := by
        refine Classical.byContradiction fun hn => ?_
        have := (@add_eq_ok_iff _ t c x ⟨t.routes ++ [(c, x)]⟩).mpr ⟨hn, rfl⟩
        rw [hadd] at this
        cases this
      have he : e = .duplicateEventHandler c := by
        unfold add at hadd
        split at hadd
        · exact (Except.error.inj hadd).symm
        · cases hadd
      exact ⟨c, he, [], ps.map (·.1), rfl, by simpa using hnd, by simpa using hc⟩
    | ok t₁ =>
      -- the first pair is added; the refusal comes later
      rw [hadd] at h
      obtain ⟨hc, rfl⟩ := add_eq_ok_iff.mp hadd
      have hnd₁ : ((t.routes ++ [(c, x)]).map (·.1)).Nodup := by
        rw [List.map_append]
        exact hnd.append (List.nodup_singleton c) (List.disjoint_singleton.mpr hc)
      obtain ⟨c', he, pre, post, hsplit, hpre, hmem⟩ := ih _ e hnd₁ h
      have hcodes : (t.routes ++ [(c, x)]).map (·.1) ++ pre = t.routes.map (·.1) ++ c :: pre := by
        simp
      refine ⟨c', he, c :: pre, post, by simp [hsplit], ?_, ?_⟩
      · rw [← hcodes]
        exact hpre
      · rw [← hcodes]
        exact hmem

/-- A table built from `pairs` holds exactly the pairs, in order. -/
theorem ofList_routes_eq {pairs : List (UInt8 × α)} {t : RouteTable α}
    (h : ofList pairs = .ok t) : t.routes = pairs :=
  routes_foldlM_add pairs {} t h

/-- A build refused from the empty table names the first code that repeats. -/
theorem ofList_error {pairs : List (UInt8 × α)} {e : HciError} (h : ofList pairs = .error e) :
    ∃ c, e = .duplicateEventHandler c ∧ FirstRepeat (pairs.map (·.1)) c := by
  obtain ⟨c, he, pre, post, hsplit, hpre, hmem⟩ := foldlM_add_error pairs {} e List.nodup_nil h
  exact ⟨c, he, pre, post, hsplit, by simpa using hpre, by simpa using hmem⟩

/-! ### Reading a table -/

theorem find?_of_mem {t : RouteTable α} (hnd : (t.routes.map (·.1)).Nodup) {c : UInt8} {x : α}
    (h : (c, x) ∈ t.routes) : t.find? c = some x := by
  unfold find?
  cases hf : t.routes.find? (·.1 == c) with
  | none =>
    have := List.find?_eq_none.mp hf _ h
    simp at this
  | some e =>
    -- the pair found has code `c`, and only one pair does
    have hc : e.1 = c := by simpa using List.find?_some hf
    have he : e = (c, x) :=
      List.inj_on_of_nodup_map hnd (List.mem_of_find?_eq_some hf) h hc
    simp [he]

theorem find?_of_not_mem {t : RouteTable α} {c : UInt8} (h : c ∉ t.routes.map (·.1)) :
    t.find? c = none := by
  unfold find?
  cases hf : t.routes.find? (·.1 == c) with
  | none => rfl
  | some e =>
    have hc : e.1 = c := by simpa using List.find?_some hf
    exact absurd (List.mem_map.mpr ⟨e, List.mem_of_find?_eq_some hf, hc⟩) h

/-- The codes of a table are its routes' codes, in some order. -/
theorem codes_perm (t : RouteTable α) : t.codes.Perm (t.routes.map (·.1)) :=
  List.mergeSort_perm _ _

/-- With distinct codes, the codes of a table are strictly ascending. -/
theorem codes_strictly_ascending {t : RouteTable α} (hnd : (t.routes.map (·.1)).Nodup) :
    t.codes.Pairwise (· < ·) := by
  have hsorted : t.codes.Pairwise (fun a b => decide (a ≤ b) = true) :=
    List.pairwise_mergeSort
      (fun a b c hab hbc => by simp only [decide_eq_true_eq] at *; exact UInt8.le_trans hab hbc)
      (fun a b => by simpa using UInt8.le_total a b) _
  have hdistinct : t.codes.Nodup := (codes_perm t).nodup_iff.mpr hnd
  refine (hsorted.and hdistinct).imp fun ⟨hle, hne⟩ => ?_
  simp only [decide_eq_true_eq] at hle
  exact UInt8.lt_of_le_of_ne hle hne

/-! ### Handling an event -/

section Handle

variable {m : Type → Type} [Monad m] [Logger m] (run : α → Bytes → m (Except HciError Unit))

theorem handle_of_parse_none {t : RouteTable α} {b : Bytes} (h : Event.parse? b = none) :
    t.handle run b = pure (.error .invalidPacketFormat) := by
  simp [handle, dispatch, h]

theorem handle_of_find?_some {t : RouteTable α} {code len : UInt8} {rest : Bytes} {x : α}
    (hlen : len.toNat ≤ rest.length) (hx : t.find? code = some x) :
    t.handle run (code :: len :: rest) = run x (rest.take len.toNat) := by
  simp [handle, dispatch, Event.parse?, hlen, hx]

theorem handle_of_find?_none {t : RouteTable α} {code len : UInt8} {rest : Bytes}
    (hlen : len.toNat ≤ rest.length) (hx : t.find? code = none) :
    t.handle run (code :: len :: rest) = (do
      note .debug (RouteTable.unhandledText code (rest.take len.toNat))
      pure (.ok ())) := by
  simp [handle, dispatch, Event.parse?, hlen, hx]

end Handle

/-! ### Every list of pairs -/

/-- Building a table from a list of pairs succeeds exactly when no code repeats, and otherwise
names the first code that repeats an earlier one. A built table lists its codes strictly
ascending, exactly the codes of the pairs. It refuses a string that is no event before any
handler runs, and refuses no event; an event runs exactly the handler paired with its code,
once, on the parameters its header declares, and returns that handler's result; an event whose
code has no pair is logged and is no failure. -/
theorem ofList_routes (pairs : List (UInt8 × α)) :
    ((∃ t, ofList pairs = .ok t) ↔ (pairs.map (·.1)).Nodup) ∧
    (¬ (pairs.map (·.1)).Nodup →
      ∃ c, ofList pairs = .error (.duplicateEventHandler c) ∧ FirstRepeat (pairs.map (·.1)) c) ∧
    ∀ t, ofList pairs = .ok t →
      t.codes.Pairwise (· < ·) ∧ t.codes.Perm (pairs.map (·.1)) ∧
      ∀ d : Bytes, (t.dispatch d = .error .invalidPacketFormat ↔ Event.parse? d = none) ∧
        ∀ {m : Type → Type} [Monad m] [Logger m] (run : α → Bytes → m (Except HciError Unit)),
          (Event.parse? d = none → t.handle run d = pure (.error .invalidPacketFormat)) ∧
          ∀ code len rest, d = code :: len :: rest → len.toNat ≤ rest.length →
            (∀ x, (code, x) ∈ pairs → t.handle run d = run x (rest.take len.toNat)) ∧
            (code ∉ pairs.map (·.1) → t.handle run d = (do
              note .debug (RouteTable.unhandledText code (rest.take len.toNat))
              pure (.ok ()))) := by
  refine ⟨ofList_eq_ok_iff pairs, fun hnd => ?_, fun t ht => ?_⟩
  · -- a build that does not succeed is refused, by the first repeat
    cases hb : ofList pairs with
    | ok t => exact absurd ((ofList_eq_ok_iff pairs).mp ⟨t, hb⟩) hnd
    | error e =>
      obtain ⟨c, rfl, hc⟩ := ofList_error hb
      exact ⟨c, rfl, hc⟩
  · have hroutes := ofList_routes_eq ht
    have hnd : (t.routes.map (·.1)).Nodup := by
      rw [hroutes]
      exact (ofList_eq_ok_iff pairs).mp ⟨t, ht⟩
    refine ⟨codes_strictly_ascending hnd, hroutes ▸ codes_perm t, fun d => ⟨?_, ?_⟩⟩
    · rw [dispatch_eq_error_iff]
      simp
    · intro m _ _ run
      refine ⟨handle_of_parse_none run, ?_⟩
      rintro code len rest rfl hlen
      refine ⟨fun x hx => handle_of_find?_some run hlen (find?_of_mem hnd ?_),
        fun hc => handle_of_find?_none run hlen (find?_of_not_mem ?_)⟩
      · rwa [hroutes]
      · rwa [hroutes]

/- The code refused is the first that repeats an earlier one, not the first that has a repeat
later. -/
example : ofList [(0x05, 0), (0x0E, 1), (0x0E, 2), (0x05, 3)] =
    (.error (.duplicateEventHandler 0x0E) : Except HciError (RouteTable Nat)) := rfl

end RouteTable

end HciHost
