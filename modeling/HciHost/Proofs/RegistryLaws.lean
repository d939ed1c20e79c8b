import Mathlib.Data.List.Nodup
import HciHost.Command.Registry

/-!
# Laws of the response registry

What the registry's operations do to its registrations and its slots, stated so that a run of
many operations can be followed one operation at a time.

* `Registry.WellFormed`: each opcode and each slot is registered at most once, and a
  registered slot is empty. The empty registry has it, and `register`, `cancel`, `complete`
  and `take` keep it.
* `Registry.complete_cases` says once what a completion can do: nothing, when its opcode is
  not registered; otherwise it removes the registration and fills that registration's slot.
* `Registry.completeAll` applies deliveries in order. A registration that no other one shares
  an opcode or a slot with receives the first delivery for its opcode and nothing else
  (`Registry.slot_completeAll_solo`), and the registrations of the others end as if it had
  never been made (`Registry.pending_completeAll_filter`).
-/

namespace HciHost

/-- The answer of the first delivery for `op` in a list of deliveries, if there is one. -/
def firstAnswer (op : Opcode) (ds : List (Opcode × Bytes)) : Option Bytes :=
  (ds.find? (·.1 == op)).map (·.2)

@[simp] theorem firstAnswer_nil (op : Opcode) : firstAnswer op [] = none := rfl

theorem firstAnswer_cons_self (op : Opcode) (r : Bytes) (ds : List (Opcode × Bytes)) :
    firstAnswer op ((op, r) :: ds) = some r := by
  simp [firstAnswer]

theorem firstAnswer_cons_of_ne {op : Opcode} {d : Opcode × Bytes} (hd : d.1 ≠ op)
    (ds : List (Opcode × Bytes)) : firstAnswer op (d :: ds) = firstAnswer op ds := by
  simp [firstAnswer, hd]

/-! ### Lists changed at one entry

The registry's slots, and the calls of the thread models, are lists changed one entry at a
time. -/

section SetOne

variable {α : Type} {l : List α} {i j : Nat} {b : α}

/-- After entry `i` of a list is set to `b`, an entry is entry `i`, now `b`, or is as it was. -/
theorem getElem?_set_cases {x : α} (h : (l.set i b)[j]? = some x) :
    (j = i ∧ x = b) ∨ (j ≠ i ∧ l[j]? = some x) := by
  by_cases hj : i = j
  · subst hj
    rw [List.getElem?_set] at h
    simp only [if_true] at h
    split at h
    · exact .inl ⟨rfl, (Option.some.inj h).symm⟩
    · cases h
  · rw [List.getElem?_set_ne hj] at h
    exact .inr ⟨Ne.symm hj, h⟩

end SetOne

namespace Registry

/-- Each opcode and each slot is registered at most once, and a registered slot is empty. -/
structure WellFormed (r : Registry) : Prop where
  /-- At most one registration per opcode. -/
  keys_nodup : (r.pending.map Prod.fst).Nodup
  /-- At most one registration per slot. -/
  ids_nodup : (r.pending.map Prod.snd).Nodup
  /-- A registered slot was handed out and holds no answer. -/
  unfilled : ∀ e ∈ r.pending, r.slots[e.2.index]? = some none

/-- Applies deliveries to the registry in order, each a completion. -/
def completeAll (r : Registry) (ds : List (Opcode × Bytes)) : Registry :=
  ds.foldl (fun r d => (r.complete d.1 d.2).2) r

@[simp] theorem completeAll_nil (r : Registry) : r.completeAll [] = r := rfl

theorem completeAll_cons (r : Registry) (d : Opcode × Bytes) (ds : List (Opcode × Bytes)) :
    r.completeAll (d :: ds) = (r.complete d.1 d.2).2.completeAll ds := rfl

theorem completeAll_append (r : Registry) (ds ds' : List (Opcode × Bytes)) :
    r.completeAll (ds ++ ds') = (r.completeAll ds).completeAll ds' := by
  simp [completeAll, List.foldl_append]

theorem isPending_iff {r : Registry} {op : Opcode} :
    r.isPending op = true ↔ ∃ id, (op, id) ∈ r.pending := by
  simp only [isPending, List.any_eq_true, beq_iff_eq]
  constructor
  · rintro ⟨⟨o, id⟩, hm, rfl⟩
    exact ⟨id, hm⟩
  · rintro ⟨id, hm⟩
    exact ⟨(op, id), hm, rfl⟩

theorem isPending_eq_false_iff {r : Registry} {op : Opcode} :
    r.isPending op = false ↔ ∀ e ∈ r.pending, e.1 ≠ op := by
  rw [← Bool.not_eq_true, isPending_iff]
  constructor
  · rintro hn ⟨o, id⟩ hm rfl
    exact hn ⟨id, hm⟩
  · rintro h ⟨id, hm⟩
    exact h _ hm rfl

theorem slot_lt_of_unfilled {r : Registry} {id : SlotId} (h : r.slots[id.index]? = some none) :
    id.index < r.slots.length := by
  by_contra hn
  rw [List.getElem?_eq_none (by omega)] at h
  cases h

/-! ### What each operation does -/

/-- A completion does nothing when its opcode is not registered; otherwise it removes the
registration for its opcode and fills that registration's slot. -/
theorem complete_cases (r : Registry) (op : Opcode) (resp : Bytes) :
    (r.isPending op = false ∧ r.complete op resp = (false, r)) ∨
    ∃ id, (op, id) ∈ r.pending ∧ r.complete op resp =
      (true, { pending := r.pending.filter (·.1 != op),
               slots := r.slots.set id.index (some resp) }) := by
  unfold complete
  cases hf : r.pending.find? (·.1 == op) with
  | none =>
    refine .inl ⟨isPending_eq_false_iff.mpr fun e he hop => ?_, rfl⟩
    have := List.find?_eq_none.mp hf e he
    simp [hop] at this
  | some e =>
    obtain ⟨o, id⟩ := e
    have hop : o = op := by simpa using List.find?_some hf
    subst hop
    exact .inr ⟨id, List.mem_of_find?_eq_some hf, rfl⟩

theorem complete_of_not_pending {r : Registry} {op : Opcode} (h : r.isPending op = false)
    (resp : Bytes) : r.complete op resp = (false, r) := by
  rcases complete_cases r op resp with ⟨-, hc⟩ | ⟨id, hm, -⟩
  · exact hc
  · rw [← Bool.not_eq_true, isPending_iff] at h
    exact absurd ⟨id, hm⟩ h

/-- The registration of `op` found by a completion is the only one for `op`. -/
theorem complete_of_mem {r : Registry} {op : Opcode} {id : SlotId} (hm : (op, id) ∈ r.pending)
    (hsolo : ∀ e ∈ r.pending, e.1 = op → e = (op, id)) (resp : Bytes) :
    r.complete op resp =
      (true, { pending := r.pending.filter (·.1 != op),
               slots := r.slots.set id.index (some resp) }) := by
  rcases complete_cases r op resp with ⟨hp, -⟩ | ⟨id', hm', hc⟩
  · rw [isPending_eq_false_iff] at hp
    exact absurd rfl (hp _ hm)
  · have : (op, id') = (op, id) := hsolo _ hm' rfl
    cases this
    exact hc

/-- The registry once `op` is registered with the next slot. -/
def withFresh (r : Registry) (op : Opcode) : Registry :=
  { pending := r.pending ++ [(op, ⟨r.slots.length⟩)], slots := r.slots ++ [none] }

theorem register_ok {r : Registry} {op : Opcode} (h : r.isPending op = false) :
    r.register op = .ok (⟨r.slots.length⟩, r.withFresh op) := by
  simp [register, withFresh, h]

theorem take_cases (r : Registry) (id : SlotId) :
    (r.isFilled id = false ∧ r.take id = (none, r)) ∨
    ∃ v, r.slots[id.index]? = some (some v) ∧
      r.take id = (some v, { r with slots := r.slots.set id.index none }) := by
  unfold take isFilled
  rcases hs : r.slots[id.index]? with _ | _ | v
  · exact .inl ⟨rfl, rfl⟩
  · exact .inl ⟨rfl, rfl⟩
  · exact .inr ⟨v, rfl, rfl⟩

theorem take_of_empty {r : Registry} {id : SlotId} (h : r.slots[id.index]? = some none) :
    r.take id = (none, r) := by
  simp [take, h]

theorem take_of_filled {r : Registry} {id : SlotId} {v : Bytes}
    (h : r.slots[id.index]? = some (some v)) :
    r.take id = (some v, { r with slots := r.slots.set id.index none }) := by
  simp [take, h]

theorem filter_of_not_pending {r : Registry} {op : Opcode} (h : r.isPending op = false) :
    r.pending.filter (·.1 != op) = r.pending := by
  refine List.filter_eq_self.mpr fun e he => ?_
  simpa using isPending_eq_false_iff.mp h e he

/-! ### Well-formedness is kept -/

theorem wellFormed_empty : ({} : Registry).WellFormed :=
  ⟨List.nodup_nil, List.nodup_nil, fun _ h => absurd h List.not_mem_nil⟩

namespace WellFormed

variable {r : Registry}

theorem slot_lt (hr : r.WellFormed) {e : Opcode × SlotId} (he : e ∈ r.pending) :
    e.2.index < r.slots.length :=
  slot_lt_of_unfilled (hr.unfilled e he)

/-- Two registrations with the same opcode or the same slot are one. -/
theorem eq_of_key (hr : r.WellFormed) {e f : Opcode × SlotId} (he : e ∈ r.pending)
    (hf : f ∈ r.pending) (h : e.1 = f.1) : e = f :=
  List.inj_on_of_nodup_map hr.keys_nodup he hf h

theorem eq_of_id (hr : r.WellFormed) {e f : Opcode × SlotId} (he : e ∈ r.pending)
    (hf : f ∈ r.pending) (h : e.2 = f.2) : e = f :=
  List.inj_on_of_nodup_map hr.ids_nodup he hf h

/-- Removing registrations keeps the registry well formed. -/
theorem filter (hr : r.WellFormed) (p : Opcode × SlotId → Bool) :
    ({ r with pending := r.pending.filter p } : Registry).WellFormed where
  keys_nodup := hr.keys_nodup.sublist ((List.filter_sublist).map _)
  ids_nodup := hr.ids_nodup.sublist ((List.filter_sublist).map _)
  unfilled e he := hr.unfilled e (List.mem_filter.mp he).1

theorem cancel (hr : r.WellFormed) (op : Opcode) : (r.cancel op).WellFormed :=
  hr.filter _

theorem register {op : Opcode} {id : SlotId} {r' : Registry} (hr : r.WellFormed)
    (h : r.register op = .ok (id, r')) : r'.WellFormed := by
  have hp : r.isPending op = false := by
    cases hq : r.isPending op
    · rfl
    · simp [Registry.register, hq] at h
  rw [register_ok hp] at h
  obtain ⟨-, rfl⟩ := Prod.mk.inj (Except.ok.inj h)
  unfold withFresh
  have hfresh : ∀ e ∈ r.pending, e.2 ≠ ⟨r.slots.length⟩ := fun e he hid => by
    have := hr.slot_lt he
    rw [hid] at this
    exact Nat.lt_irrefl _ this
  refine ⟨?_, ?_, ?_⟩
  · -- the new opcode was not registered
    simp only [List.map_append, List.map_cons, List.map_nil]
    refine hr.keys_nodup.append (List.nodup_singleton _) ?_
    simp only [List.disjoint_singleton, List.mem_map, not_exists, not_and]
    exact fun e he hop => isPending_eq_false_iff.mp hp e he hop
  · -- the new slot is past every slot handed out so far
    simp only [List.map_append, List.map_cons, List.map_nil]
    refine hr.ids_nodup.append (List.nodup_singleton _) ?_
    simp only [List.disjoint_singleton, List.mem_map, not_exists, not_and]
    exact hfresh
  · intro e he
    rcases List.mem_append.mp he with he | he
    · rw [List.getElem?_append_left (hr.slot_lt he)]
      exact hr.unfilled e he
    · rw [List.mem_singleton.mp he, List.getElem?_append_right (Nat.le_refl _)]
      simp

theorem complete (hr : r.WellFormed) (op : Opcode) (resp : Bytes) :
    (r.complete op resp).2.WellFormed := by
  rcases complete_cases r op resp with ⟨-, hc⟩ | ⟨id, hm, hc⟩
  · rw [hc]
    exact hr
  · rw [hc]
    have hf := hr.filter (·.1 != op)
    refine ⟨hf.keys_nodup, hf.ids_nodup, fun e he => ?_⟩
    -- the filled slot belonged to the registration just removed
    have hne : e.2 ≠ id := fun hid => by
      have := hr.eq_of_id (List.mem_filter.mp he).1 hm hid
      subst this
      simp at he
    rw [List.getElem?_set_ne (fun h => hne (congrArg SlotId.mk h).symm)]
    exact hr.unfilled e (List.mem_filter.mp he).1

theorem take (hr : r.WellFormed) (id : SlotId) : (r.take id).2.WellFormed := by
  rcases take_cases r id with ⟨-, ht⟩ | ⟨v, -, ht⟩
  · rw [ht]
    exact hr
  · rw [ht]
    refine ⟨hr.keys_nodup, hr.ids_nodup, fun e he => ?_⟩
    have he' : e ∈ r.pending := he
    show (r.slots.set id.index none)[e.2.index]? = some none
    by_cases hi : id.index = e.2.index
    · rw [hi, List.getElem?_set_self (hr.slot_lt he')]
    · rw [List.getElem?_set_ne hi]
      exact hr.unfilled e he'

theorem completeAll (hr : r.WellFormed) (ds : List (Opcode × Bytes)) :
    (r.completeAll ds).WellFormed := by
  induction ds generalizing r with
  | nil => exact hr
  | cons d ds ih => exact ih (hr.complete d.1 d.2)

end WellFormed

/-! ### Deliveries to one registration -/

/-- No registration but `(op, id)` has opcode `op` or slot `id`. -/
def Solo (r : Registry) (op : Opcode) (id : SlotId) : Prop :=
  ∀ e ∈ r.pending, e.1 = op ∨ e.2 = id → e = (op, id)

/-- Once `(op, id)` is gone and no registration has its opcode or slot, deliveries leave its
slot alone. -/
theorem completeAll_of_absent {op : Opcode} {id : SlotId} (ds : List (Opcode × Bytes)) :
    ∀ r : Registry, (∀ e ∈ r.pending, e.1 ≠ op ∧ e.2 ≠ id) →
      (r.completeAll ds).slots[id.index]? = r.slots[id.index]? ∧
      ∀ e ∈ (r.completeAll ds).pending, e.1 ≠ op ∧ e.2 ≠ id := by
  induction ds with
  | nil => exact fun r h => ⟨rfl, h⟩
  | cons d ds ih =>
    intro r h
    obtain ⟨o, resp⟩ := d
    rw [completeAll_cons]
    rcases complete_cases r o resp with ⟨-, hc⟩ | ⟨id', hm, hc⟩
    · rw [hc]
      exact ih r h
    · rw [hc]
      obtain ⟨hs, hk⟩ := ih ⟨r.pending.filter (·.1 != o), r.slots.set id'.index (some resp)⟩
        fun e he => h e (List.mem_filter.mp he).1
      refine ⟨?_, hk⟩
      -- the slot filled is that of a registration, so not `id`
      rw [hs, List.getElem?_set_ne]
      exact fun hi => (h _ hm).2 (congrArg SlotId.mk hi)

/-- A registration that shares its opcode and its slot with no other receives the first
delivery for its opcode, and stays registered exactly when there is none. -/
theorem slot_completeAll_solo {op : Opcode} {id : SlotId} (ds : List (Opcode × Bytes)) :
    ∀ r : Registry, (op, id) ∈ r.pending → r.slots[id.index]? = some none → r.Solo op id →
      (r.completeAll ds).slots[id.index]? = some (firstAnswer op ds) ∧
      (r.completeAll ds).isPending op = (firstAnswer op ds).isNone := by
  induction ds with
  | nil =>
    intro r hm hs _
    exact ⟨hs, isPending_iff.mpr ⟨id, hm⟩⟩
  | cons d ds ih =>
    intro r hm hs hsolo
    obtain ⟨o, resp⟩ := d
    rw [completeAll_cons]
    by_cases ho : o = op
    · -- the first delivery for `op`: it fills the slot, and nothing touches it afterwards
      subst ho
      rw [complete_of_mem hm (fun e he h => hsolo e he (.inl h)), firstAnswer_cons_self]
      have habs : ∀ e ∈ (r.pending.filter (·.1 != o)), e.1 ≠ o ∧ e.2 ≠ id := by
        intro e he
        have hk : e.1 ≠ o := by simpa using (List.mem_filter.mp he).2
        exact ⟨hk, fun hid => hk (congrArg Prod.fst (hsolo e (List.mem_filter.mp he).1 (.inr hid)))⟩
      obtain ⟨hslot, hk⟩ :=
        completeAll_of_absent ds ⟨r.pending.filter (·.1 != o), r.slots.set id.index (some resp)⟩ habs
      refine ⟨?_, isPending_eq_false_iff.mpr fun e he => (hk e he).1⟩
      rw [hslot, List.getElem?_set_self (slot_lt_of_unfilled hs)]
    · -- a delivery for another opcode fills another slot, if any
      rw [firstAnswer_cons_of_ne ho]
      rcases complete_cases r o resp with ⟨-, hc⟩ | ⟨id', hm', hc⟩
      · rw [hc]
        exact ih r hm hs hsolo
      · rw [hc]
        have hid : id' ≠ id := fun h => ho (congrArg Prod.fst (hsolo _ hm' (.inr h)))
        refine ih _ (List.mem_filter.mpr ⟨hm, by simpa using Ne.symm ho⟩) ?_
          fun e he => hsolo e (List.mem_filter.mp he).1
        rw [List.getElem?_set_ne (fun h => hid (congrArg SlotId.mk h)), hs]

/-- Deliveries act on the registrations for other opcodes as if the ones for `op` were not
there. -/
theorem pending_completeAll_filter {op : Opcode} (ds : List (Opcode × Bytes)) :
    ∀ r r' : Registry, r.pending.filter (·.1 != op) = r'.pending → (∀ e ∈ r'.pending, e.1 ≠ op) →
      (r.completeAll ds).pending.filter (·.1 != op) = (r'.completeAll ds).pending ∧
      ∀ e ∈ (r'.completeAll ds).pending, e.1 ≠ op := by
  induction ds with
  | nil => exact fun r r' h h' => ⟨h, h'⟩
  | cons d ds ih =>
    intro r r' h h'
    obtain ⟨o, resp⟩ := d
    simp only [completeAll_cons]
    apply ih
    · by_cases ho : o = op
      · -- `r'` has nothing for `op`, and `r` loses at most its registrations for `op`
        subst ho
        rw [complete_of_not_pending (isPending_eq_false_iff.mpr h') resp]
        rcases complete_cases r o resp with ⟨-, hc⟩ | ⟨id, -, hc⟩ <;> rw [hc]
        · exact h
        · simp only [List.filter_filter, Bool.and_self]
          exact h
      · rcases complete_cases r o resp with ⟨hp, hc⟩ | ⟨id, hm, hc⟩ <;> rw [hc]
        · -- neither has a registration for `o`
          have hp' : r'.isPending o = false := isPending_eq_false_iff.mpr fun e he hk => by
            rw [← h] at he
            exact isPending_eq_false_iff.mp hp e (List.mem_filter.mp he).1 hk
          rw [complete_of_not_pending hp' resp]
          exact h
        · -- both lose their registration for `o`
          have hm' : (o, id) ∈ r'.pending := by
            rw [← h]
            exact List.mem_filter.mpr ⟨hm, by simpa using ho⟩
          rcases complete_cases r' o resp with ⟨hp', -⟩ | ⟨id', -, hc'⟩
          · exact absurd rfl (isPending_eq_false_iff.mp hp' _ hm')
          · rw [hc', ← h, List.filter_filter, List.filter_filter]
            congr 1
            funext e
            exact Bool.and_comm _ _
    · intro e he
      rcases complete_cases r' o resp with ⟨-, hc⟩ | ⟨id, -, hc⟩
      · rw [hc] at he
        exact h' e he
      · rw [hc] at he
        exact h' e (List.mem_filter.mp he).1

/-! ### What deliveries remove, and what they leave alone -/

theorem mem_pending_completeAll {f : Opcode × SlotId} (ds : List (Opcode × Bytes)) :
    ∀ r : Registry, f ∈ (r.completeAll ds).pending → f ∈ r.pending := by
  induction ds with
  | nil => exact fun r hf => hf
  | cons d ds ih =>
    intro r hf
    rw [completeAll_cons] at hf
    rcases complete_cases r d.1 d.2 with ⟨-, hc⟩ | ⟨id, -, hc⟩
    · rw [hc] at hf
      exact ih r hf
    · rw [hc] at hf
      exact (List.mem_filter.mp (ih _ hf)).1

theorem length_slots_completeAll (ds : List (Opcode × Bytes)) :
    ∀ r : Registry, (r.completeAll ds).slots.length = r.slots.length := by
  induction ds with
  | nil => exact fun r => rfl
  | cons d ds ih =>
    intro r
    rw [completeAll_cons]
    rcases complete_cases r d.1 d.2 with ⟨-, hc⟩ | ⟨id, -, hc⟩
    · rw [hc]
      exact ih r
    · rw [hc, ih]
      exact List.length_set ..

/-- Deliveries leave alone a slot that no registration holds. -/
theorem slot_completeAll_of_free {id : SlotId} (ds : List (Opcode × Bytes)) :
    ∀ r : Registry, (∀ e ∈ r.pending, e.2 ≠ id) →
      (r.completeAll ds).slots[id.index]? = r.slots[id.index]? := by
  induction ds with
  | nil => exact fun r _ => rfl
  | cons d ds ih =>
    intro r hfree
    rw [completeAll_cons]
    rcases complete_cases r d.1 d.2 with ⟨-, hc⟩ | ⟨id', hm, hc⟩
    · rw [hc]
      exact ih r hfree
    · rw [hc, ih ⟨r.pending.filter (·.1 != d.1), r.slots.set id'.index (some d.2)⟩
        fun e he => hfree e (List.mem_filter.mp he).1]
      -- the slot filled is a registration's, so not `id`
      exact List.getElem?_set_ne fun h => hfree _ hm (congrArg SlotId.mk h)

theorem firstAnswer_toList {op : Opcode} {o : Option (Opcode × Bytes)} {v : Bytes}
    (h : firstAnswer op o.toList = some v) : o = some (op, v) := by
  rcases o with _ | ⟨o', r'⟩
  · simp at h
  · simp only [firstAnswer, Option.toList_some, List.find?_singleton] at h
    by_cases ho : o' = op
    · simp_all
    · simp [ho] at h

namespace WellFormed

variable {r : Registry}

theorem solo (hr : r.WellFormed) {e : Opcode × SlotId} (he : e ∈ r.pending) : r.Solo e.1 e.2 := by
  intro f hf hk
  rcases hk with hk | hk
  · exact hr.eq_of_key hf he hk
  · exact hr.eq_of_id hf he hk

/-- A registration that deliveries remove was removed by the first delivery for its opcode,
whose answer is in its slot. -/
theorem removed_by_completeAll (hr : r.WellFormed) {e : Opcode × SlotId} (he : e ∈ r.pending)
    (ds : List (Opcode × Bytes)) (hgone : e ∉ (r.completeAll ds).pending) :
    ∃ v, firstAnswer e.1 ds = some v ∧ (r.completeAll ds).slots[e.2.index]? = some (some v) := by
  obtain ⟨hslot, hpend⟩ := slot_completeAll_solo ds r he (hr.unfilled e he) (hr.solo he)
  cases hv : firstAnswer e.1 ds with
  | some v => exact ⟨v, rfl, by rw [hslot, hv]⟩
  | none =>
    -- with no delivery for its opcode the opcode stays registered, and only `e` can hold it
    rw [hv, Option.isNone_none, isPending_iff] at hpend
    obtain ⟨id, hid⟩ := hpend
    have he' : (e.1, id) = e := hr.eq_of_key (mem_pending_completeAll ds r hid) he rfl
    rw [he'] at hid
    exact absurd hid hgone

end WellFormed

/-! ### A fresh registration and the deliveries that follow it -/

section Fresh

variable {r : Registry} {op : Opcode}

theorem solo_withFresh (hr : r.WellFormed) (hp : r.isPending op = false) :
    (r.withFresh op).Solo op ⟨r.slots.length⟩ := by
  intro e he hk
  rcases List.mem_append.mp he with he | he
  · -- an older registration has another opcode and an older slot
    exfalso
    rcases hk with hk | hk
    · exact isPending_eq_false_iff.mp hp e he hk
    · have := hr.slot_lt he
      rw [hk] at this
      exact Nat.lt_irrefl _ this
  · exact List.mem_singleton.mp he

theorem filter_withFresh (hp : r.isPending op = false) :
    (r.withFresh op).pending.filter (·.1 != op) = r.pending := by
  rw [withFresh, List.filter_append, filter_of_not_pending hp, List.filter_singleton]
  simp

/-- A registration made with the next slot receives the first delivery for its opcode, stays
registered exactly when there is none, and leaves the other registrations as the deliveries
would have left them without it. -/
theorem completeAll_withFresh (hr : r.WellFormed) (hp : r.isPending op = false)
    (ds : List (Opcode × Bytes)) :
    ((r.withFresh op).completeAll ds).slots[r.slots.length]? = some (firstAnswer op ds) ∧
    ((r.withFresh op).completeAll ds).isPending op = (firstAnswer op ds).isNone ∧
    ((r.withFresh op).completeAll ds).pending.filter (·.1 != op) = (r.completeAll ds).pending := by
  have hslot : (r.withFresh op).slots[r.slots.length]? = some none := by simp [withFresh]
  obtain ⟨hs, hk⟩ := slot_completeAll_solo ds (r.withFresh op) (by simp [withFresh]) hslot
    (solo_withFresh hr hp)
  exact ⟨hs, hk, (pending_completeAll_filter ds _ r (filter_withFresh hp)
    (isPending_eq_false_iff.mp hp)).1⟩

end Fresh

end Registry

end HciHost
