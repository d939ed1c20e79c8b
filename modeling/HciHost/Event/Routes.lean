import HciHost.Error
import HciHost.Event.Basic
import HciHost.Log

/-!
# Event routes

A route table pairs event codes with handlers, at most one handler per code. `RouteTable.add`
refuses a code that already has a handler (`duplicateEventHandler`), so a table built by
`RouteTable.ofList` from a list of pairs exists exactly when the codes are distinct
(`ofList_eq_ok_iff`).

`RouteTable.dispatch` decides what an event does: a string that does not parse as an event is
`invalidPacketFormat`; otherwise the handler for its code gets the event's parameters, or, if
no handler has the code, the event is reported unhandled. The decision is a value, and
`RouteTable.handle` runs the handler it names, so one event reaches at most one handler; an
unhandled event is logged and is no failure.
-/

namespace HciHost

/-- Event codes with their handlers, in the order they were added. -/
structure RouteTable (α : Type) where
  /-- The routes: each code with its handler. -/
  routes : List (UInt8 × α) := []

/-- What an event does under a route table. -/
inductive Routed (α : Type) where
  /-- The handler `h` gets the parameters `params`. -/
  | handled (h : α) (params : Bytes)
  /-- No handler has the event's code. -/
  | unhandled (code : UInt8) (params : Bytes)

namespace RouteTable

/-- The handler for a code, if the table has one. -/
def find? (t : RouteTable α) (code : UInt8) : Option α :=
  (t.routes.find? (·.1 == code)).map (·.2)

/-- The table with a route for `code` added; `duplicateEventHandler` if `code` has one. -/
def add (t : RouteTable α) (code : UInt8) (h : α) : Except HciError (RouteTable α) :=
  if t.routes.any (·.1 == code) then .error (.duplicateEventHandler code)
  else .ok ⟨t.routes ++ [(code, h)]⟩

/-- The table built by adding the pairs of a list in order, from the empty table. -/
def ofList (pairs : List (UInt8 × α)) : Except HciError (RouteTable α) :=
  pairs.foldlM (fun t (c, h) => t.add c h) {}

/-- The codes that have handlers, in increasing order. -/
def codes (t : RouteTable α) : List UInt8 :=
  (t.routes.map (·.1)).mergeSort (· ≤ ·)

/-- What the event in `b` (its code, length and parameters) does. -/
def dispatch (t : RouteTable α) (b : Bytes) : Except HciError (Routed α) :=
  match Event.parse? b with
  | none => .error .invalidPacketFormat
  | some e =>
    match t.find? e.code with
    | some h => .ok (.handled h e.params)
    | none => .ok (.unhandled e.code e.params)

/-- The log text of an event that no route takes. -/
def unhandledText (code : UInt8) (params : Bytes) : String :=
  "unhandled event 0x" ++ hexText .upper 2 code.toNat ++ " [" ++ params.hex ++ "]"

/-- Handles the event in `b` with handlers that act in `m`: the handler the table names for the
event's code runs on the event's parameters and its result is the outcome; an event whose code
has no handler is logged and is no failure; a string that is no event fails before any handler
runs. -/
def handle {m : Type → Type} [Monad m] [Logger m] (t : RouteTable α)
    (run : α → Bytes → m (Except HciError Unit)) (b : Bytes) : m (Except HciError Unit) :=
  match t.dispatch b with
  | .error e => pure (.error e)
  | .ok (.handled h p) => run h p
  | .ok (.unhandled c p) => do
    note .debug (unhandledText c p)
    pure (.ok ())

/-- The table's text, `EventDispatcher { event_codes: [5, 14] }`. -/
def text (t : RouteTable α) : String :=
  "EventDispatcher \x7b event_codes: [" ++ ", ".intercalate (t.codes.map (toString ·.toNat)) ++
    "] \x7d"

theorem add_eq_ok_iff {t : RouteTable α} {c : UInt8} {h : α} {t' : RouteTable α} :
    t.add c h = .ok t' ↔ c ∉ t.routes.map (·.1) ∧ t' = ⟨t.routes ++ [(c, h)]⟩ := by
  unfold add
  by_cases hc : t.routes.any (·.1 == c) = true
  · simp only [hc, if_true, reduceCtorEq, false_iff, not_and]
    intro hn
    exfalso
    apply hn
    simp only [List.any_eq_true, beq_iff_eq] at hc
    obtain ⟨x, hx, rfl⟩ := hc
    exact List.mem_map_of_mem hx
  · simp only [hc, Bool.false_eq_true, if_false, Except.ok.injEq]
    simp only [List.any_eq_true, beq_iff_eq, not_exists, not_and] at hc
    constructor
    · rintro rfl
      refine ⟨?_, rfl⟩
      simp only [List.mem_map, not_exists, not_and]
      exact hc
    · rintro ⟨_, rfl⟩
      rfl

theorem foldlM_add_ok_iff (pairs : List (UInt8 × α)) (t : RouteTable α) :
    (∃ t', pairs.foldlM (fun t (c, h) => t.add c h) t = .ok t') ↔
      (pairs.map (·.1)).Nodup ∧ ∀ c ∈ pairs.map (·.1), c ∉ t.routes.map (·.1) := by
  induction pairs generalizing t with
  | nil =>
    simp only [List.map_nil, List.nodup_nil, List.not_mem_nil, false_implies, implies_true,
      and_self, iff_true]
    exact ⟨t, rfl⟩
  | cons p ps ih =>
    obtain ⟨c, h⟩ := p
    simp only [List.foldlM_cons, List.map_cons, List.nodup_cons, List.mem_cons,
      forall_eq_or_imp]
    cases hadd : t.add c h with
    | error e =>
      have hc : c ∈ t.routes.map (·.1) := by
        refine Classical.byContradiction fun hn => ?_
        have := (@add_eq_ok_iff _ t c h ⟨t.routes ++ [(c, h)]⟩).mpr ⟨hn, rfl⟩
        rw [hadd] at this
        cases this
      simp only [bind, Except.bind, reduceCtorEq, exists_false, false_iff, not_and]
      intro _ hn
      exact absurd hc hn
    | ok t' =>
      obtain ⟨hc, rfl⟩ := add_eq_ok_iff.mp hadd
      simp only [bind, Except.bind]
      rw [ih]
      simp only [List.map_append, List.map_cons, List.map_nil, List.mem_append, List.mem_singleton,
        not_or]
      constructor
      · rintro ⟨hnd, hall⟩
        exact ⟨⟨fun hm => (hall c hm).2 rfl, hnd⟩, hc, fun x hx => (hall x hx).1⟩
      · rintro ⟨⟨hcn, hnd⟩, _, hall⟩
        exact ⟨hnd, fun x hx => ⟨hall x hx, fun e => hcn (e ▸ hx)⟩⟩

/-- A table is built from a list of pairs exactly when no code occurs twice. -/
theorem ofList_eq_ok_iff (pairs : List (UInt8 × α)) :
    (∃ t, ofList pairs = .ok t) ↔ (pairs.map (·.1)).Nodup := by
  rw [ofList, foldlM_add_ok_iff]
  simp

theorem dispatch_eq_error_iff {t : RouteTable α} {b : Bytes} {e : HciError} :
    t.dispatch b = .error e ↔ Event.parse? b = none ∧ e = .invalidPacketFormat := by
  unfold dispatch
  split
  · simp_all [eq_comm]
  · split <;> simp_all

end RouteTable

end HciHost
