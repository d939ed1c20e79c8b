import HciHost.Error

/-!
# The response registry

A sender registers the opcode of the command it is about to write and waits on the slot it
gets back; the answer, when it comes, is put into the slot registered under its opcode.

* At most one registration per opcode: `register` refuses an opcode that is pending
  (`commandPending`).
* `complete op r` removes the registration for `op` and fills its slot with `r`, reporting
  whether there was one; `cancel op` removes it and fills nothing.
* `take` empties a filled slot and returns what was in it, so each answer is taken once.

Slots are numbered in the order they are handed out and are never reused, so a slot that a
cancelled registration left behind is never filled by a later one.
-/

namespace HciHost

/-- The identity of a registration's slot. -/
structure SlotId where
  /-- The slot's number, in order of registration. -/
  index : Nat
  deriving DecidableEq

/-- Outstanding commands by opcode, and the slots their answers go to. -/
structure Registry where
  /-- The registered opcodes, each with its slot. -/
  pending : List (Opcode × SlotId) := []
  /-- Every slot handed out, by number: the answer put in and not yet taken, if any. -/
  slots : List (Option Bytes) := []

namespace Registry

/-- Whether a command with this opcode is waiting for its answer. -/
def isPending (r : Registry) (op : Opcode) : Bool :=
  r.pending.any (·.1 == op)

/-- How many commands are waiting. -/
def size (r : Registry) : Nat :=
  r.pending.length

/-- Registers `op` with a fresh slot; `commandPending` if `op` is registered already. -/
def register (r : Registry) (op : Opcode) : Except HciError (SlotId × Registry) :=
  if r.isPending op then .error (.commandPending op)
  else
    let id : SlotId := ⟨r.slots.length⟩
    .ok (id, { pending := r.pending ++ [(op, id)], slots := r.slots ++ [none] })

/-- Removes the registration for `op`, filling no slot. -/
def cancel (r : Registry) (op : Opcode) : Registry :=
  { r with pending := r.pending.filter (·.1 != op) }

/-- Puts the answer `resp` into the slot registered under `op` and removes the registration;
`false` if `op` is not registered. -/
def complete (r : Registry) (op : Opcode) (resp : Bytes) : Bool × Registry :=
  match r.pending.find? (·.1 == op) with
  | none => (false, r)
  | some (_, id) =>
    (true, { pending := r.pending.filter (·.1 != op), slots := r.slots.set id.index (some resp) })

/-- Takes the answer out of a slot, if one was put in and not yet taken. -/
def take (r : Registry) (id : SlotId) : Option Bytes × Registry :=
  match r.slots[id.index]? with
  | some (some v) => (some v, { r with slots := r.slots.set id.index none })
  | _ => (none, r)

/-- Whether a slot holds an answer not yet taken. -/
def isFilled (r : Registry) (id : SlotId) : Bool :=
  match r.slots[id.index]? with
  | some (some _) => true
  | _ => false

theorem isPending_cancel (r : Registry) (op : Opcode) : (r.cancel op).isPending op = false := by
  simp [cancel, isPending, List.any_filter]

theorem register_eq_error_iff {r : Registry} {op : Opcode} {e : HciError} :
    r.register op = .error e ↔ r.isPending op = true ∧ e = .commandPending op := by
  unfold register
  by_cases h : r.isPending op = true
  · simp only [h, if_true, Except.error.injEq, true_and]
    exact eq_comm
  · simp only [h, if_false, reduceCtorEq, false_and, Bool.false_eq_true]

end Registry

end HciHost
