import HciHost.Command.Registry
import HciHost.Bench.Refusal

/-!
# The registry bench

Runs a list of operations on one fresh registry. Each registration's slot is remembered as
the latest slot of its opcode, and waits act on that slot: a bounded wait takes what is in
it, if anything; a wait without bound is carried out only when the slot holds an answer.
-/

namespace HciHost

namespace Bench

/-- An operation on the registry bench. -/
inductive RegistryStep where
  | register (op : Opcode)
  | cancel (op : Opcode)
  | complete (op : Opcode) (resp : Bytes)
  | isPending (op : Opcode)
  | size
  | isEmpty
  | wait (op : Opcode)
  | waitForever (op : Opcode)

/-- The outcome of one operation. -/
inductive RegistryValue where
  | done
  | failed (e : HciError)
  | flag (b : Bool)
  | count (n : Nat)
  | answer (r : Option Bytes)

/-- The bench: the registry and the latest slot of each opcode. -/
structure RegistryBench where
  registry : Registry := {}
  latest : List (Opcode × SlotId) := []

/-- The latest slot of `op`, if `op` was ever registered. -/
def RegistryBench.slotOf? (b : RegistryBench) (op : Opcode) : Option SlotId :=
  (b.latest.find? (·.1 == op)).map (·.2)

/-- Carries out one operation. -/
def RegistryBench.step (b : RegistryBench) : RegistryStep →
    Except Refusal (RegistryValue × RegistryBench)
  | .register op =>
    match b.registry.register op with
    | .error e => .ok (.failed e, b)
    | .ok (id, r) =>
      .ok (.done, { registry := r, latest := (op, id) :: b.latest.filter (·.1 != op) })
  | .cancel op => .ok (.done, { b with registry := b.registry.cancel op })
  | .complete op resp =>
    let (found, r) := b.registry.complete op resp
    .ok (.flag found, { b with registry := r })
  | .isPending op => .ok (.flag (b.registry.isPending op), b)
  | .size => .ok (.count b.registry.size, b)
  | .isEmpty => .ok (.flag (b.registry.size == 0), b)
  | .wait op =>
    match b.slotOf? op with
    | none => .error .noSlot
    | some id =>
      let (v, r) := b.registry.take id
      .ok (.answer v, { b with registry := r })
  | .waitForever op =>
    match b.slotOf? op with
    | none => .error .noSlot
    | some id =>
      if b.registry.isFilled id then
        let (v, r) := b.registry.take id
        .ok (.answer v, { b with registry := r })
      else .error .waitWouldBlock

/-- Runs the operations in order: each outcome with the number of registrations after it. -/
def registry (steps : List RegistryStep) : Except Refusal (List (RegistryValue × Nat)) :=
  let rec go (b : RegistryBench) : List RegistryStep → Except Refusal (List (RegistryValue × Nat))
    | [] => .ok []
    | s :: rest => do
      let (v, b') ← b.step s
      let tail ← go b' rest
      pure ((v, b'.registry.size) :: tail)
  go {} steps

end Bench

end HciHost
