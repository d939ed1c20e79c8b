import Mathlib.Data.Finset.Card
import HciHost.Proofs.RegistryLaws

/-!
# Runs of registry operations

Senders and the event path share one registry, and each of its operations is atomic, so what
they do together is a sequence of operations: registrations, cancellations, completions and
waits on the slots that registrations handed out. This module follows the registry along every
such sequence, from the empty registry.

* `Registry.exec` carries out one operation, `Registry.runOps` a sequence of them.
* `Registry.Contract` says what one operation does, and `Registry.exec_contract` that every
  operation meets it.
* `Registry.Retired`: a slot that was handed out and that no registration holds. A retired slot
  stays retired, is never filled, and changes only when a wait on it takes its answer. A filled
  slot is retired, so each slot is filled at most once along a run, and the first wait on it
  after the fill takes the answer (`Registry.fills_at_most_once`,
  `Registry.wait_takes_fill`).
* `Registry.registry_runs`: the laws together, at every point of every run.
-/

namespace HciHost

namespace Registry

/-- An atomic operation on the registry. -/
inductive Op where
  /-- A sender registers the opcode of the command it is about to write. -/
  | register (op : Opcode)
  /-- A sender gives up the registration of an opcode. -/
  | cancel (op : Opcode)
  /-- The event path hands over the answer for an opcode. -/
  | complete (op : Opcode) (resp : Bytes)
  /-- A sender waits on a slot it was given; a wait that finds the slot empty runs out. -/
  | wait (id : SlotId)

/-- What an operation returns. -/
inductive Reply where
  /-- The slot of a new registration, or why there is none. -/
  | registered (r : Except HciError SlotId)
  | cancelled
  /-- Whether the opcode was registered. -/
  | completed (found : Bool)
  /-- The answer taken out of the slot, if it held one. -/
  | waited (v : Option Bytes)
  deriving DecidableEq

/-- Carries out one operation: its reply and the registry after it. A refused registration
leaves the registry as it was. -/
def exec (r : Registry) : Op → Reply × Registry
  | .register op =>
    match r.register op with
    | .error e => (.registered (.error e), r)
    | .ok (id, r') => (.registered (.ok id), r')
  | .cancel op => (.cancelled, r.cancel op)
  | .complete op resp => (.completed (r.complete op resp).1, (r.complete op resp).2)
  | .wait id => (.waited (r.take id).1, (r.take id).2)

/-- The registry after the operations `ops`, in order. -/
def runOps (r : Registry) (ops : List Op) : Registry :=
  ops.foldl (fun r o => (r.exec o).2) r

/-- What slot `id` holds: `none` if it was never handed out, `some none` while it is empty and
`some (some v)` while it holds the answer `v`. -/
def slot (r : Registry) (id : SlotId) : Option (Option Bytes) :=
  r.slots[id.index]?

/-- The registered opcodes. -/
def opcodes (r : Registry) : List Opcode :=
  r.pending.map (·.1)

/-- What operation `o` does to the registry `r`, with reply `a` and registry `r'` after it.
Every slot but the one named keeps what it holds. -/
def Contract (r : Registry) (o : Op) (a : Reply) (r' : Registry) : Prop :=
  match o with
  | .register op =>
    if r.isPending op then a = .registered (.error (.commandPending op)) ∧ r' = r
    else ∃ id, a = .registered (.ok id) ∧ r.slot id = none ∧ r'.slot id = some none ∧
      r'.pending = r.pending ++ [(op, id)] ∧ ∀ id', id' ≠ id → r'.slot id' = r.slot id'
  | .cancel op => a = .cancelled ∧ r'.pending = r.pending.filter (·.1 != op) ∧ r'.slots = r.slots
  | .complete op resp =>
    a = .completed (r.isPending op) ∧
    if r.isPending op then
      ∃ id, (op, id) ∈ r.pending ∧ r'.slot id = some (some resp) ∧
        r'.pending = r.pending.filter (·.1 != op) ∧ ∀ id', id' ≠ id → r'.slot id' = r.slot id'
    else r' = r
  | .wait id =>
    match r.slot id with
    | some (some v) => a = .waited (some v) ∧ r'.slot id = some none ∧ r'.pending = r.pending ∧
        ∀ id', id' ≠ id → r'.slot id' = r.slot id'
    | _ => a = .waited none ∧ r' = r

/-- Running `ops` from `r`, a call `register op` returned the slot `id`. -/
def RegisteredBy (r : Registry) (ops : List Op) (op : Opcode) (id : SlotId) : Prop :=
  ∃ pre post, ops = pre ++ .register op :: post ∧
    ((r.runOps pre).exec (.register op)).1 = .registered (.ok id)

/-- The step from `r` to `r'` fills slot `id` with `v`: the slot was empty and holds `v`. -/
def Fills (r r' : Registry) (id : SlotId) (v : Bytes) : Prop :=
  r.slot id = some none ∧ r'.slot id = some (some v)

/-- Slot `id` was handed out and no registration holds it. -/
def Retired (r : Registry) (id : SlotId) : Prop :=
  id.index < r.slots.length ∧ ∀ e ∈ r.pending, e.2 ≠ id

/-! ### Operations one at a time -/

section Exec

variable {r : Registry}

@[simp] theorem runOps_nil (r : Registry) : r.runOps [] = r := rfl

theorem runOps_cons (r : Registry) (o : Op) (os : List Op) :
    r.runOps (o :: os) = (r.exec o).2.runOps os := rfl

theorem index_ne_of_ne {id id' : SlotId} (h : id' ≠ id) : id.index ≠ id'.index :=
  fun hi => h (congrArg SlotId.mk hi).symm

theorem slot_set_ne {l : List (Option Bytes)} {id id' : SlotId} (x : Option Bytes)
    (h : id' ≠ id) : (l.set id.index x)[id'.index]? = l[id'.index]? :=
  List.getElem?_set_ne (index_ne_of_ne h)

theorem exec_register_of_pending {op : Opcode} (h : r.isPending op = true) :
    r.exec (.register op) = (.registered (.error (.commandPending op)), r) := by
  simp [exec, register, h]

theorem exec_register_of_not_pending {op : Opcode} (h : r.isPending op = false) :
    r.exec (.register op) = (.registered (.ok ⟨r.slots.length⟩), r.withFresh op) := by
  simp [exec, register_ok h]

theorem index_lt_of_slot {id : SlotId} {x : Option Bytes} (h : r.slot id = some x) :
    id.index < r.slots.length :=
  (List.getElem?_eq_some_iff.mp h).1

theorem exec_wait_of_filled {id : SlotId} {v : Bytes} (hs : r.slot id = some (some v)) :
    r.exec (.wait id) = (.waited (some v), { r with slots := r.slots.set id.index none }) := by
  simp [exec, take_of_filled (show r.slots[id.index]? = some (some v) from hs)]

theorem slot_withFresh (op : Opcode) (id : SlotId) :
    (r.withFresh op).slot id = if id.index = r.slots.length then some none else r.slot id := by
  simp only [slot, withFresh]
  split
  · rename_i h
    rw [h, List.getElem?_append_right (Nat.le_refl _)]
    simp
  · rename_i h
    rcases Nat.lt_or_gt_of_ne h with hlt | hgt
    · rw [List.getElem?_append_left hlt]
    · rw [List.getElem?_eq_none (by simp; omega), List.getElem?_eq_none (by omega)]

/-- Every operation meets its contract. -/
theorem exec_contract (hr : r.WellFormed) (o : Op) : Contract r o (r.exec o).1 (r.exec o).2 := by
  cases o with
  | register op =>
    cases hp : r.isPending op
    · -- the next slot, never handed out before
      rw [exec_register_of_not_pending hp]
      simp only [Contract, hp, Bool.false_eq_true, if_false]
      refine ⟨⟨r.slots.length⟩, rfl, List.getElem?_eq_none (Nat.le_refl _), ?_, rfl, ?_⟩
      · simp [slot_withFresh]
      · intro id' hne
        rw [slot_withFresh, if_neg (index_ne_of_ne hne).symm]
    · rw [exec_register_of_pending hp]
      simp [Contract, hp]
  | cancel op => exact ⟨rfl, rfl, rfl⟩
  | complete op resp =>
    rcases complete_cases r op resp with ⟨hp, hc⟩ | ⟨id, hm, hc⟩
    · simp [Contract, exec, hc, hp]
    · have hp : r.isPending op = true := isPending_iff.mpr ⟨id, hm⟩
      simp only [Contract, exec, hc, hp, if_true]
      refine ⟨trivial, id, hm, ?_, trivial, fun id' hne => slot_set_ne _ hne⟩
      exact List.getElem?_set_self (hr.slot_lt hm)
  | wait id =>
    rcases hs : r.slot id with _ | _ | v
    · have hs' : r.slots[id.index]? = none := hs
      simp [Contract, exec, take, hs, hs']
    · have hs' : r.slots[id.index]? = some none := hs
      simp [Contract, exec, take, hs, hs']
    · simp only [Contract, hs, exec_wait_of_filled hs]
      refine ⟨trivial, ?_, trivial, fun id' hne => slot_set_ne _ hne⟩
      exact List.getElem?_set_self (index_lt_of_slot hs)

/-- A registration after an operation was there before it, or the operation is the
registration that made it, with the next slot. -/
theorem mem_pending_exec {o : Op} {e : Opcode × SlotId} (he : e ∈ (r.exec o).2.pending) :
    e ∈ r.pending ∨
      o = .register e.1 ∧ e.2 = ⟨r.slots.length⟩ ∧ (r.exec o).1 = .registered (.ok e.2) := by
  cases o with
  | register op =>
    cases hp : r.isPending op
    · rw [exec_register_of_not_pending hp] at he ⊢
      rcases List.mem_append.mp he with he | he
      · exact .inl he
      · rw [List.mem_singleton.mp he]
        exact .inr ⟨rfl, rfl, rfl⟩
    · rw [exec_register_of_pending hp] at he
      exact .inl he
  | cancel op => exact .inl (List.mem_filter.mp he).1
  | complete op resp =>
    rcases complete_cases r op resp with ⟨-, hc⟩ | ⟨id, -, hc⟩
    · simp only [exec, hc] at he
      exact .inl he
    · simp only [exec, hc] at he
      exact .inl (List.mem_filter.mp he).1
  | wait id =>
    rcases take_cases r id with ⟨-, ht⟩ | ⟨v, -, ht⟩
    · simp only [exec, ht] at he
      exact .inl he
    · simp only [exec, ht] at he
      exact .inl he

theorem length_slots_exec_ge (o : Op) : r.slots.length ≤ (r.exec o).2.slots.length := by
  cases o with
  | register op =>
    cases hp : r.isPending op
    · rw [exec_register_of_not_pending hp]
      simp [withFresh]
    · rw [exec_register_of_pending hp]
  | cancel op => exact Nat.le_refl _
  | complete op resp =>
    rcases complete_cases r op resp with ⟨-, hc⟩ | ⟨id, -, hc⟩ <;> simp [exec, hc]
  | wait id =>
    rcases take_cases r id with ⟨-, ht⟩ | ⟨v, -, ht⟩ <;> simp [exec, ht]

theorem WellFormed.exec (hr : r.WellFormed) (o : Op) : (r.exec o).2.WellFormed := by
  cases o with
  | register op =>
    cases hp : r.isPending op
    · rw [exec_register_of_not_pending hp]
      exact hr.register (register_ok hp)
    · rw [exec_register_of_pending hp]
      exact hr
  | cancel op => exact hr.cancel op
  | complete op resp => exact hr.complete op resp
  | wait id => exact hr.take id

end Exec

/-! ### Whole runs -/

section Runs

theorem WellFormed.runOps {r : Registry} (hr : r.WellFormed) (ops : List Op) :
    (r.runOps ops).WellFormed := by
  induction ops generalizing r with
  | nil => exact hr
  | cons o os ih => exact ih (hr.exec o)

theorem isPending_iff_mem_opcodes {r : Registry} {op : Opcode} :
    r.isPending op = true ↔ op ∈ r.opcodes := by
  simp [isPending, opcodes]

/-- With one registration per opcode, the number of registrations is the number of registered
opcodes. -/
theorem WellFormed.size_eq_card {r : Registry} (hr : r.WellFormed) :
    r.size = r.opcodes.toFinset.card := by
  rw [opcodes, List.toFinset_card_of_nodup hr.keys_nodup, List.length_map]
  rfl

/-- A registration at the end of a run was there at its start, or a call of the run made it
and returned its slot. -/
theorem registeredBy_of_mem (ops : List Op) :
    ∀ r : Registry, ∀ e ∈ (r.runOps ops).pending, e ∈ r.pending ∨ RegisteredBy r ops e.1 e.2 := by
  induction ops with
  | nil => exact fun r e he => .inl he
  | cons o os ih =>
    intro r e he
    rcases ih (r.exec o).2 e he with he | ⟨pre, post, rfl, hreg⟩
    · rcases mem_pending_exec he with he | ⟨ho, -, hrep⟩
      · exact .inl he
      · exact .inr ⟨[], os, by rw [ho]; rfl, by rw [← ho]; exact hrep⟩
    · exact .inr ⟨o :: pre, post, rfl, hreg⟩

end Runs

/-! ### Retired slots -/

section Retired

variable {r : Registry} {id : SlotId}

theorem Retired.exec (h : r.Retired id) (o : Op) : (r.exec o).2.Retired id := by
  refine ⟨Nat.lt_of_lt_of_le h.1 (length_slots_exec_ge o), fun e he => ?_⟩
  rcases mem_pending_exec he with he | ⟨-, hfresh, -⟩
  · exact h.2 e he
  · -- a new registration takes the next slot, past `id`
    rw [hfresh]
    intro hid
    rw [← hid] at h
    exact Nat.lt_irrefl _ h.1

theorem Retired.runOps (h : r.Retired id) (ops : List Op) : (r.runOps ops).Retired id := by
  induction ops generalizing r with
  | nil => exact h
  | cons o os ih => exact ih (h.exec o)

/-- In a well-formed registry a slot that holds an answer is retired. -/
theorem retired_of_filled (hr : r.WellFormed) {v : Bytes} (hs : r.slot id = some (some v)) :
    r.Retired id := by
  refine ⟨index_lt_of_slot hs, fun e he hid => ?_⟩
  have hu := hr.unfilled e he
  rw [hid] at hu
  have : r.slot id = some none := hu
  rw [hs] at this
  cases this

/-- Only a wait on it changes a retired slot. -/
theorem slot_exec_of_retired (h : r.Retired id) {o : Op} (ho : o ≠ .wait id) :
    (r.exec o).2.slot id = r.slot id := by
  cases o with
  | register op =>
    cases hp : r.isPending op
    · rw [exec_register_of_not_pending hp, slot_withFresh, if_neg (Nat.ne_of_lt h.1)]
    · rw [exec_register_of_pending hp]
  | cancel op => rfl
  | complete op resp =>
    rcases complete_cases r op resp with ⟨-, hc⟩ | ⟨id', hm, hc⟩
    · simp only [exec, hc]
    · -- the slot filled is that of a registration, so not `id`
      simp only [exec, hc]
      exact slot_set_ne _ (fun hid => h.2 _ hm hid.symm)
  | wait id' =>
    have hne : id ≠ id' := fun hid => ho (by rw [hid])
    rcases take_cases r id' with ⟨-, ht⟩ | ⟨v, -, ht⟩
    · simp only [exec, ht]
    · simp only [exec, ht]
      exact slot_set_ne _ hne

theorem slot_runOps_of_retired (h : r.Retired id) {ops : List Op} (hops : Op.wait id ∉ ops) :
    (r.runOps ops).slot id = r.slot id := by
  induction ops generalizing r with
  | nil => rfl
  | cons o os ih =>
    have ho : o ≠ .wait id := fun ho => hops (ho ▸ List.mem_cons_self ..)
    rw [runOps_cons, ih (h.exec o) (fun hm => hops (List.mem_cons_of_mem _ hm)),
      slot_exec_of_retired h ho]

/-- No operation fills a retired slot. -/
theorem not_fills_of_retired (h : r.Retired id) (o : Op) (v : Bytes) :
    ¬ Fills r (r.exec o).2 id v := by
  rintro ⟨hbefore, hafter⟩
  by_cases ho : o = .wait id
  · -- a wait empties the slot, or leaves it as it was
    subst ho
    rcases take_cases r id with ⟨-, ht⟩ | ⟨w, -, ht⟩
    · simp only [exec, ht] at hafter
      rw [hafter] at hbefore
      cases hbefore
    · simp only [exec, ht] at hafter
      have : (r.slots.set id.index none)[id.index]? = some none :=
        List.getElem?_set_self h.1
      rw [show (r.slots.set id.index none)[id.index]? = some (some v) from hafter] at this
      cases this
  · rw [slot_exec_of_retired h ho, hbefore] at hafter
    cases hafter

end Retired

/-! ### Fills -/

section Fills

variable {r : Registry} {o : Op} {id : SlotId} {v : Bytes}

/-- A slot is filled at most once: after an operation fills it, no later operation does. -/
theorem fills_at_most_once (hr : r.WellFormed) (hf : Fills r (r.exec o).2 id v) (mid : List Op)
    (o' : Op) (w : Bytes) :
    ¬ Fills ((r.exec o).2.runOps mid) (((r.exec o).2.runOps mid).exec o').2 id w :=
  not_fills_of_retired (((retired_of_filled (hr.exec o) hf.2)).runOps mid) o' w

/-- The first wait on a slot after it is filled takes the answer and empties the slot. -/
theorem wait_takes_fill (hr : r.WellFormed) (hf : Fills r (r.exec o).2 id v) {mid : List Op}
    (hmid : Op.wait id ∉ mid) :
    (((r.exec o).2.runOps mid).exec (.wait id)).1 = .waited (some v) ∧
      (((r.exec o).2.runOps mid).exec (.wait id)).2.slot id = some none := by
  have hret := retired_of_filled (hr.exec o) hf.2
  have hs : ((r.exec o).2.runOps mid).slot id = some (some v) := by
    rw [slot_runOps_of_retired hret hmid]
    exact hf.2
  rw [exec_wait_of_filled hs]
  exact ⟨rfl, List.getElem?_set_self (index_lt_of_slot hs)⟩

end Fills

/-! ### Every run from the empty registry -/

/-- At every point of every run of registry operations from the empty registry: the registry
has at most one registration per opcode and each registered slot is empty (`WellFormed`); its
size and `isPending` read the registered opcodes; each registration was made by a `register`
call of the run that returned its slot; the next operation meets its contract; and a slot that
operation fills is filled by no later operation, while the first later wait on it takes the
answer and empties the slot. -/
theorem registry_runs (pre : List Op) (o : Op) :
    let r := ({} : Registry).runOps pre
    let r' := (r.exec o).2
    r.WellFormed ∧
    (∀ op, r.isPending op = true ↔ op ∈ r.opcodes) ∧ r.size = r.opcodes.toFinset.card ∧
    (∀ e ∈ r.pending, RegisteredBy {} pre e.1 e.2) ∧
    Contract r o (r.exec o).1 r' ∧
    ∀ id v, Fills r r' id v → ∀ mid : List Op,
      (∀ o' w, ¬ Fills (r'.runOps mid) ((r'.runOps mid).exec o').2 id w) ∧
      (Op.wait id ∉ mid →
        ((r'.runOps mid).exec (.wait id)).1 = .waited (some v) ∧
        ((r'.runOps mid).exec (.wait id)).2.slot id = some none) := by
  intro r r'
  have hr : r.WellFormed := wellFormed_empty.runOps pre
  refine ⟨hr, fun _ => isPending_iff_mem_opcodes, hr.size_eq_card, fun e he => ?_,
    exec_contract hr o, fun id v hf mid => ⟨fills_at_most_once hr hf mid,
      fun hmid => wait_takes_fill hr hf hmid⟩⟩
  -- the empty registry has no registration, so a call of the run made this one
  rcases registeredBy_of_mem pre {} e he with he | h
  · exact absurd he List.not_mem_nil
  · exact h

/- The registration cancelled first keeps its empty slot: the completion fills the slot of the
registration made after the cancel. -/
example : (({} : Registry).runOps [.register ⟨0x0C03⟩, .cancel ⟨0x0C03⟩, .register ⟨0x0C03⟩,
    .complete ⟨0x0C03⟩ [0]]).slots = [none, some [0]] := by decide

end Registry

end HciHost
