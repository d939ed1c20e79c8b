import HciHost.Proofs.Deliveries

/-!
# What a send call does

`Host.send` frames a command, registers its opcode, logs it, writes it and takes the answer out
of its slot; `Host.sendAndVerify` then compares the answer with the bytes expected. On a
commander the outcome is fixed by three things: the checks made before anything is written,
the write's own outcome, and what the commander receives while the command is written.

* A parameter block over 255 bytes is refused first, an opcode already registered next; either
  way nothing is written and nothing changes (`send_run_tooLong`, `send_run_pending`).
* Otherwise the packet is written once, from the host with the opcode registered and the
  command logged (`Host.sendingHost`). A failed write cancels the registration; an empty slot
  after the write is a timeout and cancels it too; a filled slot gives the answer
  (`send_run_writeFailed`, `send_run_timeout`, `send_run_answered`).
* `sendAndVerify_outcome` puts this together with what the write delivers
  (`Host.Delivers.writeLink`): the answer is the first delivery for the command's opcode,
  compared with the bytes expected, so deliveries for other opcodes change nothing in the
  outcome and opcode zero is never answered; and every exit after the registration leaves the
  opcode unregistered and the other registrations as the deliveries left them.
-/

namespace HciHost

namespace Host

/-- The host a send call writes from: the opcode registered with the next slot, and the command
logged. -/
def sendingHost (h : Host) (cm : Commander) (c : Command) : Host :=
  { h with channel := .commander { cm with registry := cm.registry.withFresh c.opcode },
           logs := h.logs ++ [⟨.debug, "sending " ++ c.opcode.text ++ ": " ++ c.describe⟩] }

/-! ### The registry operations of a send call -/

section Registry

variable {h : Host} {cm : Commander}

theorem cancel_run (hc : h.channel = .commander cm) (op : Opcode) :
    (cancel op).run h = ((), { h with channel := .commander { cm with registry := cm.registry.cancel op } }) :=
  withRegistry_run hc _ _

theorem cancel_run_commander (h : Host) (cm : Commander) (op : Opcode) :
    (cancel op).run { h with channel := .commander cm } =
      ((), { h with channel := .commander { cm with registry := cm.registry.cancel op } }) :=
  cancel_run rfl op

theorem take_run (hc : h.channel = .commander cm) (id : SlotId) :
    (withRegistry (·.take id) none).run h =
      ((cm.registry.take id).1, { h with channel := .commander { cm with registry := (cm.registry.take id).2 } }) :=
  withRegistry_run hc _ _

/-- Registering an opcode: refused while it is pending, otherwise it gets the next slot. -/
theorem register_run (hc : h.channel = .commander cm) (op : Opcode) :
    (register op).run h =
      if cm.registry.isPending op then (.error (.commandPending op), h)
      else (.ok ⟨cm.registry.slots.length⟩,
        { h with channel := .commander { cm with registry := cm.registry.withFresh op } }) := by
  rw [register, withRegistry_run hc]
  cases hp : cm.registry.isPending op
  · simp only [Registry.register_ok hp, Bool.false_eq_true, if_false]
  · -- the registry is put back as it was
    simp only [Registry.register, hp, if_true]
    cases h
    subst hc
    rfl

/-- A failed write hands nothing to the command channel. -/
theorem writeLink_error_channel {pkt : Bytes} {h' : Host} {io : IoError}
    (hw : (writeLink pkt).run h = (.error io, h')) : h'.channel = h.channel := by
  unfold writeLink at hw
  rw [get_bind_run] at hw
  split at hw
  · rw [set_bind_run] at hw
    cases hw
    rfl
  · split at hw
    · rw [set_bind_run] at hw
      cases hw
    · split at hw
      split at hw
      · rw [set_bind_run] at hw
        cases hw
        rfl
      · rw [set_bind_run] at hw
        cases hw
        rfl
      · -- an answered write succeeds, whatever its frames do
        rw [set_bind_run] at hw
        dsimp only at hw
        split at hw <;> (rw [bind_run] at hw; cases hw)

end Registry

/-! ### Waiting for the answer -/

section Await

variable {g : Host} {cm : Commander} {op : Opcode} {slot : SlotId}

theorem awaitAnswer_run_filled (hc : g.channel = .commander cm) {v : Bytes}
    (hv : (cm.registry.take slot).1 = some v) :
    (awaitAnswer op slot).run g =
      (.ok v, { g with channel := .commander { cm with registry := (cm.registry.take slot).2 } }) := by
  simp only [awaitAnswer, bind_run, take_run hc, hv, pure_run]

/-- With a response timeout, an empty slot after the write is a timeout, and the registration
is cancelled. -/
theorem awaitAnswer_run_timeout (hc : g.channel = .commander cm)
    (he : (cm.registry.take slot).1 = none) (ht : cm.timeout.isSome) :
    (awaitAnswer op slot).run g =
      (.error (.commandTimeout op),
        { g with channel := .commander { cm with registry := (cm.registry.take slot).2.cancel op } }) := by
  have hn : cm.timeout.isNone = false := by
    rw [Option.isNone_eq_false_iff]
    exact ht
  simp only [awaitAnswer, bind_run, take_run hc, he, get_run, Channel.waitsForever, hn,
    Bool.false_eq_true, if_false, cancel_run_commander, pure_run]

/-- Without a response timeout, an empty slot after the write stays empty for good: the call
stalls with the registration still in place. -/
theorem awaitAnswer_run_stalled (hc : g.channel = .commander cm)
    (he : (cm.registry.take slot).1 = none) (ht : cm.timeout = none) :
    (awaitAnswer op slot).run g =
      (.error (.commandPending op),
        { g with channel := .commander { cm with registry := (cm.registry.take slot).2 },
                 stalled := some op }) := by
  simp only [awaitAnswer, bind_run, take_run hc, he, get_run, Channel.waitsForever, ht,
    Option.isNone_none, if_true, modify_run, pure_run]

end Await

/-! ### The exits of a send call -/

section Send

variable {h : Host} {cm : Commander} {c : Command} {pkt : Bytes}

theorem send_run_tooLong {e : HciError} (hp : c.toPacket = .error e) :
    (send c).run h = (.error e, h) := by
  simp only [send, hp, pure_run]

theorem send_run_pending (hc : h.channel = .commander cm) (hp : c.toPacket = .ok pkt)
    (hn : cm.registry.isPending c.opcode = true) :
    (send c).run h = (.error (.commandPending c.opcode), h) := by
  simp only [send, hp, bind_run, register_run hc, hn, if_true, pure_run]

/-- Past the checks, a send call registers its opcode under the next slot and logs the command;
from there it writes and waits. -/
theorem send_run_registered (hc : h.channel = .commander cm) (hp : c.toPacket = .ok pkt)
    (hn : cm.registry.isPending c.opcode = false) :
    (send c).run h =
      (writeAndAwait c.opcode ⟨cm.registry.slots.length⟩ pkt).run (sendingHost h cm c) := by
  simp only [send, hp, bind_run, register_run hc, hn, Bool.false_eq_true, if_false, note_run]
  rfl

theorem writeAndAwait_run_failed {op : Opcode} {slot : SlotId} {g g' : Host} {io : IoError}
    (hw : (writeLink pkt).run g = (.error io, g')) :
    (writeAndAwait op slot pkt).run g = (.error (.send io), ((cancel op).run g').2) := by
  simp only [writeAndAwait, bind_run, hw, pure_run]

theorem writeAndAwait_run_written {op : Opcode} {slot : SlotId} {g g' : Host} {n : Nat}
    (hw : (writeLink pkt).run g = (.ok n, g')) :
    (writeAndAwait op slot pkt).run g = (awaitAnswer op slot).run g' := by
  simp only [writeAndAwait, bind_run, hw]

theorem send_run_answered (hc : h.channel = .commander cm) (hp : c.toPacket = .ok pkt)
    (hn : cm.registry.isPending c.opcode = false) {n : Nat} {h₂ h₃ : Host} {v : Bytes}
    (hw : (writeLink pkt).run (sendingHost h cm c) = (.ok n, h₂))
    (ht : (withRegistry (·.take ⟨cm.registry.slots.length⟩) none).run h₂ = (some v, h₃)) :
    (send c).run h = (.ok v, h₃) := by
  rw [send_run_registered hc hp hn, writeAndAwait_run_written hw]
  simp only [awaitAnswer, bind_run, ht, pure_run]

theorem sendAndVerify_run (hc : h.channel = .commander cm) (e : Bytes)
    {r : Except HciError Bytes} {h' : Host} (hs : (send c).run h = (r, h')) :
    (sendAndVerify c e).run h = (r.bind (verify c.opcode e), h') := by
  simp only [sendAndVerify, bind_run, get_run, hc, hs]
  cases r <;> rfl

end Send

/-! ### The outcome -/

/-- A send call of opcode `op` on commander `cm` that has returned, the commander having
received `ds` while the command was written, leaves the host `h₂` its write left with only the
registry changed: the opcode no longer registered, and the other registrations as `ds` left
them. -/
def Released (cm : Commander) (ds : List (Opcode × Bytes)) (op : Opcode) (h₂ h' : Host) : Prop :=
  ∃ Rf, h' = { h₂ with channel := .commander { cm with registry := Rf } } ∧
    Rf.isPending op = false ∧ Rf.pending = (cm.registry.completeAll ds).pending

/-- Cancelling the opcode releases it, when the other registrations are those `ds` left. -/
theorem Released.of_cancel {cm : Commander} {ds : List (Opcode × Bytes)} {op : Opcode} {h₂ : Host}
    {R : Registry} (hR : R.pending.filter (·.1 != op) = (cm.registry.completeAll ds).pending) :
    Released cm ds op h₂ { h₂ with channel := .commander { cm with registry := R.cancel op } } :=
  ⟨R.cancel op, rfl, Registry.isPending_cancel R op, hR⟩

/-- A send-and-verify call on a commander whose registry is well formed. A parameter block over
255 bytes is refused, and then an opcode already registered, with nothing written and nothing
changed. Otherwise the command's packet is written once, from `sendingHost`, and the commander
receives deliveries `ds` meanwhile, none for opcode zero; after a failed write, `ds` is empty.
The call then returns the write's failure, or, when a delivery is for the command's opcode, the
comparison of the first such delivery with the bytes expected; when none is, it times out if
the commander has a response timeout, and otherwise waits for good: the host stalls on the
opcode, which stays registered. Every return releases the opcode and leaves the other
registrations as `ds` left them. -/
theorem sendAndVerify_outcome {h : Host} {cm : Commander} (hc : h.channel = .commander cm)
    (hR : cm.registry.WellFormed) (c : Command) (e : Bytes) :
    (Command.maxParamLength < c.params.length →
      (sendAndVerify c e).run h = (.error (.invalidParamLength c.params.length), h)) ∧
    (c.params.length ≤ Command.maxParamLength → cm.registry.isPending c.opcode = true →
      (sendAndVerify c e).run h = (.error (.commandPending c.opcode), h)) ∧
    (∀ pkt, c.toPacket = .ok pkt → cm.registry.isPending c.opcode = false →
      ∃ w h₂ ds, (writeLink pkt).run (sendingHost h cm c) = (w, h₂) ∧
        (∀ d ∈ ds, d.1.value ≠ 0) ∧
        h₂.channel = .commander { cm with registry := (cm.registry.withFresh c.opcode).completeAll ds } ∧
        (∀ io, w = .error io → ds = [] ∧ ((sendAndVerify c e).run h).1 = .error (.send io) ∧
          Released cm ds c.opcode h₂ ((sendAndVerify c e).run h).2) ∧
        (∀ n, w = .ok n → firstAnswer c.opcode ds = none → cm.timeout.isSome →
          ((sendAndVerify c e).run h).1 = .error (.commandTimeout c.opcode) ∧
          Released cm ds c.opcode h₂ ((sendAndVerify c e).run h).2) ∧
        (∀ n, w = .ok n → firstAnswer c.opcode ds = none → cm.timeout = none →
          ((sendAndVerify c e).run h).2 = { h₂ with stalled := some c.opcode }) ∧
        (∀ n a, w = .ok n → firstAnswer c.opcode ds = some a →
          ((sendAndVerify c e).run h).1 =
            (if a = e then .ok () else .error (.unexpectedResponse c.opcode e a)) ∧
          Released cm ds c.opcode h₂ ((sendAndVerify c e).run h).2)) := by
  refine ⟨fun hl => ?_, fun hl hpend => ?_, fun pkt hp hn => ?_⟩
  · -- refused before anything else
    have hp : c.toPacket = .error (.invalidParamLength c.params.length) :=
      Command.toPacket_eq_error_iff.mpr ⟨hl, rfl⟩
    rw [sendAndVerify_run hc e (send_run_tooLong hp)]
    rfl
  · have hp : c.toPacket = .ok _ := Command.toPacket_eq_ok_iff.mpr ⟨hl, rfl⟩
    rw [sendAndVerify_run hc e (send_run_pending hc hp hpend)]
    rfl
  · have hfresh := cm.registry.completeAll_withFresh hR hn
    have hsend := send_run_registered hc hp hn
    rcases hw : (writeLink pkt).run (sendingHost h cm c) with ⟨w, h₂⟩
    cases w with
    | error io =>
      -- the write failed: nothing was delivered, and the registration is cancelled
      have hch : h₂.channel = .commander { cm with registry := cm.registry.withFresh c.opcode } :=
        writeLink_error_channel hw
      have hrun := sendAndVerify_run hc e (hsend.trans (writeAndAwait_run_failed hw))
      rw [cancel_run hch] at hrun
      refine ⟨.error io, h₂, [], rfl, by simp, hch, fun io' hio => ?_, by rintro n ⟨⟩,
        by rintro n ⟨⟩, by rintro n a ⟨⟩⟩
      cases hio
      exact ⟨rfl, by rw [hrun]; rfl,
        by rw [hrun]; exact Released.of_cancel (Registry.filter_withFresh hn)⟩
    | ok n =>
      -- the write went through, and the commander received `ds` meanwhile
      obtain ⟨ds, hds, hch⟩ := Delivers.writeLink pkt (sendingHost h cm c) _ rfl
      rw [hw] at hch
      dsimp only at hch
      obtain ⟨hslot, hpend, hfilter⟩ := hfresh ds
      have hawait := hsend.trans (writeAndAwait_run_written hw)
      refine ⟨.ok n, h₂, ds, rfl, hds, hch, by rintro io ⟨⟩, ?_⟩
      cases ha : firstAnswer c.opcode ds with
      | none =>
        -- no delivery for the opcode: its slot is still empty
        rw [ha] at hslot
        have he := Registry.take_of_empty hslot
        refine ⟨fun _ _ _ ht => ?_, fun _ _ _ ht => ?_, by rintro n' a _ ⟨⟩⟩
        · -- with a timeout the wait runs out and cancels the registration
          have hrun := sendAndVerify_run hc e
            (hawait.trans (awaitAnswer_run_timeout hch (by rw [he]) ht))
          rw [he] at hrun
          exact ⟨by rw [hrun]; rfl, by rw [hrun]; exact Released.of_cancel hfilter⟩
        · -- without one the call waits for good, with the registration in place
          have hrun := sendAndVerify_run hc e
            (hawait.trans (awaitAnswer_run_stalled hch (by rw [he]) ht))
          rw [he] at hrun
          rw [hrun]
          cases h₂
          subst hch
          rfl
      | some a =>
        -- the first delivery for the opcode is in its slot, and the call takes it
        rw [ha] at hslot hpend
        have he := Registry.take_of_filled hslot
        have hrun := sendAndVerify_run hc e (hawait.trans (awaitAnswer_run_filled hch (by rw [he])))
        rw [he] at hrun
        refine ⟨by rintro n' _ ⟨⟩, by rintro n' _ ⟨⟩, fun n' a' _ ha' => ?_⟩
        cases ha'
        refine ⟨by rw [hrun]; rfl, { ((cm.registry.withFresh c.opcode).completeAll ds) with
          slots := ((cm.registry.withFresh c.opcode).completeAll ds).slots.set
            cm.registry.slots.length none }, by rw [hrun], hpend, ?_⟩
        -- the opcode is no longer registered, so leaving it out changes nothing
        rw [← hfilter]
        exact (Registry.filter_of_not_pending hpend).symm

/-- A Reset sent while a Reset is outstanding is refused, with nothing written. -/
theorem sendAndVerify_outcome_pending :
    let cm : Commander := { registry := { pending := [(Command.reset.opcode, ⟨0⟩)], slots := [none] } }
    ({ channel := .commander cm } : Host).channel = .commander cm ∧ cm.registry.WellFormed ∧
    (sendAndVerify .reset [0x00]).run { channel := .commander cm } =
      (.error (.commandPending Command.reset.opcode), { channel := .commander cm }) := by
  intro cm
  have hR : cm.registry.WellFormed := ⟨by simp [cm], by simp [cm], by simp [cm]⟩
  exact ⟨rfl, hR, (sendAndVerify_outcome rfl hR .reset [0x00]).2.1 (by decide) (by decide)⟩

end Host

end HciHost
