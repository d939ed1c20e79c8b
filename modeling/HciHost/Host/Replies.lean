import HciHost.Host.Dispatch

/-!
# How replies reach a commander

The controller answers commands with Command Complete and Command Status events. This module
follows such an answer from the wire to the commander's registry:

* a frame built by `completeFrame` or `statusFrame` is a command response, and handling it is
  exactly handling its parameters with the command channel's Complete or Status handler
  (`handlePacket_completeFrame`, `handlePacket_statusFrame`); a Complete frame needs at most
  252 return bytes, so that its length byte does not wrap;
* a commander refuses parameters too short to hold an opcode, changing nothing
  (`onComplete_short`, `onStatus_short`); an answer for opcode zero only reports credits; any
  other answer completes the registration for its opcode with the return parameters, or with
  the status byte (`onComplete_cons`, `onStatus_cons`).

Put together: the registration for a nonzero opcode receives exactly what the frame
carried (`completeFrame_registry`, `statusFrame_registry`).
-/

namespace HciHost

theorem standardRoutes_find_complete :
    standardRoutes.find? EventCode.commandComplete = some .commandComplete := rfl

theorem standardRoutes_find_status :
    standardRoutes.find? EventCode.commandStatus = some .commandStatus := rfl

theorem Opcode.ofBytes_value_eq_zero (lo hi : UInt8) :
    (Opcode.ofBytes lo hi).value = 0 ↔ lo.toNat + 256 * hi.toNat = 0 := by
  have h1 := lo.toNat_lt
  have h2 := hi.toNat_lt
  simp only [Opcode.ofBytes, ← UInt16.toNat_inj, UInt16.toNat_ofNat', UInt16.toNat_zero,
    Nat.reducePow]
  omega

/-- The two wire bytes of an opcode read back as the opcode. -/
theorem Opcode.toLE_eq (op : Opcode) : ∃ lo hi, op.toLE = [lo, hi] ∧ Opcode.ofBytes lo hi = op := by
  have h := Opcode.ofLE?_toLE_append op []
  have hl : op.toLE.length = 2 := Bytes.length_le 2 _
  match hm : op.toLE, hl with
  | [lo, hi], _ =>
    rw [hm] at h
    exact ⟨lo, hi, rfl, Option.some.inj h⟩

namespace Frame

theorem classify_completeFrame (op : Opcode) (r : Bytes) (hr : r.length ≤ 252) :
    classify (completeFrame op r) = .ok (.deliver .commandComplete (1 :: op.toLE ++ r)) := by
  have hlen : (UInt8.ofNat (3 + r.length)).toNat = 3 + r.length := by
    simp only [UInt8.toNat_ofNat', Nat.reducePow]
    omega
  have hop : op.toLE.length = 2 := Bytes.length_le 2 _
  simp only [completeFrame, completeFrameWith, List.cons_append, List.nil_append, classify]
  have htag : PacketKind.ofTag? 0x04 = some .event := rfl
  rw [htag]
  simp only [RouteTable.dispatch, Event.parse?, hlen, List.length_cons, List.length_append, hop]
  rw [if_pos (by omega)]
  simp only [standardRoutes_find_complete]
  rw [List.take_of_length_le (by simp only [List.length_cons, List.length_append, hop]; omega)]

theorem classify_statusFrame (op : Opcode) (s : UInt8) :
    classify (statusFrame op s) = .ok (.deliver .commandStatus (s :: 1 :: op.toLE)) := by
  have hop : op.toLE.length = 2 := Bytes.length_le 2 _
  simp only [statusFrame, statusFrameWith, List.cons_append, List.nil_append, classify]
  have htag : PacketKind.ofTag? 0x04 = some .event := rfl
  rw [htag]
  simp only [RouteTable.dispatch, Event.parse?, List.length_cons, hop]
  rw [if_pos (by decide)]
  simp only [standardRoutes_find_status]
  rw [List.take_of_length_le (by simp only [List.length_cons, hop]; decide)]

theorem isCommandResponse_completeFrame (op : Opcode) (r : Bytes) :
    isCommandResponse (completeFrame op r) = true := rfl

theorem isCommandResponse_statusFrame (op : Opcode) (s : UInt8) :
    isCommandResponse (statusFrame op s) = true := rfl

end Frame

namespace Host

theorem deliver_channel {h : Host} {c : Commander} (hc : h.channel = .commander c) (op : Opcode)
    (resp : Bytes) :
    ((deliver op resp).run h).2.channel =
      .commander { c with registry := (c.registry.complete op resp).2 } := by
  rcases hx : c.registry.complete op resp with ⟨b, r⟩
  -- a warning for an answer nobody waits for touches only the log
  cases b <;> simp [deliver, withRegistry, hc, hx]

theorem onComplete_short {h : Host} {c : Commander} (hc : h.channel = .commander c) {p : Bytes}
    (hp : p.length < 3) : (onComplete p).run h = (.error .invalidPacketFormat, h) := by
  have hn : CommandComplete.parse? p = none := CommandComplete.parse?_eq_none_iff.mpr hp
  simp only [onComplete, bind_run, get_run, hc, hn, pure_run]

theorem onStatus_short {h : Host} {c : Commander} (hc : h.channel = .commander c) {p : Bytes}
    (hp : p.length < 4) : (onStatus p).run h = (.error .invalidPacketFormat, h) := by
  have hn : CommandStatus.parse? p = none := CommandStatus.parse?_eq_none_iff.mpr hp
  simp only [onStatus, bind_run, get_run, hc, hn, pure_run]

theorem onComplete_cons {h : Host} {c : Commander} (hc : h.channel = .commander c)
    (n lo hi : UInt8) (rest : Bytes) :
    ((onComplete (n :: lo :: hi :: rest)).run h).1 = .ok () ∧
    ((onComplete (n :: lo :: hi :: rest)).run h).2.channel =
      if lo.toNat + 256 * hi.toNat = 0 then h.channel
      else .commander { c with registry := (c.registry.complete (Opcode.ofBytes lo hi) rest).2 } := by
  have hv := Opcode.ofBytes_value_eq_zero lo hi
  simp only [onComplete, bind_run, get_run, hc, CommandComplete.parse?]
  by_cases hz : lo.toNat + 256 * hi.toNat = 0
  · have hz' : (Opcode.ofBytes lo hi).value = 0 := hv.mpr hz
    rw [if_pos hz]
    -- a credits-only answer is logged and changes nothing else
    simp only [hz', if_true, bind_run, note_run, pure_run, hc, and_self]
  · have hz' : ¬ (Opcode.ofBytes lo hi).value = 0 := fun e => hz (hv.mp e)
    rw [if_neg hz]
    simp only [hz', if_false, bind_run, pure_run]
    exact ⟨trivial, deliver_channel hc (Opcode.ofBytes lo hi) rest⟩

theorem onStatus_cons {h : Host} {c : Commander} (hc : h.channel = .commander c)
    (s n lo hi : UInt8) (rest : Bytes) :
    ((onStatus (s :: n :: lo :: hi :: rest)).run h).1 = .ok () ∧
    ((onStatus (s :: n :: lo :: hi :: rest)).run h).2.channel =
      if lo.toNat + 256 * hi.toNat = 0 then h.channel
      else .commander { c with registry := (c.registry.complete (Opcode.ofBytes lo hi) [s]).2 } := by
  have hv := Opcode.ofBytes_value_eq_zero lo hi
  simp only [onStatus, bind_run, get_run, hc, CommandStatus.parse?]
  by_cases hz : lo.toNat + 256 * hi.toNat = 0
  · have hz' : (Opcode.ofBytes lo hi).value = 0 := hv.mpr hz
    rw [if_pos hz]
    -- a credits-only answer is logged and changes nothing else
    simp only [hz', if_true, bind_run, note_run, pure_run, hc, and_self]
  · have hz' : ¬ (Opcode.ofBytes lo hi).value = 0 := fun e => hz (hv.mp e)
    rw [if_neg hz]
    simp only [hz', if_false, bind_run, pure_run]
    exact ⟨trivial, deliver_channel hc (Opcode.ofBytes lo hi) [s]⟩

theorem onComplete_error_iff {h : Host} {c : Commander} (hc : h.channel = .commander c)
    (p : Bytes) : ((onComplete p).run h).1 = .error .invalidPacketFormat ↔ p.length < 3 := by
  match p with
  | [] | [_] | [_, _] => simp [onComplete_short hc]
  | n :: lo :: hi :: rest => simp [(onComplete_cons hc n lo hi rest).1]

theorem onStatus_error_iff {h : Host} {c : Commander} (hc : h.channel = .commander c)
    (p : Bytes) : ((onStatus p).run h).1 = .error .invalidPacketFormat ↔ p.length < 4 := by
  match p with
  | [] | [_] | [_, _] | [_, _, _] => simp [onStatus_short hc]
  | s :: n :: lo :: hi :: rest => simp [(onStatus_cons hc s n lo hi rest).1]

theorem handlePacket_completeFrame (op : Opcode) (r : Bytes) (hr : r.length ≤ 252) (h : Host) :
    (handlePacket (completeFrame op r)).run h = (onComplete (1 :: op.toLE ++ r)).run h := by
  simp only [handlePacket_eq_classify, Frame.classify_completeFrame op r hr, deliverTo]

theorem handlePacket_statusFrame (op : Opcode) (s : UInt8) (h : Host) :
    (handlePacket (statusFrame op s)).run h = (onStatus (s :: 1 :: op.toLE)).run h := by
  simp only [handlePacket_eq_classify, Frame.classify_statusFrame op s, deliverTo]

theorem completeFrame_registry {h : Host} {c : Commander} (hc : h.channel = .commander c)
    (op : Opcode) (hop : op.value ≠ 0) (r : Bytes) (hr : r.length ≤ 252) :
    ((handlePacket (completeFrame op r)).run h).2.channel =
      .commander { c with registry := (c.registry.complete op r).2 } := by
  obtain ⟨lo, hi, hle, hob⟩ := Opcode.toLE_eq op
  have hz : ¬ lo.toNat + 256 * hi.toNat = 0 := fun e =>
    hop (hob ▸ (Opcode.ofBytes_value_eq_zero lo hi).mpr e)
  rw [handlePacket_completeFrame op r hr, hle]
  have := (onComplete_cons hc 1 lo hi r).2
  simp only [List.cons_append, List.nil_append] at this ⊢
  rw [this, if_neg hz, hob]

theorem statusFrame_registry {h : Host} {c : Commander} (hc : h.channel = .commander c)
    (op : Opcode) (hop : op.value ≠ 0) (s : UInt8) :
    ((handlePacket (statusFrame op s)).run h).2.channel =
      .commander { c with registry := (c.registry.complete op [s]).2 } := by
  obtain ⟨lo, hi, hle, hob⟩ := Opcode.toLE_eq op
  have hz : ¬ lo.toNat + 256 * hi.toNat = 0 := fun e =>
    hop (hob ▸ (Opcode.ofBytes_value_eq_zero lo hi).mpr e)
  rw [handlePacket_statusFrame op s, hle]
  rw [(onStatus_cons hc s 1 lo hi []).2, if_neg hz, hob]

/-- The commander's handling of Command Complete and Command Status parameters, and the
route from a reply frame to the registration it answers. -/
theorem replies_reach_registry :
    (∀ (h : Host) (c : Commander), h.channel = .commander c → ∀ p : Bytes,
      ((((onComplete p).run h).1 = .error .invalidPacketFormat ↔ p.length < 3) ∧
        (p.length < 3 → (onComplete p).run h = (.error .invalidPacketFormat, h)) ∧
        ∀ n lo hi rest, p = n :: lo :: hi :: rest →
          ((onComplete p).run h).1 = .ok () ∧
          ((onComplete p).run h).2.channel =
            if lo.toNat + 256 * hi.toNat = 0 then h.channel
            else .commander { c with registry := (c.registry.complete (Opcode.ofBytes lo hi) rest).2 }) ∧
      ((((onStatus p).run h).1 = .error .invalidPacketFormat ↔ p.length < 4) ∧
        (p.length < 4 → (onStatus p).run h = (.error .invalidPacketFormat, h)) ∧
        ∀ s n lo hi rest, p = s :: n :: lo :: hi :: rest →
          ((onStatus p).run h).1 = .ok () ∧
          ((onStatus p).run h).2.channel =
            if lo.toNat + 256 * hi.toNat = 0 then h.channel
            else .commander { c with registry := (c.registry.complete (Opcode.ofBytes lo hi) [s]).2 })) ∧
    (∀ (op : Opcode) (r : Bytes), r.length ≤ 252 →
      Frame.isCommandResponse (completeFrame op r) = true ∧
      Frame.classify (completeFrame op r) = .ok (.deliver .commandComplete (1 :: op.toLE ++ r)) ∧
      ∀ h : Host, (handlePacket (completeFrame op r)).run h = (onComplete (1 :: op.toLE ++ r)).run h) ∧
    (∀ (op : Opcode) (s : UInt8),
      Frame.isCommandResponse (statusFrame op s) = true ∧
      Frame.classify (statusFrame op s) = .ok (.deliver .commandStatus (s :: 1 :: op.toLE)) ∧
      ∀ h : Host, (handlePacket (statusFrame op s)).run h = (onStatus (s :: 1 :: op.toLE)).run h) ∧
    (∀ (h : Host) (c : Commander), h.channel = .commander c → ∀ op : Opcode, op.value ≠ 0 →
      (∀ r : Bytes, r.length ≤ 252 →
        ((handlePacket (completeFrame op r)).run h).2.channel =
          .commander { c with registry := (c.registry.complete op r).2 }) ∧
      ∀ s : UInt8, ((handlePacket (statusFrame op s)).run h).2.channel =
        .commander { c with registry := (c.registry.complete op [s]).2 }) := by
  refine ⟨fun h c hc p => ⟨⟨onComplete_error_iff hc p, onComplete_short hc, ?_⟩,
    ⟨onStatus_error_iff hc p, onStatus_short hc, ?_⟩⟩,
    fun op r hr => ⟨Frame.isCommandResponse_completeFrame op r,
      Frame.classify_completeFrame op r hr, handlePacket_completeFrame op r hr⟩,
    fun op s => ⟨Frame.isCommandResponse_statusFrame op s, Frame.classify_statusFrame op s,
      handlePacket_statusFrame op s⟩,
    fun h c hc op hop => ⟨completeFrame_registry hc op hop, statusFrame_registry hc op hop⟩⟩
  · rintro n lo hi rest rfl
    exact onComplete_cons hc n lo hi rest
  · rintro s n lo hi rest rfl
    exact onStatus_cons hc s n lo hi rest

/-- A Reset answered on a commander with nothing registered: the reply laws at one concrete
host, opcode and answer, with each of their hypotheses checked there. -/
theorem replies_reach_registry_at_reset :
    ({ channel := .commander {} } : Host).channel = .commander {} ∧
    [(0x00 : UInt8)].length ≤ 252 ∧ (⟨0x0C03⟩ : Opcode).value ≠ 0 ∧
    ((handlePacket (completeFrame ⟨0x0C03⟩ [0x00])).run { channel := .commander {} }).2.channel =
      .commander { registry := (({} : Registry).complete ⟨0x0C03⟩ [0x00]).2 } ∧
    ((handlePacket (statusFrame ⟨0x0C03⟩ 0x00)).run { channel := .commander {} }).2.channel =
      .commander { registry := (({} : Registry).complete ⟨0x0C03⟩ [0x00]).2 } ∧
    (((onComplete [0x01, 0x03]).run { channel := .commander {} }).1 =
      .error .invalidPacketFormat) ∧
    Frame.isCommandResponse (completeFrame ⟨0x0C03⟩ [0x00]) = true :=
  ⟨rfl, by decide, by decide,
    (replies_reach_registry.2.2.2 { channel := .commander {} } {} rfl ⟨0x0C03⟩ (by decide)).1
      [0x00] (by decide),
    (replies_reach_registry.2.2.2 { channel := .commander {} } {} rfl ⟨0x0C03⟩ (by decide)).2
      0x00,
    ((replies_reach_registry.1 { channel := .commander {} } {} rfl [0x01, 0x03]).1.1).mpr
      (by decide),
    (replies_reach_registry.2.1 ⟨0x0C03⟩ [0x00] (by decide)).1⟩

end Host
end HciHost
