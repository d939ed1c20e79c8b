import HciHost.Host.Transport
import HciHost.Host.Replies
import HciHost.Proofs.RegistryLaws

/-!
# What reaches a commander's registry

A commander's registry changes in two ways: its own send calls register and cancel, and the
answers the controller sends complete. This module follows the second way through everything
that can run while a command is written: the controller's reaction, the frames handled on the
spot or read by the reader, and the handlers they reach.

* `CommandComplete.delivery?` and `CommandStatus.delivery?` name what a commander hands its
  registry for a parameter block: the opcode answered and the answer, unless the block is too
  short or only reports credits (`Host.onComplete_channel`, `Host.onStatus_channel`).
* `Host.DeliversAt x h` says that running `x` from `h` changes a commander only by completing
  a list of such deliveries, in order, each for a nonzero opcode. It is closed under `bind`,
  so each computation is shown to have it by following its own code, up to
  `Host.Delivers.writeLink`: whatever the link and the controller, writing a packet changes the
  commander only by deliveries.
-/

namespace HciHost

/-- What a commander hands its registry for Command Complete parameters: the opcode answered
and the return parameters, unless the parameters are too short or answer opcode zero. -/
def CommandComplete.delivery? (p : Bytes) : Option (Opcode × Bytes) :=
  (CommandComplete.parse? p).bind fun cc =>
    if cc.opcode.value = 0 then none else some (cc.opcode, cc.returned)

/-- What a commander hands its registry for Command Status parameters: the opcode answered and
the status byte, unless the parameters are too short or answer opcode zero. -/
def CommandStatus.delivery? (p : Bytes) : Option (Opcode × Bytes) :=
  (CommandStatus.parse? p).bind fun cs =>
    if cs.opcode.value = 0 then none else some (cs.opcode, [cs.status])

theorem CommandComplete.delivery?_ne_zero {p : Bytes} {d : Opcode × Bytes}
    (h : d ∈ CommandComplete.delivery? p) : d.1.value ≠ 0 := by
  simp only [delivery?, Option.mem_def, Option.bind_eq_some_iff] at h
  obtain ⟨cc, -, hd⟩ := h
  split at hd
  · cases hd
  · cases hd
    assumption

theorem CommandStatus.delivery?_ne_zero {p : Bytes} {d : Opcode × Bytes}
    (h : d ∈ CommandStatus.delivery? p) : d.1.value ≠ 0 := by
  simp only [delivery?, Option.mem_def, Option.bind_eq_some_iff] at h
  obtain ⟨cs, -, hd⟩ := h
  split at hd
  · cases hd
  · cases hd
    assumption

namespace Host

/-! ### The handlers of Command Complete and Command Status -/

theorem onComplete_channel {h : Host} {c : Commander} (hc : h.channel = .commander c)
    (p : Bytes) : ((onComplete p).run h).2.channel =
      .commander { c with registry := c.registry.completeAll (CommandComplete.delivery? p).toList } := by
  rcases p with _ | ⟨n, _ | ⟨lo, _ | ⟨hi, rest⟩⟩⟩
  · rw [onComplete_short hc (by simp)]
    exact hc
  · rw [onComplete_short hc (by simp)]
    exact hc
  · rw [onComplete_short hc (by simp)]
    exact hc
  · rw [(onComplete_cons hc n lo hi rest).2]
    by_cases hz : lo.toNat + 256 * hi.toNat = 0
    · -- opcode zero only reports credits
      have hv : (Opcode.ofBytes lo hi).value = 0 := (Opcode.ofBytes_value_eq_zero lo hi).mpr hz
      simp [hz, hc, CommandComplete.delivery?, CommandComplete.parse?, hv]
    · have hv : (Opcode.ofBytes lo hi).value ≠ 0 :=
        fun e => hz ((Opcode.ofBytes_value_eq_zero lo hi).mp e)
      rw [if_neg hz]
      simp [CommandComplete.delivery?, CommandComplete.parse?, hv, Registry.completeAll_cons]

theorem onStatus_channel {h : Host} {c : Commander} (hc : h.channel = .commander c)
    (p : Bytes) : ((onStatus p).run h).2.channel =
      .commander { c with registry := c.registry.completeAll (CommandStatus.delivery? p).toList } := by
  rcases p with _ | ⟨s, _ | ⟨n, _ | ⟨lo, _ | ⟨hi, rest⟩⟩⟩⟩
  · rw [onStatus_short hc (by simp)]
    exact hc
  · rw [onStatus_short hc (by simp)]
    exact hc
  · rw [onStatus_short hc (by simp)]
    exact hc
  · rw [onStatus_short hc (by simp)]
    exact hc
  · rw [(onStatus_cons hc s n lo hi rest).2]
    by_cases hz : lo.toNat + 256 * hi.toNat = 0
    · have hv : (Opcode.ofBytes lo hi).value = 0 := (Opcode.ofBytes_value_eq_zero lo hi).mpr hz
      simp [hz, hc, CommandStatus.delivery?, CommandStatus.parse?, hv]
    · have hv : (Opcode.ofBytes lo hi).value ≠ 0 :=
        fun e => hz ((Opcode.ofBytes_value_eq_zero lo hi).mp e)
      rw [if_neg hz]
      simp [CommandStatus.delivery?, CommandStatus.parse?, hv, Registry.completeAll_cons]

/-! ### Computations that change a commander only by deliveries -/

/-- Running `x` from `h` changes a commander only by completing deliveries in order, each for a
nonzero opcode. -/
def DeliversAt (x : HostM α) (h : Host) : Prop :=
  ∀ c, h.channel = .commander c → ∃ ds : List (Opcode × Bytes), (∀ d ∈ ds, d.1.value ≠ 0) ∧
    (x.run h).2.channel = .commander { c with registry := c.registry.completeAll ds }

/-- Running `x` from any host changes a commander only by deliveries. -/
def Delivers (x : HostM α) : Prop :=
  ∀ h, DeliversAt x h

namespace DeliversAt

variable {x : HostM α} {h : Host}

theorem of_channel (hx : (x.run h).2.channel = h.channel) : DeliversAt x h :=
  fun c hc => ⟨[], by simp, by rw [hx, hc]; rfl⟩

theorem bind {f : α → HostM β} (hx : DeliversAt x h) (hf : DeliversAt (f (x.run h).1) (x.run h).2) :
    DeliversAt (x >>= f) h := by
  intro c hc
  obtain ⟨ds, hds, hx'⟩ := hx c hc
  obtain ⟨ds', hds', hf'⟩ := hf _ hx'
  refine ⟨ds ++ ds', fun d hd => ?_, ?_⟩
  · rcases List.mem_append.mp hd with hd | hd
    · exact hds d hd
    · exact hds' d hd
  · rw [bind_run, hf', Registry.completeAll_append]

theorem get_bind {f : Host → HostM β} (hf : DeliversAt (f h) h) : DeliversAt (get >>= f) h :=
  hf

theorem set_bind {h' : Host} {f : PUnit → HostM β} (hc : h'.channel = h.channel)
    (hf : DeliversAt (f ⟨⟩) h') : DeliversAt (set h' >>= f) h := by
  intro c hcc
  exact hf c (hc.trans hcc)

end DeliversAt

namespace Delivers

theorem pure (a : α) : Delivers (Pure.pure a : HostM α) :=
  fun _ => .of_channel rfl

theorem note (lv : Level) (t : String) : Delivers (HciHost.note lv t : HostM Unit) :=
  fun _ => .of_channel rfl

theorem bind {x : HostM α} {f : α → HostM β} (hx : Delivers x) (hf : ∀ a, Delivers (f a)) :
    Delivers (x >>= f) :=
  fun h => (hx h).bind (hf _ _)

theorem modify_of_channel {f : Host → Host} (hf : ∀ h, (f h).channel = h.channel) :
    Delivers (modify f : HostM PUnit) :=
  fun h => .of_channel (hf h)

theorem forM {l : List α} {f : α → HostM PUnit} (hf : ∀ a, Delivers (f a)) :
    Delivers (l.forM f) := by
  induction l with
  | nil => exact pure _
  | cons a l ih => exact (hf a).bind fun _ => ih

theorem onComplete (p : Bytes) : Delivers (Host.onComplete p) := by
  intro h c hc
  refine ⟨(CommandComplete.delivery? p).toList, fun d hd => ?_, onComplete_channel hc p⟩
  exact CommandComplete.delivery?_ne_zero (Option.mem_toList.mp hd)

theorem onStatus (p : Bytes) : Delivers (Host.onStatus p) := by
  intro h c hc
  refine ⟨(CommandStatus.delivery? p).toList, fun d hd => ?_, onStatus_channel hc p⟩
  exact CommandStatus.delivery?_ne_zero (Option.mem_toList.mp hd)

theorem upperCall (e : L2capEvent) (p : Bytes) : Delivers (Host.upperCall e p) :=
  fun _ => .of_channel rfl

theorem handlePacket (f : Bytes) : Delivers (Host.handlePacket f) := by
  rw [Host.handlePacket_eq_classify]
  -- one case per decision: refused, echo, the five routes by target, unhandled
  rcases Frame.classify f with e | (p | ⟨(e | _ | _), p⟩ | ⟨c, p⟩)
  · exact pure _
  · exact (note _ _).bind fun _ => pure _
  · exact upperCall e p
  · exact onComplete p
  · exact onStatus p
  · exact (note _ _).bind fun _ => pure _

theorem dispatch (f : Bytes) : Delivers (Host.dispatch f) := by
  unfold Host.dispatch
  refine (handlePacket f).bind fun r => ?_
  cases r with
  | ok u => exact pure _
  | error e => exact note _ _

theorem stopReader (r : CloseReason) : Delivers (Host.stopReader r) := by
  unfold Host.stopReader
  refine (note _ _).bind fun _ => fun h => .get_bind ?_
  -- the workers log their exits, then only the reader's phase changes
  exact ((forM fun i => note _ _) h).bind (DeliversAt.of_channel rfl)

theorem readOnce : Delivers Host.readOnce := by
  intro h
  unfold Host.readOnce
  refine .get_bind ?_
  split
  · -- the reader reads once; the read moves only the link along
    split
    refine .set_bind rfl ?_
    split
    · exact pure _ _
    · exact ((stopReader _).bind fun _ => pure _) _
    · exact ((dispatch _).bind fun _ => pure _) _
    · split
      · exact pure _ _
      · exact ((stopReader _).bind fun _ => pure _) _
  · exact pure _ h

theorem pumpFor (n : Nat) : Delivers (Host.pumpFor n) := by
  induction n with
  | zero => exact pure _
  | succ n ih =>
    unfold Host.pumpFor
    refine readOnce.bind fun b => ?_
    cases b
    · exact pure _
    · exact ih

theorem pump : Delivers Host.pump :=
  fun h => .get_bind (pumpFor _ h)

theorem writeLink (pkt : Bytes) : Delivers (Host.writeLink pkt) := by
  intro h
  unfold Host.writeLink
  refine .get_bind ?_
  split
  · -- refused at once
    exact .set_bind rfl (pure _ _)
  · split
    · -- a deaf controller only queues the packet
      exact .set_bind rfl (pure _ _)
    · split
      split
      · exact .set_bind rfl (pure _ _)
      · exact .set_bind rfl (pure _ _)
      · -- the answer's frames are handled on the spot, or read by the reader
        refine .set_bind rfl ?_
        split
        · refine ((forM fun f => (handlePacket f).bind fun r => ?_).bind fun _ => pure _) _
          exact modify_of_channel fun _ => rfl
        · refine ((?_ : Delivers (modify _)).bind fun _ => pump.bind fun _ => pure _) _
          exact modify_of_channel fun _ => rfl

end Delivers

end Host

end HciHost
