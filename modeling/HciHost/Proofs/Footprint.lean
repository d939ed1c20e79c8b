import HciHost.Host.Replies

/-!
# What handling a frame touches

A transport hands frames to `Host.dispatch` from several threads, so it matters what handling
a frame changes in the host they share. The answer is small: the command channel, the log,
and the upper layer's record of calls, by exactly the one call the frame's route makes
(`Frame.upperCalls`). The link, the configuration and the reader's phase are left alone
(`Host.dispatch_run_state`).

The proof goes by the footprint of the handlers: `Host.TouchesChannelLog x` says that running
`x` changes only the channel and the log, and it is closed under `bind`, so each handler of the
command channel is shown to have it by following its own code.
-/

namespace HciHost

/-- The upper-layer call that handling frame `f` makes, if it makes one. -/
def Frame.upperCalls (f : Bytes) : List (L2capEvent × Bytes) :=
  match Frame.classify f with
  | .ok (.deliver (.l2cap e) p) => [(e, p)]
  | _ => []

namespace Host

/-! ### Computations that touch only the channel and the log -/

/-- Running `x` changes nothing of the host but its channel and its log. -/
def TouchesChannelLog (x : HostM α) : Prop :=
  ∀ h, ∃ ch lg, (x.run h).2 = { h with channel := ch, logs := lg }

namespace TouchesChannelLog

theorem bind {x : HostM α} {f : α → HostM β} (hx : TouchesChannelLog x)
    (hf : ∀ a, TouchesChannelLog (f a)) : TouchesChannelLog (x >>= f) := by
  intro h
  obtain ⟨ch, lg, hx'⟩ := hx h
  obtain ⟨ch', lg', hf'⟩ := hf (x.run h).1 (x.run h).2
  refine ⟨ch', lg', ?_⟩
  show ((f (x.run h).1).run (x.run h).2).2 = _
  rw [hf', hx']

theorem pure (a : α) : TouchesChannelLog (Pure.pure a : HostM α) :=
  fun h => ⟨h.channel, h.logs, rfl⟩

theorem get : TouchesChannelLog (MonadState.get : HostM Host) :=
  fun h => ⟨h.channel, h.logs, rfl⟩

theorem note (lv : Level) (t : String) : TouchesChannelLog (HciHost.note lv t : HostM Unit) :=
  fun h => ⟨h.channel, _, rfl⟩

theorem withRegistry (f : Registry → α × Registry) (d : α) :
    TouchesChannelLog (Host.withRegistry f d) := by
  intro h
  simp only [Host.withRegistry, modifyGet_run]
  cases h.channel with
  | commander c => exact ⟨_, h.logs, rfl⟩
  | scripted s => exact ⟨h.channel, h.logs, rfl⟩

theorem withScript (f : Script → Script) : TouchesChannelLog (Host.withScript f) := by
  intro h
  cases hc : h.channel with
  | scripted s =>
    exact ⟨.scripted (f s), h.logs, by simp [Host.withScript, hc]⟩
  | commander c =>
    -- the record on the right is `h` itself, so only the left side needs the channel
    refine ⟨h.channel, h.logs, ?_⟩
    show ((Host.withScript f).run h).2 = h
    simp only [Host.withScript, modify_run]
    rw [hc]

theorem deliver (op : Opcode) (resp : Bytes) : TouchesChannelLog (Host.deliver op resp) := by
  unfold Host.deliver
  refine (note _ _).bind fun _ => (withRegistry _ _).bind fun taken => ?_
  cases taken
  · exact note _ _
  · exact pure _

theorem onComplete (p : Bytes) : TouchesChannelLog (Host.onComplete p) := by
  unfold Host.onComplete
  refine get.bind fun h => ?_
  cases h.channel with
  | scripted _ => exact (withScript _).bind fun _ => pure _
  | commander _ =>
    cases CommandComplete.parse? p with
    | none => exact pure _
    | some cc =>
      by_cases hz : cc.opcode.value = 0
      · simp only [hz, if_true]
        exact (note _ _).bind fun _ => pure _
      · simp only [hz, if_false]
        exact (deliver _ _).bind fun _ => pure _

theorem onStatus (p : Bytes) : TouchesChannelLog (Host.onStatus p) := by
  unfold Host.onStatus
  refine get.bind fun h => ?_
  cases h.channel with
  | scripted _ => exact (withScript _).bind fun _ => pure _
  | commander _ =>
    cases CommandStatus.parse? p with
    | none => exact pure _
    | some cs =>
      by_cases hz : cs.opcode.value = 0
      · simp only [hz, if_true]
        exact (note _ _).bind fun _ => pure _
      · simp only [hz, if_false]
        exact (deliver _ _).bind fun _ => pure _

/-- Such a computation adds no upper-layer call. -/
theorem upper {x : HostM α} (hx : TouchesChannelLog x) (h : Host) :
    ∃ ch lg, (x.run h).2 =
      { h with channel := ch, upper := { h.upper with calls := h.upper.calls ++ [] },
               logs := lg } := by
  obtain ⟨ch, lg, he⟩ := hx h
  exact ⟨ch, lg, by rw [he, List.append_nil]⟩

end TouchesChannelLog

/-! ### Handling a frame -/

/-- Handling a frame changes only the channel, the log and the upper layer's calls, by the one
call the frame's route makes. -/
theorem handlePacket_run_state (f : Bytes) (h : Host) :
    ∃ ch lg, ((handlePacket f).run h).2 =
      { h with channel := ch, upper := { h.upper with calls := h.upper.calls ++ Frame.upperCalls f },
               logs := lg } := by
  simp only [Host.handlePacket_eq_classify, Frame.upperCalls]
  -- one case per decision: refused, echo, the five routes by target, unhandled
  rcases Frame.classify f with e | (p | ⟨(e | _ | _), p⟩ | ⟨c, p⟩)
  · exact (TouchesChannelLog.pure _).upper h
  · exact ((TouchesChannelLog.note _ _).bind fun _ => TouchesChannelLog.pure _).upper h
  · exact ⟨h.channel, h.logs, rfl⟩
  · exact (TouchesChannelLog.onComplete p).upper h
  · exact (TouchesChannelLog.onStatus p).upper h
  · exact ((TouchesChannelLog.note _ _).bind fun _ => TouchesChannelLog.pure _).upper h

/-- What handling a frame for a transport changes: the channel, the log, and the upper layer's
calls, by the one call the frame's route makes. -/
theorem dispatch_run_state (f : Bytes) (h : Host) :
    ∃ ch lg, ((dispatch f).run h).2 =
      { h with channel := ch, upper := { h.upper with calls := h.upper.calls ++ Frame.upperCalls f },
               logs := lg } := by
  obtain ⟨ch, lg, he⟩ := handlePacket_run_state f h
  simp only [StateT.run] at he
  simp only [Host.dispatch, bind, StateT.bind, StateT.run]
  rcases hp : handlePacket f h with ⟨r, h1⟩
  rw [hp] at he
  simp only at he
  subst he
  -- a refusal adds one warning to the log, nothing else
  cases r with
  | ok u => exact ⟨ch, lg, rfl⟩
  | error e => exact ⟨ch, _, rfl⟩

@[simp] theorem dispatch_run_reader (f : Bytes) (h : Host) :
    ((dispatch f).run h).2.reader = h.reader := by
  obtain ⟨ch, lg, he⟩ := dispatch_run_state f h
  rw [he]

@[simp] theorem dispatch_run_upper_calls (f : Bytes) (h : Host) :
    ((dispatch f).run h).2.upper.calls = h.upper.calls ++ Frame.upperCalls f := by
  obtain ⟨ch, lg, he⟩ := dispatch_run_state f h
  rw [he]

end Host

end HciHost
