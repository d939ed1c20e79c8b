import HciHost.Proofs.Routing
import HciHost.Proofs.ReadLoop

/-!
# Command responses take the reader's path

The reader does not route a frame the way handling does: it runs a quick test on the first two
bytes (`Frame.isCommandResponse`) and handles a frame that passes it at once, on its own
thread, while every other frame waits for a worker. A command sent by a handler on a worker
waits for its response, so the response must never wait behind that worker.

This module shows the quick test and the routes agree, and what follows for every run of the
threads (`Threads.responses_handled_by_reader`): a frame routed to the command channel is
handled by the reader, a frame routed to an upper-layer callback by a worker of the pool, no
command response ever waits in the queue or in a worker's hands, and on either path the frame
is handled by `Host.dispatch` on the host the threads share.
-/

namespace HciHost

/-- A command response makes no upper-layer call. -/
theorem Frame.upperCalls_eq_nil {f : Bytes} (hr : Frame.isCommandResponse f = true) :
    Frame.upperCalls f = [] := by
  unfold Frame.upperCalls
  rcases hc : Frame.classify f with e | (p | ⟨(e | _ | _), p⟩ | ⟨c, p⟩)
  · rfl
  · rfl
  · exact absurd hc (Frame.classify_ne_deliver_l2cap e hr)
  all_goals rfl

/-- Handling a command response leaves the upper layer's calls as they were. -/
theorem Host.handlePacket_upper_calls {f : Bytes} (hr : Frame.isCommandResponse f = true)
    (h : Host) : ((Host.handlePacket f).run h).2.upper.calls = h.upper.calls := by
  obtain ⟨ch, lg, he⟩ := Host.handlePacket_run_state f h
  rw [he, Frame.upperCalls_eq_nil hr, List.append_nil]

namespace Threads

variable {s s' : Threads}

/-- A step that hands a frame over for handling runs `Host.dispatch` on it, on the shared
host; every other step hands nothing over. -/
theorem Step.host_of_handled {f : Bytes} {th : Handler} (hs : Step s s')
    (hh : s'.handled = s.handled ++ [(f, th)]) : s'.host = ((Host.dispatch f).run s.host).2 := by
  cases hs with
  | handleResponse _ _ | handleFrame _ =>
    simp only [List.append_cancel_left_eq, List.cons.injEq, Prod.mk.injEq, and_true] at hh
    rw [hh.1]
  -- the other steps keep the record, which cannot grow by one
  | _ =>
    have := congrArg List.length hh
    simp at this

/-- In every run of the threads: the reader's quick test is the test of the first two bytes;
a frame routed to the command channel passes it, and one that passes it makes no upper-layer
call; so every frame handled so far that was routed to the command channel was handled by the
reader, and every one routed to an upper-layer callback by a worker of the pool. No command
response waits in the queue or in a worker's hands, and whichever thread hands a frame over,
it is handled by `Host.dispatch`. -/
theorem responses_handled_by_reader (h : Host) (s : Threads) (hs : Reachable h s) :
    (∀ f, Frame.isCommandResponse f = true ↔
        2 ≤ f.length ∧ f.getD 0 0 = 0x04 ∧ (f.getD 1 0 = 0x0E ∨ f.getD 1 0 = 0x0F)) ∧
    (∀ f t p, Frame.classify f = .ok (.deliver t p) →
        (t = .commandComplete ∨ t = .commandStatus) → Frame.isCommandResponse f = true) ∧
    (∀ f (h' : Host), Frame.isCommandResponse f = true →
        ((Host.handlePacket f).run h').2.upper.calls = h'.upper.calls) ∧
    (∀ f th t p, (f, th) ∈ s.handled → Frame.classify f = .ok (.deliver t p) →
        ((t = .commandComplete ∨ t = .commandStatus) → th = .reader) ∧
        (∀ e, t = .l2cap e → ∃ i < max h.config.workers 1, th = .worker i)) ∧
    (∀ f ∈ s.waiting, Frame.isCommandResponse f = false) ∧
    (∀ s' f th, Step s s' → s'.handled = s.handled ++ [(f, th)] →
        s'.host = ((Host.dispatch f).run s.host).2) := by
  have hi := Invariant.of_reachable hs
  refine ⟨Frame.isCommandResponse_iff,
    fun f t p hd ht => Frame.isCommandResponse_of_deliver hd ht,
    fun f h' hr => Host.handlePacket_upper_calls hr h', fun f th t p hmem hd => ⟨?_, ?_⟩,
    hi.queued_not_response, fun s' f th hst hh => hst.host_of_handled hh⟩
  · -- the reader handles exactly the command responses, and a frame so routed is one
    intro ht
    exact (hi.handled_by (f, th) hmem).2 (Frame.isCommandResponse_of_deliver hd ht)
  · intro e he
    subst he
    -- a frame routed to the upper layer is no command response, so a worker handled it
    have hnr : th ≠ .reader := fun hth =>
      Frame.classify_ne_deliver_l2cap e ((hi.handled_by (f, th) hmem).1 hth) hd
    cases th with
    | reader => exact absurd rfl hnr
    | worker i => exact ⟨i, hi.handled_by_worker (f, .worker i) hmem i rfl, rfl⟩

/-- One worker and a link holding a Command Complete and then a data frame: the reader handles
the response itself, and the data frame goes through the queue to the worker. -/
theorem responses_handled_by_reader_mixed :
    let h₀ : Host :=
      { link := { inbound := [.frame [0x04, 0x0E, 0x01, 0x05], .frame [0x02, 0x01]] },
        config := { readBufferSize := 4, workers := 1 } }
    let s₀ : Threads :=
      { host := { config := { readBufferSize := 4, workers := 1 },
                  channel := .scripted { completes := [[0x05]] },
                  upper := { calls := [(.data, [0x01])] }, started := true, reader := .running },
        buffer := [0x02, 0x01, 0x01, 0x05], workers := [.idle],
        reads := [.bytes [0x04, 0x0E, 0x01, 0x05], .bytes [0x02, 0x01]],
        handled := [([0x04, 0x0E, 0x01, 0x05], .reader), ([0x02, 0x01], .worker 0)] }
    Reachable h₀ s₀ ∧
      s₀.handled = [([0x04, 0x0E, 0x01, 0x05], .reader), ([0x02, 0x01], .worker 0)] ∧
      ∀ f th t p, (f, th) ∈ s₀.handled → Frame.classify f = .ok (.deliver t p) →
        ((t = .commandComplete ∨ t = .commandStatus) → th = .reader) ∧
        (∀ e, t = .l2cap e → ∃ i < max h₀.config.workers 1, th = .worker i) := by
  intro h₀ s₀
  -- the run, step by step from the start; its end is `s₀`
  have h0 : Reachable h₀ (start h₀) := .refl
  have hrun :=
    (((((h0.tail (.readFrame rfl rfl (by decide))).tail
      (.handleResponse rfl rfl)).tail
      (.readFrame rfl rfl (by decide))).tail
      (.enqueue rfl rfl (by decide))).tail
      (@Step.take _ _ _ [] [] rfl rfl)).tail
      (@Step.handleFrame _ _ [] [] rfl)
  have hr : Reachable h₀ s₀ := hrun
  exact ⟨hr, rfl, (responses_handled_by_reader h₀ s₀ hr).2.2.2.1⟩

end Threads

end HciHost
