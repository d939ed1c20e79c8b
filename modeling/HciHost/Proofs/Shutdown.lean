import HciHost.Host.Stopping
import HciHost.Proofs.ReadLoop
import HciHost.Proofs.Deliveries

/-!
# What a returning `shutdown` has waited for

A call of `shutdown` that holds the reader's handle returns only once the reader thread has
ended, and by then the reader's loop has exited, every worker has exited and the host shows why
the reader stopped. A call that finds the handle gone returns at once, whatever the reader is
doing. Along every run of a started transport, with any number of calls of `shutdown` and any
other calls between them:

* `Stopping.Inv`: at most one call holds the handle, which is then out of the transport; once
  the handle is out, a call holds it or the reader is done; and every call that returned `ok`
  left the reader done, or another call holds the handle. It holds of every reachable state.
* `Stopping.shutdown_ok_or_joining`: a call that has returned `ok` has left the reader done,
  unless another call still holds the reader's handle.
* `Stopping.shutdown_returns_while_reading`: that second case happens. Of two calls, the first
  takes the handle and waits; the second finds it gone and returns while the reader has not
  stopped and the host shows no close reason.
-/

namespace HciHost

namespace Stopping

/-- The reader thread is done: its loop exited, every worker exited, and the host shows why
the reader stopped. -/
def ReaderDone (s : Stopping) : Prop :=
  ∃ r, s.threads.reader = .finished r ∧ (∀ w ∈ s.threads.workers, w = .exited) ∧
    s.threads.host.closeReason = some r

/-- Some call of `shutdown` holds the reader's handle. -/
def Joining (s : Stopping) : Prop :=
  ∃ j : Nat, s.calls[j]? = some .joining

/-- What holds in every state a run of a started transport reaches. -/
structure Inv (s : Stopping) : Prop where
  /-- The reason is published only once every worker has exited. -/
  finished_all_exited : ∀ r, s.threads.reader = .finished r → ∀ w ∈ s.threads.workers, w = .exited
  /-- The host shows the reader stopped exactly once the reason is published. -/
  published : s.threads.host.reader = s.threads.reader.phase
  /-- A call holding the handle took it out of the transport. -/
  joining_taken : ∀ i : Nat, s.calls[i]? = some .joining → s.handle = false
  /-- At most one call holds the handle. -/
  joining_unique : ∀ i j : Nat, s.calls[i]? = some .joining → s.calls[j]? = some .joining → i = j
  /-- Once the handle is out of the transport, a call holds it or the reader is done. -/
  taken : s.handle = false → s.Joining ∨ s.ReaderDone
  /-- A call that returned `ok` left the reader done, or another call holds the handle. -/
  returned_ok : ∀ i : Nat, s.calls[i]? = some (.returned (.ok ())) → s.ReaderDone ∨ s.Joining

/-! ### Closing the link -/

/-- Closing changes only the link and the log. -/
theorem closeRun_eq (h : Host) : ∃ l lg, (closeRun h).2 = { h with link := l, logs := lg } := by
  rw [closeRun, Host.bind_run, Host.note_run, Host.closeLink, Host.get_bind_run]
  cases hk : h.link.kind with
  | stuck => exact ⟨_, _, rfl⟩
  | memory => exact ⟨_, _, rfl⟩
  | socket s =>
    cases hc : h.link.closed <;> exact ⟨_, _, rfl⟩

@[simp] theorem closeRun_reader (h : Host) : (closeRun h).2.reader = h.reader := by
  obtain ⟨l, lg, he⟩ := closeRun_eq h
  rw [he]

/-! ### The calls of `shutdown` -/

section Calls

variable {α : Type} {l : List α} {i j : Nat} {a b v : α}

/-- A call that moves from `a` to `b`, neither of them `v`, leaves the calls at `v` as they
were. -/
theorem getElem?_set_eq_some_iff (hi : l[i]? = some a) (ha : a ≠ v) (hb : b ≠ v) :
    (l.set i b)[j]? = some v ↔ l[j]? = some v := by
  constructor
  · intro h
    rcases getElem?_set_cases h with ⟨-, rfl⟩ | ⟨-, h⟩
    · exact absurd rfl hb
    · exact h
  · intro h
    -- call `i` was not at `v`, so it is another call
    have hji : i ≠ j := fun hij => by
      subst hij
      rw [hi] at h
      exact ha (Option.some.inj h)
    rw [List.getElem?_set_ne hji]
    exact h

end Calls

/-! ### What a step keeps -/

section Step

variable {s : Stopping}

/-- The host shows why the reader stopped, once it is published. -/
theorem closeReason_of_finished (hp : s.threads.host.reader = s.threads.reader.phase)
    {r : CloseReason} (hr : s.threads.reader = .finished r) : s.threads.host.closeReason = some r := by
  rw [Host.closeReason_eq_some, hp, hr]
  rfl

/-- Once the reader is done, no thread moves. -/
theorem not_readerDone_of_step {t : Threads} (ht : Threads.Step s.threads t) : ¬ s.ReaderDone :=
  fun ⟨_, hr, hw, _⟩ => Threads.no_step_of_finished hr hw ht

/-- Other calls leave the reader done: they do not change what the host shows of the
reader. -/
theorem ReaderDone.withHost (hd : s.ReaderDone) {h : Host} (hr : h.reader = s.threads.host.reader) :
    ({ s with threads := { s.threads with host := h } } : Stopping).ReaderDone := by
  obtain ⟨r, hfin, hall, hc⟩ := hd
  refine ⟨r, hfin, hall, ?_⟩
  rw [Host.closeReason_eq_some] at hc ⊢
  exact hr.trans hc

theorem ReaderDone.withCalls (hd : s.ReaderDone) (calls : List ShutdownAt) (handle : Bool) :
    ({ s with calls, handle } : Stopping).ReaderDone :=
  hd

end Step

/-! ### Every run -/

/-- Every call starts by closing the link. -/
theorem start_calls {h : Host} {n i : Nat} {x : ShutdownAt} (hi : (start h n).calls[i]? = some x) :
    x = .closing :=
  List.eq_of_mem_replicate (List.mem_of_getElem? hi)

theorem inv_start (h : Host) (n : Nat) : (start h n).Inv where
  finished_all_exited := fun _ hr => by cases hr
  published := rfl
  joining_taken := fun _ hi => by cases start_calls hi
  joining_unique := fun _ _ hi => by cases start_calls hi
  taken := fun hh => by cases hh
  returned_ok := fun _ hi => by cases start_calls hi

/-- A call that moves between points that are neither `joining` nor a return with `ok`, while
the host changes nothing the reader shows, keeps the invariant. -/
theorem Inv.move_host {s : Stopping} (hi : s.Inv) {i : Nat} {a b : ShutdownAt} {h : Host}
    (hc : s.calls[i]? = some a) (haj : a ≠ .joining) (hao : a ≠ .returned (.ok ()))
    (hbj : b ≠ .joining) (hbo : b ≠ .returned (.ok ())) (hr : h.reader = s.threads.host.reader) :
    ({ s with threads := { s.threads with host := h }, calls := s.calls.set i b } : Stopping).Inv := by
  have hj : ∀ j, (s.calls.set i b)[j]? = some ShutdownAt.joining ↔
      s.calls[j]? = some ShutdownAt.joining :=
    fun _ => getElem?_set_eq_some_iff hc haj hbj
  have hok : ∀ j, (s.calls.set i b)[j]? = some (ShutdownAt.returned (.ok ())) ↔
      s.calls[j]? = some (ShutdownAt.returned (.ok ())) :=
    fun _ => getElem?_set_eq_some_iff hc hao hbo
  exact { finished_all_exited := hi.finished_all_exited
          published := hr.trans hi.published
          joining_taken := fun j hj' => hi.joining_taken j ((hj j).mp hj')
          joining_unique := fun j k hj' hk' => hi.joining_unique j k ((hj j).mp hj') ((hj k).mp hk')
          taken := fun hh => (hi.taken hh).imp (fun ⟨j, hj'⟩ => ⟨j, (hj j).mpr hj'⟩)
            fun hd => hd.withHost hr
          returned_ok := fun j hret => (hi.returned_ok j ((hok j).mp hret)).imp
            (fun hd => hd.withHost hr) fun ⟨k, hk'⟩ => ⟨k, (hj k).mpr hk'⟩ }

/-- Every step keeps the invariant: a step of the reader or a worker keeps the published
state; a call that closes the link, or any other call, leaves the reader and the handle alone;
taking the handle makes its caller the one that holds it; a call that finds the handle gone
returns while another holds it, or after the reader is done; and joining returns once the
reader is done. -/
theorem Inv.step {s s' : Stopping} (hi : s.Inv) (hs : Step s s') : s'.Inv := by
  cases hs with
  | thread ht =>
    have hnd := not_readerDone_of_step ht
    exact { finished_all_exited := Threads.finished_all_exited_step ht hi.finished_all_exited
            published := Threads.published_step ht hi.published
            joining_taken := hi.joining_taken
            joining_unique := hi.joining_unique
            taken := fun hh => .inl ((hi.taken hh).resolve_right hnd)
            returned_ok := fun i hr => .inr ((hi.returned_ok i hr).resolve_left hnd) }
  | other h hr _ =>
    exact { finished_all_exited := hi.finished_all_exited
            published := hr.trans hi.published
            joining_taken := hi.joining_taken
            joining_unique := hi.joining_unique
            taken := fun hh => (hi.taken hh).imp id fun hd => hd.withHost hr
            returned_ok := fun i hret => (hi.returned_ok i hret).imp (fun hd => hd.withHost hr) id }
  | @close i h hc hcl | @closeFailed i _ h hc hcl =>
    -- closing leaves what the host shows of the reader alone, whatever its outcome
    have hr : h.reader = s.threads.host.reader := by
      rw [← closeRun_reader s.threads.host, hcl]
    exact hi.move_host hc (by simp) (by simp) (by simp) (by simp) hr
  | @take i hc hh =>
    -- no call held the handle, which was still in the transport
    have hnone : ∀ j, s.calls[j]? ≠ some ShutdownAt.joining := fun j hj => by
      rw [hi.joining_taken j hj] at hh
      cases hh
    have hj : ∀ j, (s.calls.set i .joining)[j]? = some ShutdownAt.joining → j = i := fun j hj => by
      rcases getElem?_set_cases hj with ⟨rfl, -⟩ | ⟨-, hj⟩
      · rfl
      · exact absurd hj (hnone j)
    have hself : (s.calls.set i .joining)[i]? = some ShutdownAt.joining := by
      rw [List.getElem?_set_self (List.getElem?_eq_some_iff.mp hc).1]
    exact { finished_all_exited := hi.finished_all_exited
            published := hi.published
            joining_taken := fun _ _ => rfl
            joining_unique := fun j k hj' hk' => (hj j hj').trans (hj k hk').symm
            taken := fun _ => .inl ⟨i, hself⟩
            returned_ok := fun _ _ => .inr ⟨i, hself⟩ }
  | @noHandle i hc hh =>
    have hj : ∀ j, (s.calls.set i (.returned (.ok ())))[j]? = some ShutdownAt.joining ↔
        s.calls[j]? = some ShutdownAt.joining :=
      fun _ => getElem?_set_eq_some_iff hc (by simp) (by simp)
    have hjoin : s.Joining → Joining { s with calls := s.calls.set i (.returned (.ok ())) } :=
      fun ⟨j, hj'⟩ => ⟨j, (hj j).mpr hj'⟩
    -- the call returns while another holds the handle, or after the reader is done
    have hwhy := (hi.taken hh).imp hjoin fun hd =>
      hd.withCalls (s.calls.set i (.returned (.ok ()))) s.handle
    exact { finished_all_exited := hi.finished_all_exited
            published := hi.published
            joining_taken := fun j hj' => hi.joining_taken j ((hj j).mp hj')
            joining_unique := fun j k hj' hk' => hi.joining_unique j k ((hj j).mp hj') ((hj k).mp hk')
            taken := fun _ => hwhy
            returned_ok := fun _ _ => hwhy.symm }
  | @join i r hc hr =>
    -- the reader is done: the reason is published and every worker exited
    have hd : s.ReaderDone :=
      ⟨r, hr, hi.finished_all_exited r hr, closeReason_of_finished hi.published hr⟩
    have hj : ∀ j, (s.calls.set i (.returned (.ok ())))[j]? = some ShutdownAt.joining →
        s.calls[j]? = some ShutdownAt.joining := fun j hj' => by
      rcases getElem?_set_cases hj' with ⟨-, h⟩ | ⟨-, h⟩
      · cases h
      · exact h
    exact { finished_all_exited := hi.finished_all_exited
            published := hi.published
            joining_taken := fun j hj' => hi.joining_taken j (hj j hj')
            joining_unique := fun j k hj' hk' => hi.joining_unique j k (hj j hj') (hj k hk')
            taken := fun _ => .inr (hd.withCalls _ s.handle)
            returned_ok := fun _ _ => .inl (hd.withCalls _ s.handle) }

theorem Inv.of_reachable {h : Host} {n : Nat} {s : Stopping} (hs : Reachable h n s) : s.Inv := by
  induction hs with
  | refl => exact inv_start h n
  | tail _ hst ih => exact ih.step hst

/-! ### What a returning call has waited for -/

/-- Whatever the interleaving of the reader, the workers, any number of calls of `shutdown` and
any other calls: a call of `shutdown` that has returned `ok` has left the reader's loop exited,
every worker exited and the close reason published, unless another call of `shutdown` still
holds the reader's handle. -/
theorem shutdown_ok_or_joining {h : Host} {n : Nat} {s : Stopping} (hs : Reachable h n s)
    {i : Nat} (hi : s.calls[i]? = some (.returned (.ok ()))) :
    s.ReaderDone ∨ ∃ j, j ≠ i ∧ s.calls[j]? = some .joining := by
  rcases (Inv.of_reachable hs).returned_ok i hi with hd | ⟨j, hj⟩
  · exact .inl hd
  · -- the call holding the handle is not the one that returned
    refine .inr ⟨j, fun hji => ?_, hj⟩
    rw [hji, hi] at hj
    cases hj

/-- One call of `shutdown` on a transport with one worker and an empty link: the call closes the
link, the reader reads zero bytes, the worker exits, the reader publishes the reason, and the
call takes the handle and joins the reader. -/
theorem shutdown_ok_or_joining_single_call :
    let h₀ : Host := { config := { readBufferSize := 1, workers := 1 } }
    let s₀ : Stopping :=
      { threads :=
          { host := { link := { closed := true }, config := { readBufferSize := 1, workers := 1 },
                      started := true, reader := .stopped .endOfStream,
                      logs := [⟨.info, "closing HCI transport"⟩,
                        ⟨.warn, CloseReason.endOfStream.warning⟩, ⟨.trace, workerExitText 0⟩] },
            buffer := [0], reader := .finished .endOfStream, workers := [.exited],
            reads := [.bytes []] },
        handle := false, calls := [.returned (.ok ())] }
    Reachable h₀ 1 s₀ ∧ s₀.calls[0]? = some (.returned (.ok ())) ∧
      (s₀.ReaderDone ∨ ∃ j, j ≠ 0 ∧ s₀.calls[j]? = some .joining) := by
  intro h₀ s₀
  have hrun :=
    (((((Relation.ReflTransGen.single (@Step.close (start h₀ 1) 0 _ rfl rfl)).tail
      (Step.thread (.readEnd rfl rfl))).tail
      (Step.thread (@Threads.Step.exit _ _ [] [] rfl rfl rfl))).tail
      (Step.thread (.publish rfl (by decide)))).tail
      (@Step.take _ 0 rfl rfl)).tail
      (@Step.join _ 0 _ rfl rfl)
  have hr : Reachable h₀ 1 s₀ := hrun
  exact ⟨hr, rfl, shutdown_ok_or_joining hr rfl⟩

/-- Two calls of `shutdown` on a transport whose reader is running: the first closes the link and
takes the reader's handle; the second closes the link, finds the handle gone and returns `ok`
before the reader has read the end of the link, while no worker has exited and the host shows
no close reason. So a call of `shutdown` can return `ok` with the reader not done. -/
theorem shutdown_returns_while_reading :
    let h₀ : Host := { config := { readBufferSize := 1, workers := 1 } }
    ¬ ∀ s, Reachable h₀ 2 s → ∀ i : Nat, s.calls[i]? = some (.returned (.ok ())) → s.ReaderDone := by
  intro h₀ hall
  let s₁ : Stopping :=
    { threads :=
        { host := { link := { closed := true }, config := { readBufferSize := 1, workers := 1 },
                    started := true, reader := .running,
                    logs := [⟨.info, "closing HCI transport"⟩, ⟨.info, "closing HCI transport"⟩] },
          buffer := [0], workers := [.idle] },
      handle := false, calls := [.joining, .returned (.ok ())] }
  have hrun :=
    (((Relation.ReflTransGen.single (@Step.close (start h₀ 2) 0 _ rfl rfl)).tail
      (@Step.take _ 0 rfl rfl)).tail
      (@Step.close _ 1 _ rfl rfl)).tail
      (@Step.noHandle _ 1 rfl rfl)
  have hr : Reachable h₀ 2 s₁ := hrun
  -- the second call returned, and the reader is still about to read
  obtain ⟨r, hfin, -, -⟩ := hall s₁ hr 1 rfl
  cases hfin

end Stopping

end HciHost
