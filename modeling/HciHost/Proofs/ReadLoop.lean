import HciHost.Host.Threads
import HciHost.Proofs.Footprint

/-!
# What every run of the reader and the workers does

`Threads.Step` lets the reader and the workers of a transport move in any order. This module
proves what holds in every state a run reaches, whatever the interleaving, the number of
workers or the depth of the queue:

* no frame is lost or handled twice: the frames handled so far and the frames still in flight
  (queued, in a worker's hands, or in the reader's buffer) are, as a multiset, exactly the
  frames the reads returned (`Invariant.conserved`);
* the reader skips interrupted reads and stops at the first read of zero bytes or other
  failure, and reads nothing after it (`Invariant.reads_continue`, `Invariant.last_read`);
* the reason for the stop is published only once every worker has exited and the queue is
  empty (`Invariant.published`, `Invariant.finished_all_exited`), and after that no thread
  moves (`Threads.no_step_of_finished`);
* the reader handles exactly the command responses, and every other frame is handled by a
  worker of the pool (`Invariant.handled_by`, `Invariant.handled_by_worker`).

`Threads.Invariant` gathers these facts; it holds at the start and each of its fields is
kept by every step, by one lemma per field with one case per kind of step. The main
statement, `Threads.frames_handled_once`, reads them off every reachable state, and off one
whose host shows a close reason.
-/

namespace HciHost

namespace ReadResult

/-- Why a read ends the reader's loop, if it does: it gave zero bytes, or it failed other than
by an interruption. -/
def stopReason : ReadResult → Option CloseReason
  | .bytes [] => some .endOfStream
  | .bytes (_ :: _) => none
  | .failed e => if e.kind = .interrupted then none else some (.readError e.kind e.message)
  | .blocked => none

/-- The frame a read delivered, if it delivered one. -/
def frame? : ReadResult → Option Bytes
  | .bytes [] => none
  | .bytes (b :: bs) => some (b :: bs)
  | _ => none

theorem frame?_bytes {b : Bytes} (hb : b ≠ []) : frame? (.bytes b) = some b := by
  cases b with
  | nil => exact absurd rfl hb
  | cons _ _ => rfl

end ReadResult

/-- The reason a reader stopped for, once it has. -/
@[simp] def ReaderAt.reason? : ReaderAt → Option CloseReason
  | .joining r | .finished r => some r
  | _ => none

/-- The phase a host shows for its reader while the threads are at this stage: stopped only
once the reason is published. -/
@[simp] def ReaderAt.phase : ReaderAt → ReaderPhase
  | .finished r => .stopped r
  | _ => .running

theorem ReaderAt.phase_eq_stopped {a : ReaderAt} {r : CloseReason} :
    a.phase = .stopped r ↔ a = .finished r := by
  cases a <;> simp

/-- The frame a worker has in hand, if any. -/
@[simp] def WorkerAt.frame? : WorkerAt → Option Bytes
  | .busy f => some f
  | _ => none

theorem Host.closeReason_eq_some {h : Host} {r : CloseReason} :
    h.closeReason = some r ↔ h.reader = .stopped r := by
  unfold Host.closeReason
  cases h.reader <;> simp

namespace Threads

/-- The frame the reader holds in its buffer, if it holds one. -/
def held (s : Threads) : List Bytes :=
  match s.reader with
  | .holding n => [s.buffer.take n]
  | _ => []

/-- The frames waiting for a worker or in a worker's hands. -/
def waiting (s : Threads) : List Bytes :=
  s.queue ++ s.workers.filterMap WorkerAt.frame?

/-- The frames read and not handled yet: queued, in a worker's hands, or held by the
reader. -/
def inFlight (s : Threads) : List Bytes :=
  s.waiting ++ s.held

/-- The frames the reads returned, in order. -/
def framesRead (s : Threads) : List Bytes :=
  s.reads.filterMap ReadResult.frame?

/-- The frames handed over for handling, in order. -/
def handledFrames (s : Threads) : List Bytes :=
  s.handled.map Prod.fst

/-- What holds in every state a run of the threads of a transport started on `h` reaches. -/
structure Invariant (h : Host) (s : Threads) : Prop where
  /-- The pool keeps its workers, at least one. -/
  workers_length : s.workers.length = max h.config.workers 1
  /-- No frame is lost or handled twice. -/
  conserved : List.Perm (s.handledFrames ++ s.inFlight) s.framesRead
  /-- Every read before the last went on with the loop. -/
  reads_continue : ∀ r ∈ s.reads.dropLast, r.stopReason = none
  /-- The reader stopped exactly when, and for the reason that, its last read ended the
  loop. -/
  last_read : s.reads.getLast?.bind ReadResult.stopReason = s.reader.reason?
  /-- A worker exits only once the reader stopped and the queue is empty. -/
  exited_after_stop : WorkerAt.exited ∈ s.workers → s.queue = [] ∧ s.reader.reason?.isSome
  /-- The reason is published only once every worker has exited. -/
  finished_all_exited : ∀ r, s.reader = .finished r → ∀ w ∈ s.workers, w = .exited
  /-- The host shows the reader stopped exactly once the reason is published. -/
  published : s.host.reader = s.reader.phase
  /-- The upper layer got the calls of the frames handled, in the order they were handled. -/
  upper_calls : s.host.upper.calls = h.upper.calls ++ s.handledFrames.flatMap Frame.upperCalls
  /-- The reader handles exactly the command responses. -/
  handled_by : ∀ p ∈ s.handled, (p.2 = .reader ↔ Frame.isCommandResponse p.1 = true)
  /-- Every other frame is handled by one of the pool's workers. -/
  handled_by_worker : ∀ p ∈ s.handled, ∀ i, p.2 = .worker i → i < max h.config.workers 1
  /-- No command response waits in the queue or in a worker's hands. -/
  queued_not_response : ∀ f ∈ s.waiting, Frame.isCommandResponse f = false

/-! ### What one step keeps

One lemma per field of `Invariant`, each a case analysis on the kind of step. -/

section Step

variable {h : Host} {s s' : Threads}

theorem workers_length_step (hs : Step s s') : s'.workers.length = s.workers.length := by
  cases hs with
  | handOver _ _ _ hw | take hw _ | exit hw _ _ | handleFrame hw => simp [hw]
  | _ => rfl

/-- A worker that is not the one a step picks stays where it was. -/
theorem mem_replace {w x y : WorkerAt} {pre post : List WorkerAt} (hm : w ∈ pre ++ x :: post)
    (hne : w ≠ x) : w ∈ pre ++ y :: post := by
  simp only [List.mem_append, List.mem_cons] at hm ⊢
  grind

theorem conserved_step (hs : Step s s')
    (hc : List.Perm (s.handledFrames ++ s.inFlight) s.framesRead) :
    List.Perm (s'.handledFrames ++ s'.inFlight) s'.framesRead := by
  simp only [handledFrames, inFlight, waiting, framesRead] at hc ⊢
  cases hs with
  | readFrame hr _ hb =>
    -- the frame lands at the front of the buffer, so the reader holds exactly what it read
    simp only [held, hr, List.take_left', List.filterMap_append, ReadResult.frame?_bytes hb,
      List.filterMap_cons, List.filterMap_nil] at hc ⊢
    simpa only [List.append_assoc, List.append_nil] using hc.append_right [_]
  | readEnd hr _ | readInterrupted hr _ _ | readFailed hr _ _ =>
    simpa [held, hr, ReadResult.frame?, List.filterMap_cons] using hc
  | exit hw _ hr =>
    simpa only [hw, List.filterMap_append, List.filterMap_cons, WorkerAt.frame?, held, hr] using hc
  | publish hr _ => simpa only [held, hr] using hc
  -- the other steps move one frame between the handled ones, the queue, the workers and the
  -- reader's hands; counting each frame shows the multiset is the same
  | handleResponse hr _ | enqueue hr _ _ =>
    simp only [held, hr, List.map_append] at hc ⊢
    refine (List.perm_iff_count.2 fun a => ?_).trans hc
    simp only [List.count_append, List.map_cons, List.map_nil, List.count_cons, List.count_nil]
    omega
  | handOver hr _ _ hw =>
    simp only [held, hr, hw, List.filterMap_append, List.filterMap_cons, WorkerAt.frame?] at hc ⊢
    refine (List.perm_iff_count.2 fun a => ?_).trans hc
    simp only [List.count_append, List.count_cons, List.count_nil]
    omega
  | take hw hq =>
    simp only [held, hq, hw, List.filterMap_append, List.filterMap_cons, WorkerAt.frame?] at hc ⊢
    refine (List.perm_iff_count.2 fun a => ?_).trans hc
    simp only [List.count_append, List.count_cons]
    omega
  | handleFrame hw =>
    simp only [held, hw, List.filterMap_append, List.filterMap_cons, WorkerAt.frame?,
      List.map_append] at hc ⊢
    refine (List.perm_iff_count.2 fun a => ?_).trans hc
    simp only [List.count_append, List.count_cons, List.count_nil, List.map_cons, List.map_nil]
    omega

/-- A step either reads nothing and keeps the reader's stop reason, or is a read by a reading
reader whose result decides the reason. -/
theorem Step.reads_eq (hs : Step s s') :
    (s'.reads = s.reads ∧ s'.reader.reason? = s.reader.reason?) ∨
      (s.reader = .reading ∧
        ∃ x, s'.reads = s.reads ++ [x] ∧ s'.reader.reason? = x.stopReason) := by
  cases hs with
  | readFrame hr _ hb =>
    obtain ⟨c, cs, rfl⟩ := List.exists_cons_of_ne_nil hb
    exact .inr ⟨hr, _, rfl, rfl⟩
  | readEnd hr _ => exact .inr ⟨hr, _, rfl, rfl⟩
  | readInterrupted hr _ he => exact .inr ⟨hr, _, rfl, by simp [ReadResult.stopReason, he, hr]⟩
  | readFailed hr _ he => exact .inr ⟨hr, _, rfl, by simp [ReadResult.stopReason, he]⟩
  | handleResponse hr _ | enqueue hr _ _ | handOver hr _ _ _ => exact .inl ⟨rfl, by simp [hr]⟩
  | publish hr _ => exact .inl ⟨rfl, by simp [hr]⟩
  | _ => exact .inl ⟨rfl, rfl⟩

theorem reads_continue_step (hs : Step s s')
    (hc : ∀ r ∈ s.reads.dropLast, r.stopReason = none)
    (hl : s.reads.getLast?.bind ReadResult.stopReason = s.reader.reason?) :
    ∀ r ∈ s'.reads.dropLast, r.stopReason = none := by
  rcases hs.reads_eq with ⟨hreads, -⟩ | ⟨hr, x, hreads, -⟩
  · rwa [hreads]
  · -- the reader was reading, so its last read went on with the loop too
    rw [hreads, List.dropLast_concat]
    intro r hmem
    rcases List.eq_nil_or_concat s.reads with h0 | ⟨L, b, hL⟩
    · simp [h0] at hmem
    · rw [List.concat_eq_append] at hL
      rw [hL, List.dropLast_concat] at hc
      rw [hL, List.getLast?_concat, hr] at hl
      rw [hL, List.mem_append, List.mem_singleton] at hmem
      rcases hmem with hmem | rfl
      · exact hc r hmem
      · simpa using hl

theorem last_read_step (hs : Step s s')
    (hl : s.reads.getLast?.bind ReadResult.stopReason = s.reader.reason?) :
    s'.reads.getLast?.bind ReadResult.stopReason = s'.reader.reason? := by
  rcases hs.reads_eq with ⟨hreads, hreason⟩ | ⟨-, x, hreads, hreason⟩
  · rw [hreads, hreason, hl]
  · rw [hreads, hreason, List.getLast?_concat, Option.bind_some]

theorem exited_after_stop_step (hs : Step s s')
    (he : WorkerAt.exited ∈ s.workers → s.queue = [] ∧ s.reader.reason?.isSome) :
    WorkerAt.exited ∈ s'.workers → s'.queue = [] ∧ s'.reader.reason?.isSome := by
  intro hm
  cases hs with
  -- while the reader runs no worker has exited
  | readFrame hr _ _ | readEnd hr _ | readInterrupted hr _ _ | readFailed hr _ _ =>
    simpa [hr] using (he hm).2
  | handleResponse hr _ | enqueue hr _ _ => simpa [hr] using (he hm).2
  | handOver hr _ _ hw => simpa [hr] using (he (hw ▸ mem_replace hm (by simp))).2
  -- a worker takes a frame only from a queue that is not empty
  | take hw hq => simpa [hq] using (he (hw ▸ mem_replace hm (by simp))).1
  | handleFrame hw => exact he (hw ▸ mem_replace hm (by simp))
  | exit _ hq hr => simp [hq, hr]
  | publish _ _ => simpa using (he hm).1

theorem finished_all_exited_step (hs : Step s s')
    (hf : ∀ r, s.reader = .finished r → ∀ w ∈ s.workers, w = .exited) :
    ∀ r, s'.reader = .finished r → ∀ w ∈ s'.workers, w = .exited := by
  intro r hfin
  cases hs with
  | take hw _ | exit hw _ _ =>
    -- a waiting worker is no exited one
    have := hf r hfin .idle (by simp [hw])
    contradiction
  | handleFrame hw =>
    have := hf r hfin _ (by rw [hw]; exact List.mem_append_right _ List.mem_cons_self)
    contradiction
  | publish _ hw => exact hw
  | readInterrupted hr _ _ => simp [hr] at hfin
  | _ => cases hfin

theorem published_step (hs : Step s s') (hp : s.host.reader = s.reader.phase) :
    s'.host.reader = s'.reader.phase := by
  cases hs with
  | readFrame hr _ _ | readEnd hr _ | readInterrupted hr _ _ | readFailed hr _ _ =>
    simpa [hr] using hp
  | handleResponse hr _ | enqueue hr _ _ | handOver hr _ _ _ => simpa [hr] using hp
  -- handling a frame leaves the reader's phase alone
  | handleFrame _ => simpa using hp
  | publish _ _ => rfl
  | _ => exact hp

theorem upper_calls_step (hs : Step s s')
    (hu : s.host.upper.calls = h.upper.calls ++ s.handledFrames.flatMap Frame.upperCalls) :
    s'.host.upper.calls = h.upper.calls ++ s'.handledFrames.flatMap Frame.upperCalls := by
  cases hs with
  | handleResponse _ _ | handleFrame _ => simp [handledFrames, hu] at hu ⊢
  | _ => exact hu

theorem queued_not_response_step (hs : Step s s')
    (hq : ∀ f ∈ s.waiting, Frame.isCommandResponse f = false) :
    ∀ f ∈ s'.waiting, Frame.isCommandResponse f = false := by
  cases hs with
  | enqueue _ _ _ =>
    simp only [waiting, List.mem_append, List.mem_singleton] at hq ⊢
    grind
  | handOver _ _ _ hw | take hw _ | handleFrame hw | exit hw _ _ =>
    simp only [waiting, hw, List.filterMap_append, List.filterMap_cons, WorkerAt.frame?,
      List.mem_append, List.mem_cons] at hq ⊢
    grind
  | _ => exact hq

theorem handled_by_step (hs : Step s s')
    (hb : ∀ p ∈ s.handled, (p.2 = .reader ↔ Frame.isCommandResponse p.1 = true))
    (hq : ∀ f ∈ s.waiting, Frame.isCommandResponse f = false) :
    ∀ p ∈ s'.handled, (p.2 = .reader ↔ Frame.isCommandResponse p.1 = true) := by
  cases hs with
  | handleResponse _ hc =>
    intro p hp
    rcases List.mem_append.1 hp with hp | hp
    · exact hb p hp
    · rw [List.mem_singleton] at hp
      simp [hp, hc]
  | @handleFrame f pre post hw =>
    intro p hp
    rcases List.mem_append.1 hp with hp | hp
    · exact hb p hp
    · rw [List.mem_singleton] at hp
      subst hp
      -- the worker's frame was waiting, so it is no command response
      have hf : Frame.isCommandResponse f = false := hq f (by simp [waiting, hw])
      simp [hf]
  | _ => exact hb

theorem handled_by_worker_step (hs : Step s s') (hn : s.workers.length = max h.config.workers 1)
    (hw : ∀ p ∈ s.handled, ∀ i, p.2 = .worker i → i < max h.config.workers 1) :
    ∀ p ∈ s'.handled, ∀ i, p.2 = .worker i → i < max h.config.workers 1 := by
  cases hs with
  | handleResponse _ _ =>
    intro p hp i hi
    rcases List.mem_append.1 hp with hp | hp
    · exact hw p hp i hi
    · rw [List.mem_singleton] at hp
      simp [hp] at hi
  | handleFrame hw' =>
    intro p hp i hi
    rcases List.mem_append.1 hp with hp | hp
    · exact hw p hp i hi
    · -- the worker's number is its place in the pool
      rw [List.mem_singleton] at hp
      simp only [hp, Handler.worker.injEq] at hi
      rw [← hi, ← hn, hw', List.length_append, List.length_cons]
      omega
  | _ => exact hw

end Step

/-! ### Every run -/

theorem invariant_start (h : Host) : Invariant h (start h) where
  workers_length := List.length_replicate ..
  conserved := by simp [handledFrames, inFlight, waiting, held, framesRead, start]
  reads_continue := by simp [start]
  last_read := rfl
  exited_after_stop := by simp [start]
  finished_all_exited := by
    intro r hr
    cases hr
  published := rfl
  upper_calls := by simp [start, handledFrames]
  handled_by := by simp [start]
  handled_by_worker := by simp [start]
  queued_not_response := by simp [start, waiting]

theorem Invariant.step {h : Host} {s s' : Threads} (hi : Invariant h s) (hs : Step s s') :
    Invariant h s' where
  workers_length := (workers_length_step hs).trans hi.workers_length
  conserved := conserved_step hs hi.conserved
  reads_continue := reads_continue_step hs hi.reads_continue hi.last_read
  last_read := last_read_step hs hi.last_read
  exited_after_stop := exited_after_stop_step hs hi.exited_after_stop
  finished_all_exited := finished_all_exited_step hs hi.finished_all_exited
  published := published_step hs hi.published
  upper_calls := upper_calls_step hs hi.upper_calls
  handled_by := handled_by_step hs hi.handled_by hi.queued_not_response
  handled_by_worker := handled_by_worker_step hs hi.workers_length hi.handled_by_worker
  queued_not_response := queued_not_response_step hs hi.queued_not_response

theorem Invariant.of_reachable {h : Host} {s : Threads} (hs : Reachable h s) : Invariant h s := by
  induction hs with
  | refl => exact invariant_start h
  | tail _ hst ih => exact ih.step hst

/-! ### After the reason is published -/

/-- Once the reason is published and every worker has exited, no thread can move. -/
theorem no_step_of_finished {s s' : Threads} {r : CloseReason} (hr : s.reader = .finished r)
    (hw : ∀ w ∈ s.workers, w = .exited) : ¬ Step s s' := by
  intro hs
  cases hs with
  -- every step of the reader needs it reading, holding a frame or joining
  | readFrame hr' _ _ | readEnd hr' _ | readInterrupted hr' _ _ | readFailed hr' _ _
  | handleResponse hr' _ | enqueue hr' _ _ | handOver hr' _ _ _ | publish hr' _ =>
    rw [hr] at hr'
    cases hr'
  -- every step of a worker needs one that has not exited
  | take hw' _ | exit hw' _ _ =>
    have := hw .idle (by simp [hw'])
    contradiction
  | handleFrame hw' =>
    have := hw _ (by rw [hw']; exact List.mem_append_right _ List.mem_cons_self)
    contradiction

theorem eq_of_finished {s s' : Threads} {r : CloseReason} (hr : s.reader = .finished r)
    (hw : ∀ w ∈ s.workers, w = .exited) (hs : Relation.ReflTransGen Step s s') : s' = s := by
  rcases Relation.ReflTransGen.cases_head_iff.1 hs with heq | ⟨t, ht, -⟩
  · exact heq.symm
  · exact absurd ht (no_step_of_finished hr hw)

/-- A host that shows a close reason has its threads finished: every worker exited, the queue
drained, and no frame left in flight. -/
theorem Invariant.closed {h : Host} {s : Threads} {c : CloseReason} (hi : Invariant h s)
    (hc : s.host.closeReason = some c) :
    s.reader = .finished c ∧ (∀ w ∈ s.workers, w = .exited) ∧ s.queue = [] ∧
      s.inFlight = [] := by
  have hfin : s.reader = .finished c :=
    ReaderAt.phase_eq_stopped.1 (hi.published ▸ Host.closeReason_eq_some.1 hc)
  have hall := hi.finished_all_exited c hfin
  -- the pool has a worker, and it exited only once the queue was empty
  have hq : s.queue = [] := by
    obtain ⟨w, hw⟩ := List.exists_mem_of_length_pos (l := s.workers) (by
      rw [hi.workers_length]
      omega)
    exact (hi.exited_after_stop (hall w hw ▸ hw)).1
  have hbusy : s.workers.filterMap WorkerAt.frame? = [] := by
    rw [List.filterMap_eq_nil_iff]
    intro w hw
    simp [hall w hw]
  exact ⟨hfin, hall, hq, by simp [inFlight, waiting, held, hq, hbusy, hfin]⟩

/-- Every run of the reader and the workers, under any interleaving, any number of workers
and any depth of queue: the frames handled and those in flight are exactly the frames read;
the reader goes on after every read but its last, and stops for the reason its last read
gives; and once the host shows a close reason, every frame read was handled, once, every
worker has exited, the upper layer got exactly the calls of the frames read, and no thread
moves again. -/
theorem frames_handled_once (h : Host) (s : Threads) (hs : Reachable h s) :
    List.Perm (s.handledFrames ++ s.inFlight) s.framesRead ∧
    (∀ r ∈ s.reads.dropLast, r.stopReason = none) ∧
    s.reads.getLast?.bind ReadResult.stopReason = s.reader.reason? ∧
    ∀ c, s.host.closeReason = some c →
      s.reads.getLast?.bind ReadResult.stopReason = some c ∧
      (∀ w ∈ s.workers, w = .exited) ∧ s.queue = [] ∧
      List.Perm s.handledFrames s.framesRead ∧
      List.Perm s.host.upper.calls (h.upper.calls ++ s.framesRead.flatMap Frame.upperCalls) ∧
      ∀ s', Relation.ReflTransGen Step s s' → s' = s := by
  have hi := Invariant.of_reachable hs
  refine ⟨hi.conserved, hi.reads_continue, hi.last_read, fun c hc => ?_⟩
  obtain ⟨hfin, hall, hq, hfl⟩ := hi.closed hc
  have hperm : List.Perm s.handledFrames s.framesRead := by
    simpa [hfl] using hi.conserved
  refine ⟨by rw [hi.last_read, hfin]; rfl, hall, hq, hperm, ?_,
    fun s' => eq_of_finished hfin hall⟩
  rw [hi.upper_calls]
  exact (hperm.flatMap_right _).append_left _

/-- One worker, a link holding one data frame and then closed: the reader reads the frame and
queues it, the worker handles it, the reader reads zero bytes, the worker exits and the reason
is published. -/
theorem frames_handled_once_data_frame :
    let h₀ : Host :=
      { link := { inbound := [.frame [0x02, 0x01]], closed := true },
        config := { readBufferSize := 2, workers := 1 } }
    let s₀ : Threads :=
      { host := { link := { closed := true }, config := { readBufferSize := 2, workers := 1 },
                  started := true, reader := .stopped .endOfStream,
                  upper := { calls := [(.data, [0x01])] },
                  logs := [⟨.warn, CloseReason.endOfStream.warning⟩, ⟨.trace, workerExitText 0⟩] },
        buffer := [0x02, 0x01], reader := .finished .endOfStream, workers := [.exited],
        reads := [.bytes [0x02, 0x01], .bytes []], handled := [([0x02, 0x01], .worker 0)] }
    Reachable h₀ s₀ ∧ s₀.host.closeReason = some .endOfStream ∧
      List.Perm s₀.handledFrames s₀.framesRead ∧
      List.Perm s₀.host.upper.calls (h₀.upper.calls ++ s₀.framesRead.flatMap Frame.upperCalls) := by
  intro h₀ s₀
  have hr : Reachable h₀ s₀ :=
    ((((((Relation.ReflTransGen.single (.readFrame rfl rfl (by decide))).tail
      (.enqueue rfl rfl (by decide))).tail
      (@Step.take _ _ _ [] [] rfl rfl)).tail
      (@Step.handleFrame _ _ [] [] rfl)).tail
      (.readEnd rfl rfl)).tail
      (@Step.exit _ _ [] [] rfl rfl rfl)).tail
      (.publish rfl (by decide))
  obtain ⟨-, -, -, hclosed⟩ := frames_handled_once h₀ s₀ hr
  obtain ⟨-, -, -, hperm, hupper, -⟩ := hclosed .endOfStream rfl
  exact ⟨hr, rfl, hperm, hupper⟩

end Threads

end HciHost
