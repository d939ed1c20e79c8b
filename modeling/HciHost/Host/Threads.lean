import Mathlib.Logic.Relation
import HciHost.Host.Reader

/-!
# The reader and worker threads

`Host.pump` handles what a link delivers in one loop. A started transport does the same work
with threads:

* a reader thread reads the link into one buffer that it reuses for every read. It handles a
  command response itself, at once, and copies every other frame into a bounded queue. A
  queue of depth zero holds nothing: the copy goes straight to a worker waiting for it;
* a pool of workers, at least one, take frames off the queue, oldest first, and handle them;
* the reader retries an interrupted read and stops at a read of zero bytes or any other
  failure, logging why. The queue is then closed: each worker drains it and exits, and once
  all of them have exited the reader publishes why it stopped.

`Threads` is the state of that system: the host the threads share (its link, its handlers and
its log), the reader's buffer and where the reader is, the queue, and where each worker is.
`Threads.Step` is one atomic step of one thread, and a run is any sequence of steps
(`Threads.Reachable`), so every interleaving of the threads is one. Handling a frame is one
step: it is the host's own `Host.dispatch`, and what it touches, the handlers and the log, no
other thread reads.

Two records follow a run: `reads`, every result the reader's reads returned, and `handled`,
every frame handed over for handling, with the thread that handled it.
-/

namespace HciHost

/-- The thread that handles a frame. -/
inductive Handler where
  /-- The reader itself, for a command response. -/
  | reader
  /-- The worker with this number. -/
  | worker (i : Nat)
  deriving DecidableEq

/-- Where the reader thread is. -/
inductive ReaderAt where
  /-- About to read. -/
  | reading
  /-- Holding the frame it read, the first `n` bytes of its buffer. -/
  | holding (n : Nat)
  /-- Its loop stopped for reason `r`: the queue is closed and the workers are being joined. -/
  | joining (r : CloseReason)
  /-- It published the reason `r`. -/
  | finished (r : CloseReason)

/-- Where a worker thread is. -/
inductive WorkerAt where
  /-- Waiting for a frame. -/
  | idle
  /-- Handling frame `f`. -/
  | busy (f : Bytes)
  /-- Gone, after finding the queue closed and empty. -/
  | exited
  deriving DecidableEq

/-- The transport's threads and what they share. -/
structure Threads where
  /-- The host the threads share: link, handlers and log. -/
  host : Host
  /-- The reader's buffer, reused by every read. -/
  buffer : Bytes
  /-- Where the reader is. -/
  reader : ReaderAt := .reading
  /-- The frames waiting for a worker, oldest first. -/
  queue : List Bytes := []
  /-- Where each worker is, by number. -/
  workers : List WorkerAt
  /-- Every result the reader's reads returned, in order. -/
  reads : List ReadResult := []
  /-- Every frame handed over for handling, in order, with the thread that handled it. -/
  handled : List (Bytes × Handler) := []

namespace Threads

/-- The threads of a transport whose reader starts on host `h`: a zeroed buffer of the
configured size, and one waiting worker per configured worker, at least one. -/
def start (h : Host) : Threads where
  host := { h with started := true, reader := .running }
  buffer := List.replicate h.config.readBufferSize 0
  workers := List.replicate (max h.config.workers 1) .idle

/-- One atomic step of one thread. A worker is picked by splitting the list of workers around
it, so its number is the length of the part before it. -/
inductive Step : Threads → Threads → Prop where
  /-- The reader reads a frame; it lands at the front of the buffer. -/
  | readFrame {s : Threads} {b : Bytes} {l : Link} (hr : s.reader = .reading)
      (hread : s.host.link.read s.host.config.readBufferSize = (.bytes b, l)) (hb : b ≠ []) :
      Step s { s with host := { s.host with link := l }, buffer := b ++ s.buffer.drop b.length,
                      reader := .holding b.length, reads := s.reads ++ [.bytes b] }
  /-- A read of zero bytes ends the reader's loop. -/
  | readEnd {s : Threads} {l : Link} (hr : s.reader = .reading)
      (hread : s.host.link.read s.host.config.readBufferSize = (.bytes [], l)) :
      Step s { s with host := { s.host with link := l,
                                            logs := s.host.logs ++ [⟨.warn, CloseReason.endOfStream.warning⟩] },
                      reader := .joining .endOfStream, reads := s.reads ++ [.bytes []] }
  /-- An interrupted read is retried. -/
  | readInterrupted {s : Threads} {e : IoError} {l : Link} (hr : s.reader = .reading)
      (hread : s.host.link.read s.host.config.readBufferSize = (.failed e, l))
      (he : e.kind = .interrupted) :
      Step s { s with host := { s.host with link := l }, reads := s.reads ++ [.failed e] }
  /-- Any other failed read ends the reader's loop. -/
  | readFailed {s : Threads} {e : IoError} {l : Link} (hr : s.reader = .reading)
      (hread : s.host.link.read s.host.config.readBufferSize = (.failed e, l))
      (he : e.kind ≠ .interrupted) :
      Step s { s with host := { s.host with link := l,
                                            logs := s.host.logs ++
                                              [⟨.warn, (CloseReason.readError e.kind e.message).warning⟩] },
                      reader := .joining (.readError e.kind e.message),
                      reads := s.reads ++ [.failed e] }
  /-- The reader handles a command response itself, straight from its buffer. -/
  | handleResponse {s : Threads} {n : Nat} (hr : s.reader = .holding n)
      (hc : Frame.isCommandResponse (s.buffer.take n) = true) :
      Step s { s with host := ((Host.dispatch (s.buffer.take n)).run s.host).2, reader := .reading,
                      handled := s.handled ++ [(s.buffer.take n, .reader)] }
  /-- The reader copies any other frame into the queue, if the queue has room. -/
  | enqueue {s : Threads} {n : Nat} (hr : s.reader = .holding n)
      (hc : Frame.isCommandResponse (s.buffer.take n) = false)
      (hroom : s.queue.length < s.host.config.queueDepth) :
      Step s { s with reader := .reading, queue := s.queue ++ [s.buffer.take n] }
  /-- A queue of depth zero hands the copy straight to a waiting worker. -/
  | handOver {s : Threads} {n : Nat} {pre post : List WorkerAt} (hr : s.reader = .holding n)
      (hc : Frame.isCommandResponse (s.buffer.take n) = false)
      (hdepth : s.host.config.queueDepth = 0) (hw : s.workers = pre ++ .idle :: post) :
      Step s { s with reader := .reading, workers := pre ++ .busy (s.buffer.take n) :: post }
  /-- A waiting worker takes the oldest frame of the queue. -/
  | take {s : Threads} {f : Bytes} {rest : List Bytes} {pre post : List WorkerAt}
      (hw : s.workers = pre ++ .idle :: post) (hq : s.queue = f :: rest) :
      Step s { s with queue := rest, workers := pre ++ .busy f :: post }
  /-- A worker handles its frame and waits again. -/
  | handleFrame {s : Threads} {f : Bytes} {pre post : List WorkerAt}
      (hw : s.workers = pre ++ .busy f :: post) :
      Step s { s with host := ((Host.dispatch f).run s.host).2, workers := pre ++ .idle :: post,
                      handled := s.handled ++ [(f, .worker pre.length)] }
  /-- A waiting worker finds the queue closed and empty, logs its exit and exits. -/
  | exit {s : Threads} {r : CloseReason} {pre post : List WorkerAt}
      (hw : s.workers = pre ++ .idle :: post) (hq : s.queue = []) (hr : s.reader = .joining r) :
      Step s { s with host := { s.host with logs := s.host.logs ++
                                              [⟨.trace, workerExitText pre.length⟩] },
                      workers := pre ++ .exited :: post }
  /-- Once every worker has exited, the reader publishes why it stopped. -/
  | publish {s : Threads} {r : CloseReason} (hr : s.reader = .joining r)
      (hw : ∀ w ∈ s.workers, w = .exited) :
      Step s { s with host := { s.host with reader := .stopped r }, reader := .finished r }

/-- The states a run of the threads of a transport started on `h` can reach. -/
def Reachable (h : Host) (s : Threads) : Prop :=
  Relation.ReflTransGen Step (start h) s

end Threads

end HciHost
