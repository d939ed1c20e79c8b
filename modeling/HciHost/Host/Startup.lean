import HciHost.Host.Stopping

/-!
# Calls on a transport from many threads

Any number of threads may call `start`, `startReading`, `initialize`, `close` and `shutdown` on
one transport, in any interleaving. `startReading` is guarded by one atomic swap of the
transport's `started` flag. The call that finds the flag unset creates the worker pool and the
reader thread, waits until the reader is about to read, stores the reader's handle in the
transport and returns `ok`; every other call returns `alreadyStarted` at once. Creating a thread
may fail, as the host's `spawnFailure?` says: the call that found the flag unset then returns
`spawn`, no reader runs, and the flag stays set. `start` makes a `startReading` call and, once that returns `ok`, runs
the bring-up; `initialize` runs the bring-up alone. `close` closes the link; `shutdown` closes
it, takes the reader's handle out of the transport if it is there, and waits for that reader.

A call passes through these points (`CallAt`):

* `swapping`: `startReading`, alone or in `start`, is about to swap the flag;
* `spawning`: it found the flag unset and is about to create the pool and the reader;
* `storing k`: reader `k` is about to read, and the call is about to store its handle;
* `bringingUp todo`: the bring-up, with the steps `todo` still to issue;
* `closing`: `close` or `shutdown` is about to close the link;
* `taking`: `shutdown` is about to take the reader's handle;
* `joining k`: `shutdown` holds reader `k`'s handle and waits for that thread to end;
* `returned r`: the call is over, with outcome `r`.

Each call also records what the `startReading` it made returned, once it has.

A bring-up step sends its command through the command channel. How that goes depends on the
channel and on the reader handing over the answer, so here a send may change the link, the
command channel and the log in any way, and end in any outcome. Each reader thread, with its
pool, runs as `Threads.Step` on the host the transport shares with the calls.

`Startup.Step` is one atomic step of one call or of one reader thread and its workers.
-/

namespace HciHost

/-- The calls a thread may make on a transport. `bringUp` is the transport's `initialize`. -/
inductive TransportCall where
  | start
  | startReading
  | bringUp
  | close
  | shutdown
  deriving DecidableEq

/-- A bring-up step still to issue: its stage, its index in the stage, and the step. -/
abbrev BringUpStep := Stage × Nat × Step

/-- The steps of one stage, numbered from `i`. -/
def Stage.steps (stage : Stage) : Nat → List Step → List BringUpStep
  | _, [] => []
  | i, st :: rest => (stage, i, st) :: stage.steps (i + 1) rest

/-- The steps a bring-up issues, baseline first. -/
def Sequence.todo (s : Sequence) : List BringUpStep :=
  Stage.baseline.steps 0 s.baseline ++ Stage.vendor.steps 0 s.vendor

/-- The error a bring-up fails with when step `st` fails with `e`. -/
def BringUpStep.failure (st : BringUpStep) (e : HciError) : HciError :=
  .bringUp st.1 st.2.1 st.2.2.command.opcode e

/-- The line logged when a bring-up fails with `e`. -/
def bringUpFailedLine (e : HciError) : LogLine :=
  ⟨.error, "controller bring-up failed: " ++ e.message⟩

/-- The line a finished bring-up of `seq` logs. -/
def initializedLine (seq : Sequence) : LogLine :=
  ⟨.info, "controller initialized (" ++ toString seq.length ++ " commands)"⟩

/-- Where a call on a transport is. -/
inductive CallAt where
  | swapping
  | spawning
  | storing (k : Nat)
  | bringingUp (todo : List BringUpStep)
  | closing
  | taking
  | joining (k : Nat)
  | returned (r : Except HciError Unit)

/-- Where a call starts. -/
def TransportCall.entry (seq : Sequence) : TransportCall → CallAt
  | .start | .startReading => .swapping
  | .bringUp => .bringingUp seq.todo
  | .close | .shutdown => .closing

/-- A call on a transport. -/
structure Call where
  /-- Which call it is. -/
  kind : TransportCall
  /-- Where it is. -/
  point : CallAt
  /-- What the `startReading` it made returned, once it has. -/
  readStart : Option (Except HciError Unit) := none

/-- A transport with calls on it: the host it shares with its reader threads, the reader
threads created so far, each with its pool, the reader's handle it holds, and the calls. -/
structure Startup where
  /-- The host: link, command channel, upper layer, log, the `started` flag and the published
  close reason. -/
  host : Host
  /-- The reader threads created so far, in order, each with its pool. The host a reader
  thread records is replaced by the shared host whenever the thread takes a step. -/
  readers : List Threads
  /-- The reader handle the transport holds: the number of a reader thread. -/
  handle : Option Nat
  /-- The calls, by number. -/
  calls : List Call

namespace Startup

/-- A transport just built on host `h`, with the calls `kinds` about to start. -/
def start (h : Host) (kinds : List TransportCall) : Startup where
  host := { h with started := false, reader := .idle }
  readers := []
  handle := none
  calls := kinds.map fun k => ⟨k, k.entry h.sequence, none⟩

/-- Who takes a step: a call, by number, or a reader thread and its workers, by number. -/
inductive Thread where
  | call (i : Nat)
  | reader (k : Nat)

/-- Call `i` becomes `c`. -/
def move (s : Startup) (i : Nat) (c : Call) : Startup :=
  { s with calls := s.calls.set i c }

/-- One atomic step of a call or of a reader thread. -/
inductive Step : Startup → Thread → Startup → Prop where
  /-- `startReading` finds the flag unset and sets it. -/
  | swapWon {s : Startup} {i : Nat} {c : Call} (hi : s.calls[i]? = some c)
      (hc : c.point = .swapping) (hs : s.host.started = false) :
      Step s (.call i)
        { s.move i { c with point := .spawning } with host := { s.host with started := true } }
  /-- `startReading` finds the flag set, and returns at once. -/
  | swapLost {s : Startup} {i : Nat} {c : Call} (hi : s.calls[i]? = some c)
      (hc : c.point = .swapping) (hs : s.host.started = true) :
      Step s (.call i)
        (s.move i { c with point := .returned (.error .alreadyStarted),
                           readStart := some (.error .alreadyStarted) })
  /-- The call creates the pool and the reader thread, which is about to read. -/
  | spawn {s : Startup} {i : Nat} {c : Call} (hi : s.calls[i]? = some c)
      (hc : c.point = .spawning) (hf : s.host.spawnFailure? = none) :
      Step s (.call i)
        { s.move i { c with point := .storing s.readers.length } with
          host := { s.host with reader := .running }
          readers := s.readers ++ [Threads.start s.host] }
  /-- Creating thread `k` of the pool and the reader fails with `e`: the call's `startReading`
  returns `spawn e`, the flag stays set, and the workers created before it exit. -/
  | spawnFailed {s : Startup} {i k : Nat} {c : Call} {e : IoError} (hi : s.calls[i]? = some c)
      (hc : c.point = .spawning) (hf : s.host.spawnFailure? = some (k, e)) :
      Step s (.call i)
        { s.move i { c with point := .returned (.error (.spawn e)),
                            readStart := some (.error (.spawn e)) } with
          host := { s.host with logs := s.host.logs ++ workerExitLines k } }
  /-- The call stores the reader's handle; its `startReading` returns `ok`, and `start` goes on
  with the bring-up. -/
  | store {s : Startup} {i k : Nat} {c : Call} (hi : s.calls[i]? = some c)
      (hc : c.point = .storing k) :
      Step s (.call i)
        { s.move i { c with point := if c.kind = .start then .bringingUp s.host.sequence.todo
                                     else .returned (.ok ()),
                            readStart := some (.ok ()) } with
          handle := some k }
  /-- A bring-up step sends its command, and the bring-up goes on. -/
  | sent {s : Startup} {i : Nat} {c : Call} {st : BringUpStep} {rest : List BringUpStep}
      (hi : s.calls[i]? = some c) (hc : c.point = .bringingUp (st :: rest))
      (l : Link) (ch : Channel) (lg : List LogLine) :
      Step s (.call i)
        { s.move i { c with point := .bringingUp rest } with
          host := { s.host with link := l, channel := ch, logs := lg } }
  /-- A bring-up step's command fails, and so does the bring-up, with the stage, the step's
  index and its opcode; the failure is logged. -/
  | sendFailed {s : Startup} {i : Nat} {c : Call} {st : BringUpStep} {rest : List BringUpStep}
      (hi : s.calls[i]? = some c) (hc : c.point = .bringingUp (st :: rest))
      (l : Link) (ch : Channel) (lg : List LogLine) (e : HciError) :
      Step s (.call i)
        { s.move i { c with point := .returned (.error (st.failure e)) } with
          host := { s.host with link := l, channel := ch,
                                logs := lg ++ [bringUpFailedLine (st.failure e)] } }
  /-- Every bring-up step succeeded; the bring-up reports how many commands it sent. -/
  | initialized {s : Startup} {i : Nat} {c : Call} (hi : s.calls[i]? = some c)
      (hc : c.point = .bringingUp []) :
      Step s (.call i)
        { s.move i { c with point := .returned (.ok ()) } with
          host := { s.host with logs := s.host.logs ++ [initializedLine s.host.sequence] } }
  /-- `close`, or `shutdown` before it waits, closes the link. -/
  | close {s : Startup} {i : Nat} {c : Call} {h' : Host} (hi : s.calls[i]? = some c)
      (hc : c.point = .closing) (hr : Stopping.closeRun s.host = (.ok (), h')) :
      Step s (.call i)
        { s.move i { c with point := if c.kind = .shutdown then .taking else .returned (.ok ()) } with
          host := h' }
  /-- Closing the link fails, and so does the call. -/
  | closeFailed {s : Startup} {i : Nat} {c : Call} {e : IoError} {h' : Host}
      (hi : s.calls[i]? = some c) (hc : c.point = .closing)
      (hr : Stopping.closeRun s.host = (.error e, h')) :
      Step s (.call i)
        { s.move i { c with point := .returned (.error (.close e)) } with host := h' }
  /-- `shutdown` takes the reader's handle out of the transport. -/
  | take {s : Startup} {i k : Nat} {c : Call} (hi : s.calls[i]? = some c)
      (hc : c.point = .taking) (hh : s.handle = some k) :
      Step s (.call i) { s.move i { c with point := .joining k } with handle := none }
  /-- `shutdown` finds no handle and returns. -/
  | noHandle {s : Startup} {i : Nat} {c : Call} (hi : s.calls[i]? = some c)
      (hc : c.point = .taking) (hh : s.handle = none) :
      Step s (.call i) (s.move i { c with point := .returned (.ok ()) })
  /-- The reader thread whose handle `shutdown` holds has ended, and `shutdown` returns. -/
  | join {s : Startup} {i k : Nat} {c : Call} {t : Threads} {r : CloseReason}
      (hi : s.calls[i]? = some c) (hc : c.point = .joining k) (hk : s.readers[k]? = some t)
      (hr : t.reader = .finished r) :
      Step s (.call i) (s.move i { c with point := .returned (.ok ()) })
  /-- A reader thread or one of its workers takes a step on the shared host. -/
  | reader {s : Startup} {k : Nat} {t t' : Threads} (hk : s.readers[k]? = some t)
      (ht : Threads.Step { t with host := s.host } t') :
      Step s (.reader k) { s with host := t'.host, readers := s.readers.set k t' }

/-- Some thread takes a step from `s` to `s'`. -/
def Moves (s s' : Startup) : Prop :=
  ∃ x, Step s x s'

/-- The states that follow `s`, step by step. -/
def Follows (s s' : Startup) : Prop :=
  Relation.ReflTransGen Moves s s'

/-- The states a transport built on `h` reaches with the calls `kinds`. -/
def Reachable (h : Host) (kinds : List TransportCall) (s : Startup) : Prop :=
  Follows (start h kinds) s

end Startup

end HciHost
