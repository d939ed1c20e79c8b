import HciHost.Host.Transport
import HciHost.Bench.Refusal

/-!
# Benches for transports

A transport bench runs one plan against a host and reports what each step answered.

* `Plan.run` drives a transport over an in-memory link. With the `read` startup the frames
  wait on the link before the reader starts, and bring-up may then run on the command
  channel; with the `start` startup the transport is started (reader and bring-up), the
  commands are sent and the frames arrive afterwards. Either way the reader is started once more,
  the transport may be started again, data frames may go straight to the upper layer, and the
  run ends by closing the transport or by a failing read. The transport is then shut down
  and dropped.
* `idle` closes and shuts down a transport whose reader never started.
* `Doubles.run` is the run on the test doubles (a fake link, a recording upper layer and a
  scripted or commander channel), with three startups and no commands of its own.

Upper-layer calls are reported in the order the single worker makes them; with several
workers that order is not fixed, so they are reported sorted. Log lines, written by several
threads, are always reported sorted.
-/

namespace HciHost
namespace Bench

/-- Log lines sorted by their text. -/
def sortLines (ls : List LogLine) : List LogLine :=
  ls.mergeSort fun a b => !decide (b.render < a.render)

/-- Upper-layer calls ordered by callback name, then by bytes. -/
def callLE (a b : L2capEvent × Bytes) : Bool :=
  decide (a.1.name < b.1.name) || (a.1.name == b.1.name && !decide (b.2 < a.2))

/-- The upper-layer calls as reported: in call order for one worker, sorted for several. -/
def reportedCalls (workers : Nat) (cs : List (L2capEvent × Bytes)) :
    List (L2capEvent × Bytes) :=
  if workers > 1 then cs.mergeSort callLE else cs

/-- How many upper-layer calls went to callback `e`. -/
def callCount (cs : List (L2capEvent × Bytes)) (e : L2capEvent) : Nat :=
  (cs.filter (·.1 == e)).length

/-- How a run ends before its transport is shut down. -/
inductive Ending where
  /-- The transport is closed. -/
  | close
  /-- A read of the link fails with an error of this kind. -/
  | readError (kind : IoKind)

/-- Applies an ending: the outcome of closing, or `none` for a failing read. -/
def Ending.apply : Ending → HostM (Option (Except HciError Unit))
  | .close => some <$> Host.close
  | .readError k => do
    Host.feed [.failure (.custom k "injected")]
    pure none

/-- How a transport bench starts its transport. -/
inductive StartMode where
  /-- The frames wait on the link, then the reader starts. -/
  | read
  /-- The transport starts, reader and bring-up, the commands are sent, then the frames
  arrive. -/
  | start

/-- What a transport bench does, in order. -/
structure Plan where
  /-- How the transport starts. -/
  startup : StartMode := .read
  /-- What arrives on the link. -/
  frames : List Inbound := []
  /-- Whether bring-up runs after a `read` startup. -/
  bringUp : Bool := false
  /-- Commands sent after a `start` startup, each with the answer it expects. -/
  commands : List Step := []
  /-- Whether the transport is started a second time. -/
  restart : Bool := false
  /-- Data frames handed straight to the upper layer. -/
  direct : List Bytes := []
  /-- How the run ends. -/
  ending : Ending := .close

/-- What a transport bench reports. -/
structure Report where
  /-- The first start. -/
  start : Except HciError Unit
  /-- Starting the reader once more. -/
  startAgain : Except HciError Unit
  /-- Bring-up after a `read` startup, if it ran. -/
  bringUp : Option (Except HciError Unit)
  /-- Each command sent. -/
  commands : List (Except HciError Unit)
  /-- The second start, if there was one. -/
  restart : Option (Except HciError Unit)
  /-- Each data frame handed straight to the upper layer. -/
  direct : List (Except HciError Unit)
  /-- Closing the transport; `ok` when the run ended by a failing read. -/
  close : Except HciError Unit
  /-- Why the reader stopped, once the run ended. -/
  closeReason : Option CloseReason
  /-- Why the reader stopped, after shutdown. -/
  closeReasonAfter : Option CloseReason
  /-- The upper-layer calls, as reported. -/
  calls : List (L2capEvent × Bytes)
  /-- The packets the controller took. -/
  written : List Bytes
  /-- The recording of a scripted command channel. -/
  script : Script
  /-- The log, sorted. -/
  logs : List LogLine

/-- Starts the transport as the plan says: the two starts, bring-up and the commands. -/
def Plan.startUp (p : Plan) : HostM (Except HciError Unit × Except HciError Unit ×
    Option (Except HciError Unit) × List (Except HciError Unit)) :=
  match p.startup with
  | .read => do
    modify fun h => { h with link := h.link.push p.frames }
    let start ← Host.startReading
    let again ← Host.startReading
    let init ← if p.bringUp then some <$> Host.bringUp else pure none
    pure (start, again, init, [])
  | .start => do
    let start ← Host.start
    let cmds ← p.commands.mapM fun s => Host.sendAndVerify s.command s.expected
    Host.feed p.frames
    let again ← Host.startReading
    pure (start, again, none, cmds)

/-- Runs a plan: starts, ends, shuts down and drops the transport. -/
def Plan.run (p : Plan) : HostM Report := do
  let (start, again, init, cmds) ← p.startUp
  let restart ← if p.restart then some <$> Host.start else pure none
  let direct ← p.direct.mapM (Host.upperCall .data)
  let close ← p.ending.apply
  let reason := (← get).closeReason
  let _ ← Host.shutdown
  let after := (← get).closeReason
  Host.drop
  let h ← get
  pure {
    start, startAgain := again, bringUp := init, commands := cmds, restart, direct
    close := close.getD (.ok ())
    closeReason := reason
    closeReasonAfter := after
    calls := reportedCalls h.config.workers h.upper.calls
    written := h.link.written
    script := h.script
    logs := sortLines h.logs }

/-- What closing a transport that never started reports. -/
structure IdleReport where
  /-- Closing it. -/
  close : Except HciError Unit
  /-- Whether its reader has stopped. -/
  closed : Bool
  /-- Why its reader stopped. -/
  closeReason : Option CloseReason
  /-- Shutting it down. -/
  shutdown : Except HciError Unit
  /-- The log, sorted. -/
  logs : List LogLine

/-- Closes, shuts down and drops a transport whose reader never started. -/
def idle : HostM IdleReport := do
  let close ← Host.close
  let reason := (← get).closeReason
  let shutdown ← Host.shutdown
  Host.drop
  pure { close, closed := reason.isSome, closeReason := reason, shutdown
         logs := sortLines (← get).logs }

namespace Doubles

/-- How the test-double setup starts its transport. -/
inductive StartMode where
  /-- The frames wait on the link, then the reader starts. -/
  | read
  /-- The transport starts, then the frames arrive. -/
  | start
  /-- The reader starts, bring-up runs, then the frames arrive. -/
  | bringUp

/-- What the test-double setup reports. -/
structure Report where
  /-- The start. -/
  start : Except HciError Unit
  /-- Bring-up, for the `bringUp` startup. -/
  bringUp : Option (Except HciError Unit)
  /-- Closing the transport, if the run ended so. -/
  close : Option (Except HciError Unit)
  /-- Why the reader stopped, once the run ended. -/
  closeReason : Option CloseReason
  /-- The upper-layer calls, as reported. -/
  calls : List (L2capEvent × Bytes)
  /-- The packets the link took. -/
  written : List Bytes
  /-- The recording of a scripted command channel. -/
  script : Script
  /-- The log, sorted. -/
  logs : List LogLine

/-- The frames of `frames` that a read buffer of `size` bytes cannot hold. -/
def oversized (size : Nat) (frames : List Inbound) : Bool :=
  frames.any fun
    | .frame b => b.length > size
    | .failure _ => false

/-- Runs the test-double setup. -/
def run (startup : StartMode) (frames : List Inbound) (ending : Ending) : HostM Report := do
  let (start, init) ← match startup with
    | .read => do
      modify fun h => { h with link := h.link.push frames }
      pure (← Host.startReading, none)
    | .start => do
      let s ← Host.start
      Host.feed frames
      pure (s, none)
    | .bringUp => do
      let s ← Host.startReading
      let i ← Host.bringUp
      Host.feed frames
      pure (s, some i)
  let close ← ending.apply
  let reason := (← get).closeReason
  let _ ← Host.shutdown
  Host.drop
  let h ← get
  pure {
    start, bringUp := init, close, closeReason := reason
    calls := reportedCalls h.config.workers h.upper.calls
    written := h.link.written
    script := h.script
    logs := sortLines h.logs }

/-- Runs the test-double setup on `host`; a frame longer than the read buffer is refused,
since the test link cannot hand it out. -/
def bench (host : Host) (startup : StartMode) (frames : List Inbound) (ending : Ending) :
    Except Refusal Report :=
  if oversized host.config.readBufferSize frames then .error .frameTooLong
  else .ok ((run startup frames ending).run host).1

end Doubles

end Bench
end HciHost
