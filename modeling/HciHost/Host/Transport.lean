import HciHost.Host.Commands

/-!
# The transport

A transport owns the link. `startReading` starts its reader, once: a second start is refused
with `alreadyStarted`. Starting creates the worker pool's threads and then the reader thread;
when creating one fails, the start fails with `spawn`, the flag stays set, and the workers
created before the failure exit. `bringUp` runs the bring-up sequence through the command
channel and logs a failure; `start` does both. `close` closes the link, after which the reader stops on
its next read; `shutdown` closes and waits for the reader, and gives up if closing fails.
Dropping a transport closes the link once more and logs a failure.
-/

namespace HciHost

namespace Host

/-- The thread creation that fails when the transport starts its reader, if one does: the pool's
workers are threads `0` to `max workers 1 - 1`, and the reader is thread `max workers 1`. -/
def spawnFailure? (h : Host) : Option (Nat × IoError) :=
  h.threadFailure.filter fun f => f.1 ≤ max h.config.workers 1

/-- Starts the reader; `alreadyStarted` if it was started before. -/
def startReading : HostM (Except HciError Unit) := do
  if (← get).started then pure (.error .alreadyStarted)
  else
    match (← get).spawnFailure? with
    | some (k, e) =>
      -- the workers created before the failure find their queue gone and exit
      modify fun h => { h with started := true }
      (List.range k).forM fun i => note .trace (workerExitText i)
      pure (.error (.spawn e))
    | none =>
      modify fun h => { h with started := true, reader := .running }
      pump
      pure (.ok ())

/-- Runs the bring-up sequence, logging a failure. -/
def bringUp : HostM (Except HciError Unit) := do
  let r ← (← get).sequence.run sendAndVerify
  match r with
  | .error e =>
    note .error ("controller bring-up failed: " ++ e.message)
    pure r
  | .ok () => pure r

/-- Starts the reader, then brings the controller up. -/
def start : HostM (Except HciError Unit) := do
  match ← startReading with
  | .error e => pure (.error e)
  | .ok () => bringUp

/-- Closes the host's end of the link. -/
def closeLink : HostM (Except IoError Unit) := do
  let h ← get
  match h.link.kind with
  | .stuck => pure (.error (.custom .other "busy"))
  | .memory =>
    set { h with link := { h.link with closed := true } }
    pure (.ok ())
  | .socket s =>
    unless h.link.closed do note .debug ("closing hci" ++ toString s.dev)
    modify fun h => { h with link := { h.link with closed := true } }
    pure (.ok ())

/-- Closes the transport's link; the reader then stops. -/
def close : HostM (Except HciError Unit) := do
  note .info "closing HCI transport"
  match ← closeLink with
  | .error e => pure (.error (.close e))
  | .ok () =>
    pump
    pure (.ok ())

/-- Closes the link and waits for the reader to stop. -/
def shutdown : HostM (Except HciError Unit) :=
  close

/-- Drops the transport: the link is closed once more, and a failure logged. -/
def drop : HostM Unit := do
  match ← closeLink with
  | .error e => note .debug ("closing controller link on drop: " ++ e.message)
  | .ok () => pure ()

/-- Frames or errors arrive on the link, and the reader reads what it can. -/
def feed (items : List Inbound) : HostM Unit := do
  modify fun h => { h with link := h.link.push items }
  pump

/-- The controller hangs up, and the reader reads what it can. -/
def hangUp : HostM Unit := do
  modify fun h => { h with link := h.link.hangUp }
  pump

end Host

end HciHost
