import HciHost.Host.Dispatch

/-!
# The transport's reader

A started transport reads its link until a read gives zero bytes or fails; an interrupted read
is retried. Each frame read is handled (`Host.dispatch`); a command response on the reader
itself, any other frame by a worker, which changes only the order in which upper-layer calls
happen, not what they are. When the reader stops it logs why, its workers exit, and the close
reason is set.

The reader runs as far as it can whenever the link may have something new (`Host.pump`): it
stops, or finds nothing to read and waits.
-/

namespace HciHost

/-- The warning a reader logs when it stops for this reason. -/
def CloseReason.warning : CloseReason → String
  | .endOfStream => "controller link read 0 bytes; link closed"
  | .readError _ m => "failed to read from controller link: " ++ m

/-- The line worker `i` logs when it exits. -/
def workerExitText (i : Nat) : String :=
  "hci-worker-" ++ toString i ++ " exiting"

/-- The lines the first `k` workers log when they exit, in order. -/
def workerExitLines (k : Nat) : List LogLine :=
  (List.range k).map fun i => ⟨.trace, workerExitText i⟩

namespace Host

/-- The reader stops for reason `r`: it logs why, and each worker logs its exit. -/
def stopReader (r : CloseReason) : HostM Unit := do
  note .warn r.warning
  let n := max (← get).config.workers 1
  (List.range n).forM fun i => note .trace (workerExitText i)
  modify fun h => { h with reader := .stopped r }

/-- One read by the reader; `false` once it has stopped or has to wait. -/
def readOnce : HostM Bool := do
  let h ← get
  match h.reader with
  | .running =>
    let (r, l) := h.link.read h.config.readBufferSize
    set { h with link := l }
    match r with
    | .blocked => pure false
    | .bytes [] =>
      stopReader .endOfStream
      pure false
    | .bytes b =>
      dispatch b
      pure true
    | .failed e =>
      if e.kind = .interrupted then pure true
      else
        stopReader (.readError e.kind e.message)
        pure false
  | _ => pure false

/-- At most `n` reads, stopping when the reader stops or has to wait. -/
def pumpFor : Nat → HostM Unit
  | 0 => pure ()
  | n + 1 => do
    if ← readOnce then pumpFor n

/-- The reader reads until it stops or has to wait. Each read that does not end the loop
takes one item off the link, so one read more than its backlog is enough. -/
def pump : HostM Unit := do
  pumpFor ((← get).link.backlog + 1)

end Host

end HciHost
