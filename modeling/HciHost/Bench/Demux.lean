import HciHost.Host.Dispatch

/-!
# Benches for routing

`Bench.demux` hands frames one by one to a host whose command channel and upper layer record
what they get, and reports for each frame its outcome and the calls it caused.
`Bench.routes` builds a route table from a list of codes, each handled by a recorder
(`Bench.routeTable`), and dispatches events through it (`Bench.dispatchAll`).
-/

namespace HciHost

namespace Bench

/-- What one frame did on the demultiplexing bench. -/
structure FrameEffect where
  /-- Whether the frame is a command response. -/
  commandResponse : Bool
  /-- The outcome of handling it. -/
  result : Except HciError Unit
  /-- The upper-layer calls it caused. -/
  calls : List (L2capEvent × Bytes)
  /-- The Command Complete parameters it passed to the command channel. -/
  completes : List Bytes
  /-- The Command Status parameters it passed to the command channel. -/
  statuses : List Bytes

/-- Handles one frame and reports what it did. -/
def frameEffect (f : Bytes) : HostM FrameEffect := do
  let before ← get
  let r ← Host.handlePacket f
  let after ← get
  pure {
    commandResponse := Frame.isCommandResponse f
    result := r
    calls := after.upper.calls.drop before.upper.calls.length
    completes := after.script.completes.drop before.script.completes.length
    statuses := after.script.statuses.drop before.script.statuses.length }

/-- Hands `frames` in order to a recording host whose upper layer refuses the callbacks in
`refusing`; the effects of the frames, and the log. -/
def demux (frames : List Bytes) (refusing : List L2capEvent) :
    List FrameEffect × List LogLine :=
  let (effects, h) := (frames.mapM frameEffect).run { upper := { refusing } }
  (effects, h.logs)

/-- What one event did on the routing bench. -/
structure RouteEffect where
  /-- The outcome of dispatching it. -/
  result : Except HciError Unit
  /-- The handlers that ran, each with the parameters it got. -/
  handled : List (UInt8 × Bytes)

/-- What the routing bench's handlers record: each run with its parameters, and the log. -/
structure RouteRecord where
  /-- The handlers that ran, each with the parameters it got. -/
  handled : List (UInt8 × Bytes) := []
  /-- The log lines written. -/
  logs : List LogLine := []

/-- A computation of the routing bench. -/
abbrev RouteM := StateM RouteRecord

instance : Logger RouteM := ⟨fun l => modify fun r => { r with logs := r.logs ++ [l] }⟩

/-- The handler that is code `c`: it records its run, then fails if `c` is in `failing`. -/
def recorder (failing : List UInt8) (c : UInt8) (p : Bytes) : RouteM (Except HciError Unit) := do
  modify fun r => { r with handled := r.handled ++ [(c, p)] }
  if failing.contains c then
    pure (.error (.handler ("handler 0x" ++ hexText .upper 2 c.toNat ++ " failed")))
  else pure (.ok ())

/-- Dispatches one event through a table whose handlers are their codes; the handlers of
codes in `failing` fail after running. -/
def routeEffect (t : RouteTable UInt8) (failing : List UInt8) (b : Bytes) :
    RouteEffect × List LogLine :=
  let (r, rec) := (t.handle (recorder failing) b).run {}
  (⟨r, rec.handled⟩, rec.logs)

/-- The table routing each of `codes` to a handler that is its code; the table's error if a
code repeats. -/
def routeTable (codes : List UInt8) : Except HciError (RouteTable UInt8) :=
  RouteTable.ofList (codes.map fun c => (c, c))

/-- Dispatches `events` in order through `t`, the handlers of codes in `failing` failing
after they run: the effects and the log. -/
def dispatchAll (t : RouteTable UInt8) (failing : List UInt8) (events : List Bytes) :
    List RouteEffect × List LogLine :=
  let runs := events.map (routeEffect t failing)
  (runs.map (·.1), runs.flatMap (·.2))

/-- Builds the table for `codes` and dispatches `events` through it: the table, the effects
and the log; the table's error if a code repeats. -/
def routes (codes failing : List UInt8) (events : List Bytes) :
    Except HciError (RouteTable UInt8 × List RouteEffect × List LogLine) := do
  let t ← routeTable codes
  let (effects, logs) := dispatchAll t failing events
  pure (t, effects, logs)

end Bench

end HciHost
