import HciHost.Host.Transport
import HciHost.Bench.Refusal

/-!
# Benches for commands

`Bench.bringUp` runs a bring-up sequence against a scripted command channel. `Bench.commander`
drives a commander on an immediate in-memory link: the controller reacts to each write as it
happens, and the frames it sends back are handled before the commander waits. Each step
reports its outcome and what it wrote, what came back and what reached the upper layer.
-/

namespace HciHost

namespace Bench

/-- Runs a bring-up sequence against a channel scripted with `responses`: the outcome, the
opcodes sent, and the log. -/
def bringUp (seq : Sequence) (responses : List Bytes) :
    Except HciError Unit × List Opcode × List LogLine :=
  let (r, h) := (seq.run Host.sendAndVerify).run { channel := .scripted { responses } }
  (r, h.script.sent, h.logs)

/-- A step of the commander bench. -/
inductive CommanderStep where
  /-- Send a command and return its answer. -/
  | send (c : Command)
  /-- Send a command and require the expected answer. -/
  | sendAndVerify (c : Command) (expected : Bytes)
  /-- Hand Command Complete parameters to the commander. -/
  | complete (params : Bytes)
  /-- Hand Command Status parameters to the commander. -/
  | status (params : Bytes)
  /-- Hand an inbound frame to the host. -/
  | frame (f : Bytes)
  /-- Close the link. -/
  | close
  /-- Run a bring-up sequence through the commander. -/
  | bringUp (seq : Sequence)

/-- What one step did. -/
structure StepEffect where
  /-- The outcome: the answer of a send, nothing for other steps. -/
  result : Except HciError (Option Bytes)
  /-- The packets the controller took. -/
  written : List Bytes
  /-- The outcomes of the frames the controller sent back. -/
  injected : List (Except HciError Unit)
  /-- The upper-layer calls. -/
  calls : List (L2capEvent × Bytes)

/-- The outcome of a step. -/
def CommanderStep.perform : CommanderStep → HostM (Except HciError (Option Bytes))
  | .send c => return (← Host.send c).map some
  | .sendAndVerify c e => return (← Host.sendAndVerify c e).map fun _ => none
  | .complete p => return (← Host.onComplete p).map fun _ => none
  | .status p => return (← Host.onStatus p).map fun _ => none
  | .frame f => return (← Host.handlePacket f).map fun _ => none
  | .close => do
    let _ ← Host.closeLink
    pure (.ok none)
  | .bringUp seq => return (← seq.run Host.sendAndVerify).map fun _ => none

/-- Performs a step and reports what it did. -/
def stepEffect (s : CommanderStep) : HostM StepEffect := do
  let before ← get
  let r ← s.perform
  let after ← get
  pure {
    result := r
    written := after.link.written.drop before.link.written.length
    injected := after.injected.drop before.injected.length
    calls := after.upper.calls.drop before.upper.calls.length }

/-- Performs the steps in order, stopping after a step whose write reached a reaction the
controller could not act on, or whose send waits for good. -/
def runCommander : List CommanderStep → HostM (Except Refusal (List StepEffect))
  | [] => pure (.ok [])
  | s :: rest => do
    let e ← stepEffect s
    match (← get).link.spoiled with
    | some why => pure (.error (.unreadableReaction why))
    | none =>
      if (← get).stalled.isSome then pure (.error .sendWouldBlock)
      else
        match ← runCommander rest with
        | .error r => pure (.error r)
        | .ok es => pure (.ok (e :: es))

/-- Drives a commander with response timeout `timeout` against `controller`, with an upper
layer that refuses `refusing`: the effect of each step, or why the run was refused, and the
log up to the end or the refusal. -/
def commander (controller : Controller) (timeout : Option Nat) (refusing : List L2capEvent)
    (steps : List CommanderStep) : Except Refusal (List StepEffect) × List LogLine :=
  let start : Host :=
    { link := { controller, immediate := true }
      channel := .commander { timeout }
      upper := { refusing } }
  let (effects, h) := (runCommander steps).run start
  (effects, h.logs)

end Bench

end HciHost
