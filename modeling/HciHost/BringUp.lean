import HciHost.Log
import HciHost.Command.Basic

/-!
# Controller bring-up

Bringing a controller up is a list of commands, each with the answer it must get. The
baseline steps reset the controller and set its event masks; the vendor steps configure the
reset controller, so they run only once every baseline step has succeeded.

`Sequence.run` issues the steps one at a time through a command channel, baseline first, and
stops at the first step that fails, wrapping its error with the stage, the step's index in its
stage and its opcode. Each step is logged before it is issued, and a finished run reports how
many commands it sent.

`Sequence.standard` is the default: the baseline steps and a vendor configuration.
-/

namespace HciHost

/-- A bring-up step: a command and the answer it must get. -/
structure Step where
  /-- The command to send. -/
  command : Command
  /-- The bytes the controller must answer with. -/
  expected : Bytes

/-- A bring-up sequence: baseline steps, then vendor steps. -/
structure Sequence where
  /-- Steps every controller needs. -/
  baseline : List Step := []
  /-- The vendor's configuration steps. -/
  vendor : List Step := []

namespace Step

/-- A step that expects the success status `00`. -/
def succeeding (c : Command) : Step := ⟨c, [0x00]⟩

end Step

namespace Sequence

/-- The event mask the baseline sets. -/
def defaultEventMask : UInt64 := 0x3dbff807fffbffff

/-- The baseline: reset, then the event mask and every named LE event. -/
def defaultBaseline : List Step :=
  [.succeeding .reset, .succeeding (.setEventMask defaultEventMask),
    .succeeding (.leSetEventMask .all)]

/-- A vendor configuration for a dual-mode controller: simple pairing, LE host support,
extended inquiry results, interlaced scans, a device class, the page timeout, the link policy
and the host's buffer sizes. -/
def broadcomVendor : List Step :=
  [.succeeding (.writeSimplePairingMode 1), .succeeding (.writeLeHostSupported 1 0),
    .succeeding (.writeInquiryMode 2), .succeeding (.writePageScanType 1),
    .succeeding (.writeInquiryScanType 1),
    .succeeding (.writeClassOfDevice ⟨[0x40, 0x02, 0x04], rfl⟩),
    .succeeding (.writePageTimeout 0x2000), .succeeding (.writeDefaultLinkPolicy .all),
    .succeeding (.hostBufferSize 0x1000 0xff 0x0014 0x000a)]

/-- The default sequence: the baseline, then the vendor configuration. -/
def standard : Sequence := ⟨defaultBaseline, broadcomVendor⟩

/-- The number of steps of a sequence. -/
def length (s : Sequence) : Nat := s.baseline.length + s.vendor.length

variable {m : Type → Type} [Monad m] [Logger m]

/-- Issues the steps of one stage, numbered from `i`, through `send`, stopping at the first
failure. -/
def runStage (send : Command → Bytes → m (Except HciError Unit)) (stage : Stage) :
    Nat → List Step → m (Except HciError Unit)
  | _, [] => pure (.ok ())
  | i, s :: rest => do
    let op := s.command.opcode
    note .debug (stage.name ++ " step " ++ toString i ++ ": " ++ op.text)
    match ← send s.command s.expected with
    | .ok () => runStage send stage (i + 1) rest
    | .error e => pure (.error (.bringUp stage i op e))

/-- Issues the baseline steps, then the vendor steps, through `send`. -/
def run (send : Command → Bytes → m (Except HciError Unit)) (s : Sequence) :
    m (Except HciError Unit) := do
  match ← runStage send .baseline 0 s.baseline with
  | .error e => pure (.error e)
  | .ok () =>
    match ← runStage send .vendor 0 s.vendor with
    | .error e => pure (.error e)
    | .ok () =>
      note .info ("controller initialized (" ++ toString s.length ++ " commands)")
      pure (.ok ())

end Sequence

end HciHost
