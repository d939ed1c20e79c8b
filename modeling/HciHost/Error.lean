import HciHost.Io
import HciHost.Packet
import HciHost.Opcode

/-!
# Errors

`HciError` names every way an operation of the library can fail, by cause; `HciError.message`
is the one place their texts are written. A bring-up failure wraps the error of the step that
failed, with the stage and the step's index in it.
-/

namespace HciHost

/-- The two stages of controller bring-up: the baseline steps every controller needs, then
the vendor's configuration steps. -/
inductive Stage where
  | baseline
  | vendor
  deriving DecidableEq

/-- The name of a stage in messages. -/
def Stage.name : Stage → String
  | .baseline => "baseline"
  | .vendor => "vendor"

/-- Why an operation failed. -/
inductive HciError where
  /-- The socket could not be created or configured. -/
  | socket (e : IoError)
  /-- The socket could not be bound to the device. -/
  | bind (e : IoError)
  /-- Writing a command to the link failed. -/
  | send (e : IoError)
  /-- Closing the link failed. -/
  | close (e : IoError)
  /-- A command's parameter block is longer than 255 bytes. -/
  | invalidParamLength (n : Nat)
  /-- A frame or parameter block is too short for its layout. -/
  | invalidPacketFormat
  /-- A packet kind the host does not take. -/
  | unsupported (k : PacketKind)
  /-- A tag byte that names no packet kind. -/
  | unknownPacketType (tag : UInt8)
  /-- The controller answered a command with other bytes than expected. -/
  | unexpectedResponse (op : Opcode) (expected actual : Bytes)
  /-- No answer to a command came within the response timeout. -/
  | commandTimeout (op : Opcode)
  /-- A command with this opcode is already waiting for its answer. -/
  | commandPending (op : Opcode)
  /-- An event code was routed twice. -/
  | duplicateEventHandler (code : UInt8)
  /-- Creating one of the transport's threads failed. -/
  | spawn (e : IoError)
  /-- The transport's read loop was started before. -/
  | alreadyStarted
  /-- The link went away. -/
  | linkClosed
  /-- A bring-up step failed. -/
  | bringUp (stage : Stage) (step : Nat) (op : Opcode) (source : HciError)
  /-- A handler refused what it was given. -/
  | handler (message : String)
  deriving DecidableEq

namespace HciError

/-- The text of an error. -/
def message : HciError → String
  | .socket e => "Failed to open HCI socket: " ++ e.message
  | .bind e => "Failed to bind to HCI device: " ++ e.message
  | .send e => "Failed to send HCI command: " ++ e.message
  | .close e => "Failed to close controller link: " ++ e.message
  | .invalidParamLength n => "Invalid parameter length: " ++ toString n
  | .invalidPacketFormat => "Invalid HCI packet format"
  | .unsupported k => k.name ++ " packet not supported"
  | .unknownPacketType t => "Unknown packet type: 0x" ++ hexText .upper 2 t.toNat
  | .unexpectedResponse op e a =>
    "Unexpected response to " ++ op.text ++ ": expected [" ++ e.hex ++ "], got [" ++
      a.hex ++ "]"
  | .commandTimeout op => "Timed out waiting for response to " ++ op.text
  | .commandPending op => "A command with opcode " ++ op.text ++ " is already outstanding"
  | .duplicateEventHandler c =>
    "Event code 0x" ++ hexText .upper 2 c.toNat ++ " already has a handler"
  | .spawn e => "Failed to spawn thread: " ++ e.message
  | .alreadyStarted => "Transport already started"
  | .linkClosed => "Controller link closed"
  | .bringUp s i op src =>
    "Bring-up failed at " ++ s.name ++ " step " ++ toString i ++ " (" ++ op.text ++ "): " ++
      src.message
  | .handler m => "Handler error: " ++ m

end HciError

end HciHost
