import HciHost.Packet
import HciHost.Event.Routes
import HciHost.Event.Reply

/-!
# Demultiplexing inbound frames

Each frame that arrives from the controller is classified by its tag byte:

* a command frame was sent by another agent on the same controller; it is only logged;
* ACL data goes to the upper layer (L2CAP) without its tag byte;
* an event goes through the standard routes: LE meta, disconnection complete and completed
  packets to the upper layer, Command Complete and Command Status to the command channel;
* SCO and vendor frames are refused as unsupported, an empty frame as malformed, any other tag
  as unknown.

`Frame.classify` returns the decision as a `Delivery`, naming the one handler to run and its
bytes; `Frame.isCommandResponse` is the test for frames that reach the command channel, which a
transport handles on its reader at once.
-/

namespace HciHost

/-- The callbacks of the upper layer. -/
inductive L2capEvent where
  /-- An ACL data packet, without its tag byte. -/
  | data
  /-- The parameters of an LE meta event. -/
  | leMeta
  /-- The parameters of a disconnection complete event. -/
  | disconnectionComplete
  /-- The parameters of a number of completed packets event. -/
  | completedPackets
  deriving DecidableEq

/-- The name of an upper-layer callback in records. -/
def L2capEvent.name : L2capEvent → String
  | .data => "data"
  | .leMeta => "le_meta"
  | .disconnectionComplete => "disconnection_complete"
  | .completedPackets => "number_of_completed_packets"

/-- A handler of inbound frames: an upper-layer callback or a command-channel callback. -/
inductive Target where
  | l2cap (e : L2capEvent)
  | commandComplete
  | commandStatus
  deriving DecidableEq

/-- The five standard event routes. -/
def standardRoutes : RouteTable Target :=
  ⟨[(EventCode.leMeta, .l2cap .leMeta),
    (EventCode.disconnectionComplete, .l2cap .disconnectionComplete),
    (EventCode.completedPackets, .l2cap .completedPackets),
    (EventCode.commandComplete, .commandComplete),
    (EventCode.commandStatus, .commandStatus)]⟩

/-- What an inbound frame does. -/
inductive Delivery where
  /-- A command sent by another agent: logged, handled by no one. -/
  | echo (payload : Bytes)
  /-- One handler gets the bytes. -/
  | deliver (t : Target) (payload : Bytes)
  /-- An event no route takes: logged with its code and parameters. -/
  | unhandled (code : UInt8) (params : Bytes)

namespace Frame

/-- What an inbound frame, tag byte first, does. -/
def classify : Bytes → Except HciError Delivery
  | [] => .error .invalidPacketFormat
  | tag :: payload =>
    match PacketKind.ofTag? tag with
    | none => .error (.unknownPacketType tag)
    | some .command => .ok (.echo payload)
    | some .aclData => .ok (.deliver (.l2cap .data) payload)
    | some .scoData => .error (.unsupported .scoData)
    | some .vendor => .error (.unsupported .vendor)
    | some .event =>
      match standardRoutes.dispatch payload with
      | .error e => .error e
      | .ok (.handled t p) => .ok (.deliver t p)
      | .ok (.unhandled c p) => .ok (.unhandled c p)

/-- A frame that can only reach the command channel: an event frame whose code is Command
Complete or Command Status. -/
def isCommandResponse : Bytes → Bool
  | t :: c :: _ => t == 0x04 && (c == EventCode.commandComplete || c == EventCode.commandStatus)
  | _ => false

/-- The log text of a command echo: its opcode, or its bytes if it has no whole opcode. -/
def echoText (payload : Bytes) : String :=
  match Opcode.ofLE? payload with
  | some op => "unmanaged cmd: " ++ op.text
  | none => "unmanaged cmd: truncated [" ++ payload.hex ++ "]"

end Frame

end HciHost
