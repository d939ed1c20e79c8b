import HciHost.Opcode
import HciHost.Error
import HciHost.Command.Flags

/-!
# Commands

The commands a host issues, one constructor per kind, with the opcode of each and its
parameter block: the command's fields in order, little-endian, at their fixed widths. A raw
command carries any opcode and parameter bytes.

`Command.toPacket` frames a command for the link: tag `0x01`, opcode low byte first, the
parameter length and the parameters. A parameter block longer than 255 bytes has no length
byte and is refused. `toPacket_eq_ok_iff` states the layout and `toPacket_eq_error_iff` the
refusal, which only a raw command can meet (`params_length_le`).
-/

namespace HciHost

/-- A device class: three bytes, written to the controller as given. -/
structure DeviceClass where
  /-- The three bytes. -/
  bytes : List UInt8
  length_eq : bytes.length = 3 := by decide

/-- A command the host sends to its controller. -/
inductive Command where
  /-- Reset the controller. -/
  | reset
  /-- Choose which events the controller reports. -/
  | setEventMask (mask : UInt64)
  /-- Choose which Low Energy events the controller reports. -/
  | leSetEventMask (mask : LeEventMask)
  /-- Turn secure simple pairing on or off. -/
  | writeSimplePairingMode (mode : UInt8)
  /-- Declare the host's Low Energy support. -/
  | writeLeHostSupported (supported simultaneous : UInt8)
  /-- Choose the format of inquiry results. -/
  | writeInquiryMode (mode : UInt8)
  /-- Choose standard or interlaced page scanning. -/
  | writePageScanType (scanType : UInt8)
  /-- Choose standard or interlaced inquiry scanning. -/
  | writeInquiryScanType (scanType : UInt8)
  /-- Set the class of device the controller announces. -/
  | writeClassOfDevice (deviceClass : DeviceClass)
  /-- Set how long a page may take, in slots. -/
  | writePageTimeout (timeout : UInt16)
  /-- Set the default link policy of new connections. -/
  | writeDefaultLinkPolicy (settings : LinkPolicy)
  /-- Tell the controller the host's buffer sizes. -/
  | hostBufferSize (aclLength : UInt16) (syncLength : UInt8) (aclCount syncCount : UInt16)
  /-- Any opcode with any parameter bytes. -/
  | raw (op : Opcode) (params : Bytes)

namespace Command

/-- The opcode of a command. -/
def opcode : Command → Opcode
  | .reset => .make 0x03 0x0003
  | .setEventMask _ => .make 0x03 0x0001
  | .leSetEventMask _ => .make 0x08 0x0001
  | .writeSimplePairingMode _ => .make 0x03 0x0056
  | .writeLeHostSupported _ _ => .make 0x03 0x006D
  | .writeInquiryMode _ => .make 0x03 0x0045
  | .writePageScanType _ => .make 0x03 0x0047
  | .writeInquiryScanType _ => .make 0x03 0x0043
  | .writeClassOfDevice _ => .make 0x03 0x0024
  | .writePageTimeout _ => .make 0x03 0x0018
  | .writeDefaultLinkPolicy _ => .make 0x02 0x000F
  | .hostBufferSize .. => .make 0x03 0x0033
  | .raw op _ => op

/-- The parameter block of a command: its fields in order, little-endian. -/
def params : Command → Bytes
  | .reset => []
  | .setEventMask m => Bytes.le 8 m.toNat
  | .leSetEventMask m => Bytes.le 8 m.bits.toNat
  | .writeSimplePairingMode x => [x]
  | .writeLeHostSupported a b => [a, b]
  | .writeInquiryMode x => [x]
  | .writePageScanType x => [x]
  | .writeInquiryScanType x => [x]
  | .writeClassOfDevice c => c.bytes
  | .writePageTimeout t => Bytes.le 2 t.toNat
  | .writeDefaultLinkPolicy p => Bytes.le 2 p.bits.toNat
  | .hostBufferSize a s c d => Bytes.le 2 a.toNat ++ [s] ++ Bytes.le 2 c.toNat ++ Bytes.le 2 d.toNat
  | .raw _ p => p

/-- The longest parameter block a command packet can carry. -/
def maxParamLength : Nat := 255

/-- The command packet for the link, or `invalidParamLength` if the parameter block is longer
than 255 bytes. -/
def toPacket (c : Command) : Except HciError Bytes :=
  if c.params.length > maxParamLength then .error (.invalidParamLength c.params.length)
  else .ok ([0x01] ++ c.opcode.toLE ++ [UInt8.ofNat c.params.length] ++ c.params)

/-! ### Laws -/

/-- Only a raw command's parameter block can be long. -/
theorem params_length_le (c : Command) (h : ∀ op p, c ≠ .raw op p) :
    c.params.length ≤ 8 := by
  cases c with
  | writeClassOfDevice d => simp [params, d.length_eq]
  | raw op p => exact absurd rfl (h op p)
  | _ => simp [params]

theorem toPacket_eq_error_iff {c : Command} {e : HciError} :
    c.toPacket = .error e ↔ maxParamLength < c.params.length ∧
      e = .invalidParamLength c.params.length := by
  unfold toPacket
  split
  · simp_all [eq_comm]
  · rename_i h
    simp only [reduceCtorEq, false_iff, not_and]
    intro hlt
    omega

theorem toPacket_eq_ok_iff {c : Command} {pkt : Bytes} :
    c.toPacket = .ok pkt ↔ c.params.length ≤ maxParamLength ∧
      pkt = [0x01] ++ c.opcode.toLE ++ [UInt8.ofNat c.params.length] ++ c.params := by
  unfold toPacket
  split
  · rename_i h
    simp only [reduceCtorEq, false_iff, not_and]
    intro hle
    omega
  · simp_all [eq_comm]

end Command

end HciHost
