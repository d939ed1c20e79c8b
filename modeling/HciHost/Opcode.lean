import HciHost.Bytes

/-!
# Opcodes

A command opcode is a 16-bit word: the opcode group field (OGF) in its top six bits and the
opcode command field (OCF) in its low ten. On the wire it is two bytes, low byte first.

* `Opcode.make ogf ocf` packs the fields as `(ogf << 10) | (ocf & 0x3FF)` in sixteen bits, so
  group bits above the sixth are lost; `ogf` and `ocf` read them back (`ogf_make`,
  `ocf_make`).
* `Opcode.ofLE?` reads the first two bytes of a list, low first, and `Opcode.toLE` writes them
  (`ofLE?_toLE_append`).
* `Opcode.name` is the table of command names, and `Opcode.text` the form `Name(0xHHHH)` in
  which opcodes appear in messages and logs.
-/

namespace HciHost

/-- A 16-bit command opcode. -/
structure Opcode where
  /-- The opcode as one word. -/
  value : UInt16
  deriving DecidableEq

namespace Opcode

/-- The opcode with group `ogf` and command `ocf`: the group's low six bits above the
command's low ten bits. -/
def make (ogf : UInt8) (ocf : UInt16) : Opcode :=
  ⟨UInt16.ofNat (ogf.toNat % 64 * 1024 + ocf.toNat % 1024)⟩

/-- The opcode group field: the top six bits. -/
def ogf (o : Opcode) : UInt8 :=
  UInt8.ofNat (o.value.toNat / 1024)

/-- The opcode command field: the low ten bits. -/
def ocf (o : Opcode) : UInt16 :=
  UInt16.ofNat (o.value.toNat % 1024)

/-- The opcode whose two wire bytes are `lo` then `hi`. -/
def ofBytes (lo hi : UInt8) : Opcode :=
  ⟨UInt16.ofNat (lo.toNat + 256 * hi.toNat)⟩

/-- The opcode in the first two bytes of `b`, low byte first; later bytes are ignored. -/
def ofLE? : Bytes → Option Opcode
  | lo :: hi :: _ => some (ofBytes lo hi)
  | _ => none

/-- The two wire bytes of an opcode, low byte first. -/
def toLE (o : Opcode) : Bytes :=
  Bytes.le 2 o.value.toNat

/-- The command name of an opcode: a fixed table by group and command field, `Vendor` for
the whole vendor group `0x3F`, `NOP` for the zero opcode and `Unknown` otherwise. -/
def name (o : Opcode) : String :=
  match o.ogf.toNat, o.ocf.toNat with
  | 0x00, 0x0000 => "NOP"
  | 0x01, 0x0001 => "Inquiry"
  | 0x01, 0x0002 => "InquiryCancel"
  | 0x01, 0x0005 => "CreateConnection"
  | 0x01, 0x0006 => "Disconnect"
  | 0x02, 0x0003 => "SniffMode"
  | 0x02, 0x0004 => "ExitSniffMode"
  | 0x02, 0x000F => "WriteDefaultLinkPolicy"
  | 0x03, 0x0001 => "SetEventMask"
  | 0x03, 0x0003 => "Reset"
  | 0x03, 0x0005 => "SetEventFilter"
  | 0x03, 0x0018 => "WritePageTimeout"
  | 0x03, 0x0024 => "WriteClassOfDevice"
  | 0x03, 0x0033 => "HostBufferSize"
  | 0x03, 0x0043 => "WriteInquiryScanType"
  | 0x03, 0x0045 => "WriteInquiryMode"
  | 0x03, 0x0047 => "WritePageScanType"
  | 0x03, 0x0056 => "WriteSimplePairingMode"
  | 0x03, 0x0063 => "SetEventMaskPage2"
  | 0x03, 0x006D => "WriteLEHostSupported"
  | 0x04, 0x0001 => "ReadLocalVersionInformation"
  | 0x04, 0x0005 => "ReadBufferSize"
  | 0x04, 0x0009 => "ReadBDADDR"
  | 0x08, 0x0001 => "LESetEventMask"
  | 0x08, 0x0002 => "LEReadBufferSize"
  | 0x08, 0x000A => "LESetAdvertiseEnable"
  | 0x08, 0x000B => "LESetScanParameters"
  | 0x08, 0x000C => "LESetScanEnable"
  | 0x08, 0x000D => "LECreateConnection"
  | 0x08, 0x000E => "LECreateConnectionCancel"
  | 0x3F, _ => "Vendor"
  | _, _ => "Unknown"

/-- An opcode as it appears in messages: its name and its value in four upper-case
hexadecimal digits, `Reset(0x0C03)`. -/
def text (o : Opcode) : String :=
  let digits := hexText .upper 4 o.value.toNat
  o.name ++ "(0x" ++ digits ++ ")"

instance : ToString Opcode := ⟨text⟩

/-! ### Laws of the fields -/

theorem ogf_make (g : UInt8) (c : UInt16) : (make g c).ogf.toNat = g.toNat % 64 := by
  have hc := c.toNat_lt
  simp only [ogf, make, UInt16.toNat_ofNat', UInt8.toNat_ofNat', Nat.reducePow]
  omega

theorem ocf_make (g : UInt8) (c : UInt16) : (make g c).ocf.toNat = c.toNat % 1024 := by
  simp only [ocf, make, UInt16.toNat_ofNat', Nat.reducePow]
  omega

theorem ofLE?_toLE_append (o : Opcode) (rest : Bytes) : ofLE? (o.toLE ++ rest) = some o := by
  have hv := o.value.toNat_lt
  simp only [toLE, Bytes.le, List.cons_append, List.nil_append, ofLE?, ofBytes,
    Option.some.injEq]
  cases o with
  | mk v =>
    congr 1
    apply UInt16.toNat_inj.mp
    simp only [UInt8.toNat_ofNat', UInt16.toNat_ofNat', Nat.reducePow] at hv ⊢
    omega

end Opcode

end HciHost
