import HciHost.Command.Basic

/-!
# Describing commands

Before a command is sent it is logged with its kind and fields, in the record form
`SetEventMask { event_mask: 4449547670108504063 }`: the kind's name, then each field as
`name: value` in declaration order. Numbers are decimal, byte lists read `[64, 2, 4]`, an
opcode `Opcode(64513)` and flag sets as their text; a kind without fields is its name alone.
-/

namespace HciHost

/-- A record's text: its name, then its fields as `name: value` between braces. -/
def recordText (name : String) (fields : List (String × String)) : String :=
  match fields with
  | [] => name
  | _ => name ++ " \x7b " ++ ", ".intercalate (fields.map fun (k, v) => k ++ ": " ++ v) ++ " \x7d"

/-- A byte list's text: its numbers in decimal between brackets. -/
def byteListText (b : Bytes) : String :=
  "[" ++ ", ".intercalate (b.map (toString ·.toNat)) ++ "]"

namespace Command

/-- The logged description of a command. -/
def describe : Command → String
  | .reset => recordText "Reset" []
  | .setEventMask m => recordText "SetEventMask" [("event_mask", toString m.toNat)]
  | .leSetEventMask m => recordText "LeSetEventMask" [("le_event_mask", m.text)]
  | .writeSimplePairingMode x =>
    recordText "WriteSimplePairingMode" [("simple_pairing_mode", toString x.toNat)]
  | .writeLeHostSupported a b =>
    recordText "WriteLeHostSupported"
      [("le_supported_host", toString a.toNat), ("simultaneous_le_host", toString b.toNat)]
  | .writeInquiryMode x => recordText "WriteInquiryMode" [("inquiry_mode", toString x.toNat)]
  | .writePageScanType x =>
    recordText "WritePageScanType" [("page_scan_type", toString x.toNat)]
  | .writeInquiryScanType x =>
    recordText "WriteInquiryScanType" [("scan_type", toString x.toNat)]
  | .writeClassOfDevice c =>
    recordText "WriteClassOfDevice" [("class_of_device", byteListText c.bytes)]
  | .writePageTimeout t => recordText "WritePageTimeout" [("page_timeout", toString t.toNat)]
  | .writeDefaultLinkPolicy p => recordText "WriteDefaultLinkPolicy" [("settings", p.text)]
  | .hostBufferSize a s c d =>
    recordText "HostBufferSize"
      [("acl_data_packet_length", toString a.toNat),
        ("synchronous_data_packet_length", toString s.toNat),
        ("total_num_acl_data_packets", toString c.toNat),
        ("total_num_synchronous_data_packets", toString d.toNat)]
  | .raw op p =>
    recordText "RawCommand"
      [("opcode", "Opcode(" ++ toString op.value.toNat ++ ")"), ("parameters", byteListText p)]

end Command

end HciHost
