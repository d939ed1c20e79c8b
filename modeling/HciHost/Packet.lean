import HciHost.Bytes

/-!
# Packet kinds

Every frame on a controller link starts with one tag byte that names the kind of packet it
carries: `0x01` command, `0x02` ACL data, `0x03` SCO data, `0x04` event and `0xFF` vendor.
`PacketKind.ofTag?` reads the tag and `PacketKind.tag` writes it; `ofTag?_eq_some_iff` says
that the two agree, so no other byte names a kind.
-/

namespace HciHost

/-- The kind of packet a frame carries, named by its first byte. -/
inductive PacketKind where
  | command
  | aclData
  | scoData
  | event
  | vendor
  deriving DecidableEq

namespace PacketKind

/-- The tag byte of a kind. -/
def tag : PacketKind → UInt8
  | .command => 0x01
  | .aclData => 0x02
  | .scoData => 0x03
  | .event => 0x04
  | .vendor => 0xFF

/-- The kind a tag byte names, if any. -/
def ofTag? (b : UInt8) : Option PacketKind :=
  match b.toNat with
  | 0x01 => some .command
  | 0x02 => some .aclData
  | 0x03 => some .scoData
  | 0x04 => some .event
  | 0xFF => some .vendor
  | _ => none

/-- The name of a kind in messages and answers. -/
def name : PacketKind → String
  | .command => "Command"
  | .aclData => "AclData"
  | .scoData => "ScoData"
  | .event => "Event"
  | .vendor => "Vendor"

@[simp] theorem ofTag?_tag (k : PacketKind) : ofTag? k.tag = some k := by
  cases k <;> rfl

theorem ofTag?_eq_some_iff {b : UInt8} {k : PacketKind} : ofTag? b = some k ↔ k.tag = b := by
  constructor
  · intro h
    unfold ofTag? at h
    split at h <;> simp only [Option.some.injEq, reduceCtorEq] at h <;> subst h <;>
      apply UInt8.toNat_inj.mp <;> simp_all [tag]
  · rintro rfl
    exact ofTag?_tag k

end PacketKind

end HciHost
