import HciHost.Text

/-!
# Flag sets

Two command parameters are sets of named bits: the LE event mask (which Low Energy events the
controller reports) and the default link policy settings. A set is kept as its word, so bits
without a name survive encoding.

Its text names the flags present in bit order, joined by ` | `, then any other bits as one
lowercase hexadecimal number: `LeEventMask(CONNECTION_COMPLETE | 0x20)`. The empty set is
`LeEventMask(0x0)`.
-/

namespace HciHost

/-- A named flag: the index of its bit and its name. -/
structure Flag where
  /-- The bit's index, counted from the least significant bit. -/
  bit : Nat
  /-- The flag's name. -/
  name : String

namespace Flag

/-- The flag of `table` called `name`. -/
def lookup? (table : List Flag) (name : String) : Option Flag :=
  table.find? (·.name == name)

/-- The text of the word `w` as a set of the flags in `table`, which lists distinct bits in
increasing order, under the type name `type`. -/
def setText (type : String) (table : List Flag) (w : Nat) : String :=
  let present := table.filter (fun f => w.testBit f.bit)
  let rest := w - present.foldl (fun acc f => acc + Nat.pow 2 f.bit) 0
  let names := present.map (·.name)
  let parts :=
    if rest = 0 ∧ names ≠ [] then names else names ++ ["0x" ++ hexText .lower 0 rest]
  type ++ "(" ++ " | ".intercalate parts ++ ")"

end Flag

/-- The Low Energy events a controller is asked to report, as a 64-bit word. -/
structure LeEventMask where
  /-- The mask's bits, named and unnamed. -/
  bits : UInt64
  deriving DecidableEq

namespace LeEventMask

/-- The named LE events. -/
def flags : List Flag :=
  [⟨0, "CONNECTION_COMPLETE"⟩, ⟨1, "ADVERTISING_REPORT"⟩, ⟨2, "CONNECTION_UPDATE_COMPLETE"⟩,
    ⟨3, "READ_REMOTE_FEATURES_COMPLETE"⟩, ⟨4, "LONG_TERM_KEY_REQUEST"⟩]

/-- Every named LE event. -/
def all : LeEventMask := ⟨0x1F⟩

/-- The mask as text, `LeEventMask(CONNECTION_COMPLETE | ADVERTISING_REPORT)`. -/
def text (m : LeEventMask) : String :=
  Flag.setText "LeEventMask" flags m.bits.toNat

end LeEventMask

/-- The default link policy settings, as a 16-bit word. -/
structure LinkPolicy where
  /-- The settings' bits, named and unnamed. -/
  bits : UInt16
  deriving DecidableEq

namespace LinkPolicy

/-- The named link policy settings. -/
def flags : List Flag :=
  [⟨0, "ROLE_SWITCH"⟩, ⟨2, "SNIFF_MODE"⟩]

/-- Every named setting: role switch and sniff mode. -/
def all : LinkPolicy := ⟨0x0005⟩

/-- The settings as text, `LinkPolicy(ROLE_SWITCH | SNIFF_MODE)`. -/
def text (p : LinkPolicy) : String :=
  Flag.setText "LinkPolicy" flags p.bits.toNat

end LinkPolicy

end HciHost
