import HciHost.Bytes

/-!
# Events

An event packet, after its tag byte, is an event code, a declared parameter length `n`, and
`n` parameter bytes. `Event.parse?` reads that layout from the front of a byte string:
bytes past the declared length are dropped, and a string shorter than its declaration is no
event (`parse?_eq_some_iff`).

The event codes that the library routes are named in `EventCode`.
-/

namespace HciHost

/-- A parsed event: its code, its declared parameter length and its parameters. -/
structure Event where
  /-- What the event reports. -/
  code : UInt8
  /-- The parameter length the header declares. -/
  declaredLength : UInt8
  /-- Exactly `declaredLength` parameter bytes. -/
  params : Bytes

namespace Event

/-- The event at the front of `b`; `none` if the header is incomplete or fewer parameter
bytes follow than it declares. -/
def parse? : Bytes → Option Event
  | code :: len :: rest =>
    if len.toNat ≤ rest.length then some ⟨code, len, rest.take len.toNat⟩ else none
  | _ => none

theorem parse?_eq_some_iff {b : Bytes} {e : Event} :
    parse? b = some e ↔
      ∃ rest, b = e.code :: e.declaredLength :: rest ∧ e.declaredLength.toNat ≤ rest.length ∧
        e.params = rest.take e.declaredLength.toNat := by
  constructor
  · intro h
    match b, h with
    | code :: len :: rest, h =>
      simp only [parse?] at h
      split at h
      · cases h
        exact ⟨rest, rfl, by assumption, rfl⟩
      · cases h
  · rintro ⟨rest, rfl, hlen, hp⟩
    cases e
    simp only at hlen hp
    simp [parse?, hlen, hp]

end Event

/-! ### The event codes that the library routes -/
namespace EventCode

/-- A connection ended. -/
def disconnectionComplete : UInt8 := 0x05
/-- The controller finished a command. -/
def commandComplete : UInt8 := 0x0E
/-- The controller accepted or refused a command it is still working on. -/
def commandStatus : UInt8 := 0x0F
/-- Data packets were sent on some connections. -/
def completedPackets : UInt8 := 0x13
/-- A Bluetooth Low Energy event; its first parameter says which. -/
def leMeta : UInt8 := 0x3E

end EventCode

end HciHost
