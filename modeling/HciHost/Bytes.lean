import HciHost.Text

/-!
# Byte strings

Frames, payloads and parameter blocks are lists of bytes. This module gives their two text
forms and their little-endian number encodings:

* `Bytes.hex` writes two lowercase hexadecimal digits per byte with no separators, and
  `Bytes.ofHex?` reads that form back in either letter case (`ofHex?_hex`);
* `Bytes.le w n` is the `w` little-endian bytes of `n`, and `Bytes.toNatLE` reads a
  little-endian number, with `toNatLE_le : toNatLE (le w n) = n % Nat.pow 256 w`.
-/

namespace HciHost

/-- A byte string: a frame, a payload or a parameter block. -/
abbrev Bytes := List UInt8

namespace Bytes

/-! ### Hexadecimal text -/

/-- The two lowercase digits of one byte. -/
def byteDigits (b : UInt8) : List Char :=
  [hexDigitChar (b.toNat / 16), hexDigitChar (b.toNat % 16)]
where
  /-- The lowercase digit for `d < 16`. -/
  hexDigitChar (d : Nat) : Char :=
    if d < 10 then Char.ofNat (48 + d) else Char.ofNat (87 + d)

/-- Two lowercase hexadecimal digits per byte, no separators. -/
def hex (b : Bytes) : String :=
  String.ofList (b.flatMap byteDigits)

/-- Reads pairs of hexadecimal digits of either case; an odd count or any other character
is refused. -/
def ofHexChars? : List Char → Option Bytes
  | [] => some []
  | [_] => none
  | hi :: lo :: rest => do
    let h ← digitValue? 16 hi
    let l ← digitValue? 16 lo
    let r ← ofHexChars? rest
    pure (UInt8.ofNat (16 * h + l) :: r)

/-- The bytes written by a hexadecimal text, or `none` if it is not one. -/
def ofHex? (s : String) : Option Bytes :=
  ofHexChars? s.toList

/-! ### Little-endian numbers -/

/-- The `w` little-endian bytes of `n`; bits above `8 * w` are dropped. -/
def le : Nat → Nat → Bytes
  | 0, _ => []
  | w + 1, n => UInt8.ofNat (n % 256) :: le w (n / 256)

/-- The number whose little-endian bytes are `b`. -/
def toNatLE : Bytes → Nat
  | [] => 0
  | x :: rest => x.toNat + 256 * toNatLE rest

@[simp] theorem length_le (w n : Nat) : (le w n).length = w := by
  induction w generalizing n with
  | zero => rfl
  | succ w ih => simp [le, ih]

theorem digitValue?_hexDigitChar :
    ∀ d, d < 16 → digitValue? 16 (byteDigits.hexDigitChar d) = some d := by
  decide

theorem ofHexChars?_byteDigits (x : UInt8) (rest : List Char) :
    ofHexChars? (byteDigits x ++ rest) = (ofHexChars? rest).map (x :: ·) := by
  have hx := x.toNat_lt
  have h1 := digitValue?_hexDigitChar (x.toNat / 16) (by omega)
  have h2 := digitValue?_hexDigitChar (x.toNat % 16) (by omega)
  have hval : UInt8.ofNat (16 * (x.toNat / 16) + x.toNat % 16) = x := by
    rw [Nat.div_add_mod]; exact UInt8.ofNat_toNat
  cases h : ofHexChars? rest <;>
    simp only [byteDigits, List.cons_append, List.nil_append, ofHexChars?, h1, h2, h,
      Option.bind_eq_bind, Option.bind_some, Option.bind_none, Option.pure_def, Option.map_none,
      Option.map_some, hval]

/-- Reading the hexadecimal text of a byte string gives it back. -/
theorem ofHex?_hex (b : Bytes) : ofHex? (hex b) = some b := by
  simp only [ofHex?, hex, String.toList_ofList]
  induction b with
  | nil => rfl
  | cons x rest ih => rw [List.flatMap_cons, ofHexChars?_byteDigits, ih]; rfl

theorem toNatLE_le (w n : Nat) : toNatLE (le w n) = n % Nat.pow 256 w := by
  induction w generalizing n with
  | zero =>
    show 0 = n % 1
    exact (Nat.mod_one n).symm
  | succ w ih =>
    have hb : (UInt8.ofNat (n % 256)).toNat = n % 256 := by
      simp only [UInt8.toNat_ofNat', Nat.reducePow]
      omega
    simp only [le, toNatLE, ih]
    show _ = n % (Nat.pow 256 w * 256)
    rw [hb, Nat.mul_comm (Nat.pow 256 w) 256, Nat.mod_mul]

end Bytes

end HciHost
