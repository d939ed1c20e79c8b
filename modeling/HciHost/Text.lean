/-!
# Numerals in text

The numeral forms that the library writes and reads:

* `hexText c w n`, the base-16 digits of `n` in letter case `c`, padded on the left with zeros
  to at least `w` digits. Opcodes print as `0x0C03` (upper case, four digits), event codes
  and packet tags as `0x0E`, the unknown bits of a flag set as `0x20` (lower case, no padding).
* `readNumeral?`, which reads a decimal numeral or a `0x`-prefixed hexadecimal one, as numbers
  are given in requests. White space around the numeral does not count.
-/

namespace HciHost

/-- Letter case of the hexadecimal digits ten to fifteen. -/
inductive DigitCase where
  | lower
  | upper
  deriving DecidableEq

/-- The base-16 digits of `n` in case `c`, at least `w` of them: zeros pad on the left. -/
def hexText (c : DigitCase) (w n : Nat) : String :=
  let digits := Nat.toDigits 16 n
  let cased := match c with
    | .lower => digits
    | .upper => digits.map Char.toUpper
  String.ofList (List.replicate (w - cased.length) '0' ++ cased)

/-- The value of `ch` as a digit of `base` (at most 16), either letter case. -/
def digitValue? (base : Nat) (ch : Char) : Option Nat :=
  let v :=
    if '0' ≤ ch ∧ ch ≤ '9' then some (ch.toNat - '0'.toNat)
    else if 'a' ≤ ch ∧ ch ≤ 'f' then some (ch.toNat - 'a'.toNat + 10)
    else if 'A' ≤ ch ∧ ch ≤ 'F' then some (ch.toNat - 'A'.toNat + 10)
    else none
  match v with
  | some d => if d < base then some d else none
  | none => none

/-- The number written by the digits `ds` of `base`, most significant first, after the
value `acc` read so far. -/
def readDigitsFrom (base : Nat) (acc : Nat) : List Char → Option Nat
  | [] => some acc
  | ch :: rest => do
    let d ← digitValue? base ch
    readDigitsFrom base (acc * base + d) rest

/-- A non-empty run of digits of `base`, optionally after one `+` sign. -/
def readDigits (base : Nat) : List Char → Option Nat
  | [] => none
  | ['+'] => none
  | '+' :: ds => readDigitsFrom base 0 ds
  | ds => readDigitsFrom base 0 ds

/-- Whether `c` is white space in the Unicode sense (the `White_Space` property): tabs, line
and page breaks, the spaces of every width, and the line and paragraph separators. -/
def isWhiteSpace (c : Char) : Bool :=
  let n := c.toNat
  (0x09 ≤ n && n ≤ 0x0D) || n == 0x20 || n == 0x85 || n == 0xA0 || n == 0x1680 ||
    (0x2000 ≤ n && n ≤ 0x200A) || n == 0x2028 || n == 0x2029 || n == 0x202F ||
    n == 0x205F || n == 0x3000

/-- The characters `cs` without the white space at either end. -/
def trimWhiteSpace (cs : List Char) : List Char :=
  ((cs.dropWhile isWhiteSpace).reverse.dropWhile isWhiteSpace).reverse

/-- Reads a decimal numeral, or a hexadecimal one after `0x` or `0X`, once white space at
either end is trimmed. -/
def readNumeral? (s : String) : Option Nat :=
  match trimWhiteSpace s.toList with
  | '0' :: 'x' :: ds => readDigits 16 ds
  | '0' :: 'X' :: ds => readDigits 16 ds
  | ds => readDigits 10 ds

theorem hexText_length_ge (c : DigitCase) (w n : Nat) : w ≤ (hexText c w n).length := by
  cases c <;> simp [hexText] <;> omega

end HciHost
