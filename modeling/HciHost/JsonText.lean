import HciHost.Text

/-!
# Requests as JSON text

Requests arrive as JSON text, and the reader that the recorded answers come from is stricter
than JSON itself in three ways, and reads numbers in its own way:

* arrays and objects nest at most 127 deep;
* every `\u` escape of a UTF-16 surrogate is one half of a pair: a high surrogate followed at
  once by an escaped low one;
* a number too large for a double is refused, by the reader's own arithmetic (`tooLarge`);
* a number written with a fraction or an exponent, or written as `-0`, is a floating-point
  number and never an unsigned integer, whatever its value (`isFloat`).

`prepare` checks the first three and marks the floating-point numbers, so that a general
JSON reader, given the text `prepare` returns, sees what the recorded one saw. Text that is
malformed in any other way is left for that reader to refuse.
-/

namespace HciHost
namespace JsonText

/-! ### Numbers -/

/-- Whether `c` may occur in a JSON number. -/
def numberChar (c : Char) : Bool :=
  c.isDigit || c == '-' || c == '+' || c == '.' || c == 'e' || c == 'E'

/-- What follows a non-empty run of digits at the front of `cs`. -/
def afterDigits? : List Char → Option (List Char)
  | c :: cs => if c.isDigit then some (cs.dropWhile Char.isDigit) else none
  | [] => none

/-- Whether `t` is one whole JSON number: an optional minus, `0` or digits not starting with
`0`, then optionally a fraction and an exponent. -/
def isNumber (t : List Char) : Bool :=
  let unsigned := match t with
    | '-' :: r => r
    | r => r
  let afterInt := match unsigned with
    | '0' :: r => some r
    | r => afterDigits? r
  let afterFrac := afterInt.bind fun r => match r with
    | '.' :: r => afterDigits? r
    | _ => some r
  let afterExp := afterFrac.bind fun r => match r with
    | 'e' :: r | 'E' :: r => afterDigits? (match r with
      | '+' :: q | '-' :: q => q
      | q => q)
    | _ => some r
  afterExp == some []

/-- Whether the JSON number `t` is read as a floating-point number: it has a fraction or an
exponent, or it is minus zero, which has no unsigned or signed integer form. -/
def isFloat (t : List Char) : Bool :=
  isNumber t && (t.any (fun c => c == '.' || c == 'e' || c == 'E') || t == ['-', '0'])

/-- The value of a decimal digit. -/
def digitOf (c : Char) : Nat := c.toNat - '0'.toNat

/-- Digits taken into a 64-bit significand while they fit, each moving the decimal exponent
by `step`; from the first digit that does not fit on, the run of digits is dropped, each
moving the exponent by `skip`. Gives the significand, the exponent and what follows. -/
def intake (step skip : Int) : Nat → Int → List Char → Nat × Int × List Char
  | sig, e, [] => (sig, e, [])
  | sig, e, c :: rest =>
    if c.isDigit then
      if sig * 10 + digitOf c < Nat.pow 2 64 then
        intake step skip (sig * 10 + digitOf c) (e + step) rest
      else
        let run := (c :: rest).takeWhile Char.isDigit
        (sig, e + skip * run.length, (c :: rest).dropWhile Char.isDigit)
    else (sig, e, c :: rest)

/-- A decimal exponent read digit by digit after the value `acc`; none once it no longer fits
in 31 bits. -/
def exponentDigits (acc : Nat) : List Char → Option Nat
  | [] => some acc
  | c :: rest =>
    if acc * 10 + digitOf c < Nat.pow 2 31 then exponentDigits (acc * 10 + digitOf c) rest
    else none

/-- `e` limited to the 32-bit signed range. -/
def saturate (e : Int) : Int :=
  if e < -(Nat.pow 2 31 : Int) then -(Nat.pow 2 31 : Int)
  else if e > (Nat.pow 2 31 : Int) - 1 then (Nat.pow 2 31 : Int) - 1
  else e

/-- The double nearest to `n`, ties to even, as a whole number. -/
def nearestDouble (n : Nat) : Nat :=
  let bits := n.log2 + 1
  if bits ≤ 53 then n
  else
    let unit := Nat.pow 2 (bits - 53)
    let q := n / unit
    let r := n % unit
    let q := if 2 * r > unit || (2 * r == unit && q % 2 == 1) then q + 1 else q
    q * unit

/-- The least whole number that a double rounds to infinity: halfway between the largest
double and `2 ^ 1024`. -/
def infinityFrom : Nat := Nat.pow 2 1024 - Nat.pow 2 970

/-- Whether the JSON number `t` is too large for the reader: it keeps the digits that fit in
64 bits and a decimal exponent `k` of 32 bits, and refuses non-zero digits whose `k` is above
308, or whose nearest double times the nearest double to `10 ^ k` rounds to infinity. An
exponent too long to read refuses non-zero digits when it is positive. -/
def tooLarge (t : List Char) : Bool :=
  let unsigned := match t with
    | '-' :: r => r
    | r => r
  let (sig, e, rest) := intake 0 1 0 0 unsigned
  let (sig, e, rest) := match rest with
    | '.' :: r => intake (-1) 0 sig e r
    | r => (sig, e, r)
  let (up, written) : Bool × List Char := match rest with
    | 'e' :: '-' :: r | 'E' :: '-' :: r => (false, r)
    | 'e' :: '+' :: r | 'E' :: '+' :: r => (true, r)
    | 'e' :: r | 'E' :: r => (true, r)
    | _ => (true, [])
  let k : Option Int := match written with
    | d :: more => (exponentDigits (digitOf d) more).map fun x =>
      saturate (if up then e + x else e - x)
    | [] => some e
  match k with
  | none => sig != 0 && up
  | some k =>
    if k < 0 || sig == 0 then false
    else if k > 308 then true
    else nearestDouble sig * nearestDouble (Nat.pow 10 k.toNat) ≥ infinityFrom

/-- The text `out` followed by the number token `tok`, kept last character first: written as
`0.5` when it is a floating-point number; none when it is too large. -/
def flushNumber (out : String) (tok : List Char) : Option String :=
  let t := tok.reverse
  if t.isEmpty then some out
  else if isNumber t && tooLarge t then none
  else some (out ++ if isFloat t then "0.5" else String.ofList t)

/-- Copies `cs` after `out`, writing each floating-point number as `0.5`. `inString` and
`escaped` say where the copy stands in a string, and `tok` holds the number being read. -/
def markFloatsFrom (inString escaped : Bool) (tok : List Char) (out : String) :
    List Char → Option String
  | [] => flushNumber out tok
  | c :: rest =>
    if inString then markFloatsFrom (escaped || c != '"') (!escaped && c == '\\') [] (out.push c) rest
    else if !tok.isEmpty && numberChar c then markFloatsFrom false false (c :: tok) out rest
    else
      match flushNumber out tok with
      | none => none
      | some out =>
        if c == '"' then markFloatsFrom true false [] (out.push c) rest
        else if c.isDigit || c == '-' then markFloatsFrom false false [c] out rest
        else markFloatsFrom false false [] (out.push c) rest

/-! ### Nesting and surrogates -/

/-- The value of hexadecimal digits. -/
def hexValue? (ds : List Char) : Option Nat :=
  ds.foldlM (fun acc ch => (digitValue? 16 ch).map (acc * 16 + ·)) 0

/-- Whether `n` is a high (leading) UTF-16 surrogate. -/
def isHighSurrogate (n : Nat) : Bool := 0xD800 ≤ n && n ≤ 0xDBFF

/-- Whether `n` is a low (trailing) UTF-16 surrogate. -/
def isLowSurrogate (n : Nat) : Bool := 0xDC00 ≤ n && n ≤ 0xDFFF

/-- Whether the rest of the text keeps to the nesting limit and pairs its surrogates, at
nesting `depth`, inside a string or not. -/
def limitsFrom (depth : Nat) : Bool → List Char → Bool
  | _, [] => true
  | true, '"' :: rest => limitsFrom depth false rest
  | true, '\\' :: 'u' :: a :: b :: c :: d :: rest =>
    match hexValue? [a, b, c, d] with
    | none => true
    | some n =>
      if isLowSurrogate n then false
      else if isHighSurrogate n then
        match rest with
        | '\\' :: 'u' :: e :: f :: g :: h :: more =>
          match hexValue? [e, f, g, h] with
          | some m => isLowSurrogate m && limitsFrom depth true more
          | none => true
        | _ => false
      else limitsFrom depth true rest
  | true, '\\' :: _ :: rest => limitsFrom depth true rest
  | true, _ :: rest => limitsFrom depth true rest
  | false, '"' :: rest => limitsFrom depth true rest
  | false, c :: rest =>
    if c == '[' || c == '{' then depth + 1 < 128 && limitsFrom (depth + 1) false rest
    else if c == ']' || c == '}' then limitsFrom (depth - 1) false rest
    else limitsFrom depth false rest

/-! ### The request text -/

/-- The request text to hand to a general JSON reader, with its floating-point numbers
marked; none when the recorded reader refuses the text for its nesting, a lone surrogate or
a number too large. -/
def prepare (line : String) : Option String :=
  if limitsFrom 0 false line.toList then markFloatsFrom false false [] "" line.toList
  else none

end JsonText
end HciHost
