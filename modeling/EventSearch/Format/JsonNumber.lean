/-
# `EventSearch.Format.JsonNumber` — numbers in JSON documents

A number without point and exponent is a whole number when it fits 64 bits, signed or unsigned.
Any other number, and minus zero, is a float.  Of its digits the leading ones that fit 64 bits
unsigned count, and they are scaled by a power of ten with one rounding more, so that the last
digit may differ from that of the nearest float.  A number too large for a float is refused.
-/
import EventSearch.Format.Json

namespace EventSearch.Format.Json

open EventSearch.Text EventSearch.Number

/-! ## Digits -/

/-- The digits after those worth `acc` that still fit, and how many do not. -/
def keepDigits (acc : Nat) : List Char → Nat × Nat
  | [] => (acc, 0)
  | c :: cs =>
    let next := 10 * acc + digitValue c
    if next ≤ maxSize then keepDigits next cs else (acc, cs.length + 1)

/-- The parts of a number as they are written. -/
structure NumberParts where
  negative : Bool
  whole : List Char
  fraction : Option (List Char)
  /-- Whether the exponent is negative, and its digits. -/
  exponent : Option (Bool × List Char)

/-- Digits of the whole part: one zero, or any number that does not start with one. -/
def takeWhole? (cs : List Char) : Option (List Char × List Char) :=
  let digits := cs.takeWhile isAsciiDigit
  match digits with
  | [] => none
  | '0' :: _ :: _ => none
  | digits => some (digits, cs.drop digits.length)

/-- A point and digits, when there is a point. -/
def takeFraction? : List Char → Option (Option (List Char) × List Char)
  | '.' :: rest =>
    let digits := rest.takeWhile isAsciiDigit
    if digits.isEmpty then none else some (some digits, rest.drop digits.length)
  | cs => some (none, cs)

/-- The digits of an exponent. -/
def takeExponentDigits? (negative : Bool) (cs : List Char) :
    Option (Option (Bool × List Char) × List Char) :=
  let digits := cs.takeWhile isAsciiDigit
  if digits.isEmpty then none else some (some (negative, digits), cs.drop digits.length)

/-- `e` and an exponent, when there is an `e`. -/
def takeExponent? : List Char → Option (Option (Bool × List Char) × List Char)
  | [] => some (none, [])
  | c :: rest =>
    if c = 'e' ∨ c = 'E' then
      match rest with
      | '-' :: rest => takeExponentDigits? true rest
      | '+' :: rest => takeExponentDigits? false rest
      | rest => takeExponentDigits? false rest
    else some (none, c :: rest)

/-- The parts of the number at the start of a text. -/
def takeParts? (cs : List Char) : Option (NumberParts × List Char) := do
  let (negative, cs) := match cs with
    | '-' :: rest => (true, rest)
    | cs => (false, cs)
  let (digits, cs) ← takeWhole? cs
  let (fraction, cs) ← takeFraction? cs
  let (exponent, cs) ← takeExponent? cs
  return (⟨negative, digits, fraction, exponent⟩, cs)

/-! ## Values -/

/-- A power of ten. -/
def powerOfTen (k : Nat) : Double := Double.ofDecimal false 1 1 k

/-- The greatest power of ten that a float holds. -/
def greatestPower : Nat := 308

/-- A float times a power of ten.  Powers that no float holds are taken in steps; `fuel` bounds
their number, for two steps down leave nothing of 64 bits. -/
def scale? : Nat → Double → Int → Option Double
  | 0, x, _ => some x
  | fuel + 1, x, e =>
    if e.natAbs ≤ greatestPower then
      if 0 ≤ e then
        let y := x.mul (powerOfTen e.natAbs)
        if y.isInfinite then none else some y
      else some (x.div (powerOfTen e.natAbs))
    else if x.isZero then some x
    else if 0 ≤ e then none
    else scale? fuel (x.div (powerOfTen greatestPower)) (e + greatestPower)

/-- The greatest exponent that is computed with. -/
def maxExponent : Nat := Nat.pow 2 31 - 1

/-- The float of a significand and an exponent part. -/
def realOf? (significand : Nat) (shift : Int) (exponent : Option (Bool × List Char)) :
    Option Double :=
  match exponent with
  | none => scale? 4 (.ofInt significand) shift
  | some (negative, digits) =>
    let e := digitsValue 0 digits
    if maxExponent < e then
      if significand ≠ 0 ∧ negative = false then none else some (.zero false)
    else scale? 4 (.ofInt significand) (if negative then shift - e else shift + e)

/-- The value of a number. -/
def NumberParts.value? (p : NumberParts) : Option Json :=
  let (significand, unread) := keepDigits 0 p.whole
  let signed (x : Double) : Json := .real (if p.negative then x.neg else x)
  match p.fraction, p.exponent with
  | none, none =>
    if unread ≠ 0 then (scale? 4 (.ofInt significand) unread).map signed
    else if !p.negative then some (.whole significand)
    else if significand = 0 ∨ Nat.pow 2 63 < significand then some (signed (.ofInt significand))
    else some (.whole (-(significand : Int)))
  | none, exponent => (realOf? significand unread exponent).map signed
  | some digits, exponent =>
    let (significand, cut) := keepDigits significand digits
    let kept := digits.length - cut
    (realOf? significand ((unread : Int) - kept) exponent).map signed

/-- The number at the start of a text. -/
def takeNumber? (cs : List Char) : Option (Json × List Char) :=
  (takeParts? cs).bind fun (parts, rest) => parts.value?.map (·, rest)

end EventSearch.Format.Json
