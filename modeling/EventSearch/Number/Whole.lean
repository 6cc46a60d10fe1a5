/-
# `EventSearch.Number.Whole` — whole numbers in decimal

Reading of whole numbers that must fit a range: an optional sign, then ASCII digits and nothing
else.  The text is judged from the left, so of two faults the first one met is reported.
-/
import EventSearch.Text.CharClass

namespace EventSearch.Number

open EventSearch.Text

/-- Why a text is no whole number of a range. -/
inductive WholeError where
  | empty
  | badDigit
  | tooLarge
  | tooSmall
  deriving DecidableEq

def WholeError.message : WholeError → String
  | .empty => "cannot parse integer from empty string"
  | .badDigit => "invalid digit found in string"
  | .tooLarge => "number too large to fit in target type"
  | .tooSmall => "number too small to fit in target type"

/-- The value of an ASCII digit. -/
def digitValue (c : Char) : Nat := c.toNat - '0'.toNat

/-- The value of a run of digits after digits worth `acc`. -/
def digitsValue (acc : Nat) : List Char → Nat
  | [] => acc
  | c :: rest => digitsValue (10 * acc + digitValue c) rest

/-- A number of digits only, at most `most`. -/
def readDigits (most : Nat) (excess : WholeError) (acc : Nat) : List Char → Except WholeError Nat
  | [] => .ok acc
  | c :: rest =>
    if isAsciiDigit c then
      let acc := 10 * acc + digitValue c
      if acc ≤ most then readDigits most excess acc rest else .error excess
    else .error .badDigit

/-- An unsigned number, at most `most`; a plus sign may stand before it. -/
def readNat (most : Nat) : List Char → Except WholeError Nat
  | [] => .error .empty
  | ['+'] => .error .badDigit
  | '+' :: rest => readDigits most .tooLarge 0 rest
  | cs => readDigits most .tooLarge 0 cs

/-- A number from `-(most + 1)` to `most`. -/
def readInt (most : Nat) : List Char → Except WholeError Int
  | ['-'] => .error .badDigit
  | '-' :: rest => (readDigits (most + 1) .tooSmall 0 rest).map fun n => -(n : Int)
  | cs => (readNat most cs).map Int.ofNat

/-! ## The widths in use -/

/-- The greatest 64-bit integer. -/
def maxInt64 : Nat := Nat.pow 2 63 - 1

/-- The greatest 64-bit size. -/
def maxSize : Nat := Nat.pow 2 64 - 1

/-- The greatest 32-bit count. -/
def maxCount : Nat := Nat.pow 2 32 - 1

/-- A 64-bit integer. -/
def readInt64 (cs : List Char) : Except WholeError Int := readInt maxInt64 cs

def readInt64? (cs : List Char) : Option Int := (readInt64 cs).toOption

/-- A 64-bit size. -/
def readSize? (cs : List Char) : Option Nat := (readNat maxSize cs).toOption

/-- The nearest 64-bit integer. -/
def clampInt64 (n : Int) : Int := max (-(maxInt64 : Int) - 1) (min n maxInt64)

end EventSearch.Number
