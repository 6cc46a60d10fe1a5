/-
# `EventSearch.Number.Double` — binary64 numbers

A number with 53 significant binary digits, kept as the exact value it stands for: a finite one is
`significand · 2 ^ exponent` with a sign.  All arithmetic is exact arithmetic of whole numbers
followed by one rounding, `roundRatio`, to the nearest such number, a tie going to the even
significand.

The form is canonical: `roundRatio` returns a significand of 53 digits, or a shorter one with the
least exponent, so two numbers are equal as values exactly when they are equal as data, apart from
the two zeros.
-/
import EventSearch.Number.Whole

namespace EventSearch.Number

open EventSearch.Text

/-- A binary64 number. -/
inductive Double where
  | nan
  | infinite (negative : Bool)
  | finite (negative : Bool) (significand : Nat) (exponent : Int)
  deriving DecidableEq

namespace Double

/-! ## Rounding -/

/-- The exponent of the smallest step. -/
def minExponent : Int := -1074

/-- The exponent of the largest step. -/
def maxExponent : Int := 971

def zero (negative : Bool) : Double := .finite negative 0 minExponent

/-- `num / den` rounded to the nearest whole number, a tie to the even one. -/
def nearestEven (num den : Nat) : Nat :=
  let q := num / den
  let twice := 2 * (num % den)
  if twice < den then q
  else if twice > den then q + 1
  else if q % 2 = 0 then q else q + 1

/-- `num / den` as a multiple of `2 ^ e`, rounded. -/
def inSteps (num den : Nat) (e : Int) : Nat :=
  match e with
  | .ofNat k => nearestEven num (den * Nat.pow 2 k)
  | .negSucc k => nearestEven (num * Nat.pow 2 (k + 1)) den

/-- The whole number `k` with `2 ^ k ≤ num / den < 2 ^ (k + 1)`. -/
def magnitude (num den : Nat) : Int :=
  let guess : Int := (num.log2 : Int) - den.log2
  let reached : Bool := match guess with
    | .ofNat k => den * Nat.pow 2 k ≤ num
    | .negSucc k => den ≤ num * Nat.pow 2 (k + 1)
  if reached then guess else guess - 1

/-- The binary64 number nearest to `num / den`; too large a ratio becomes infinite. -/
def roundRatio (negative : Bool) (num den : Nat) : Double :=
  if num = 0 then zero negative
  else
    let e := max (magnitude num den - 52) minExponent
    let m := inSteps num den e
    let (m, e) := if m = Nat.pow 2 53 then (Nat.pow 2 52, e + 1) else (m, e)
    if e > maxExponent then .infinite negative else .finite negative m e

/-- The nearest number to a whole number. -/
def ofInt (n : Int) : Double := roundRatio (n < 0) n.natAbs 1

/-- The nearest number to `digits · 10 ^ exponent`, where `digits` has at most `count` digits. -/
def ofDecimal (negative : Bool) (digits count : Nat) (exponent : Int) : Double :=
  if digits = 0 then zero negative
  else if exponent > 400 then .infinite negative
  else if count + exponent < -400 then zero negative
  else match exponent with
    | .ofNat k => roundRatio negative (digits * Nat.pow 10 k) 1
    | .negSucc k => roundRatio negative digits (Nat.pow 10 (k + 1))

/-! ## Sign, size and order -/

def neg : Double → Double
  | .nan => .nan
  | .infinite s => .infinite !s
  | .finite s m e => .finite (!s) m e

def isInfinite : Double → Bool
  | .infinite _ => true
  | _ => false

def isZero : Double → Bool
  | .finite _ m _ => m = 0
  | _ => false

/-- A finite number times `2 ^ -e`, for an exponent `e` not above its own. -/
def scaled (negative : Bool) (m : Nat) (exponent e : Int) : Int :=
  let n : Int := m * Nat.pow 2 (exponent - e).toNat
  if negative then -n else n

/-- The order of two numbers; none when one of them is no number.  The zeros are equal. -/
def compare? : Double → Double → Option Ordering
  | .nan, _ | _, .nan => none
  | .infinite a, .infinite b => some (compare b.toNat a.toNat)
  | .infinite a, .finite _ _ _ => some (if a then .lt else .gt)
  | .finite _ _ _, .infinite b => some (if b then .gt else .lt)
  | .finite a m e, .finite b n f =>
    let low := min e f
    some (compare (scaled a m e low) (scaled b n f low))

/-- Equal as values. -/
def same (x y : Double) : Bool := x.compare? y = some .eq

/-! ## Whole values -/

/-- A finite number without a fraction. -/
def isWhole : Double → Bool
  | .finite _ m e => 0 ≤ e || m % Nat.pow 2 (-e).toNat = 0
  | _ => false

/-- A finite number without its fraction. -/
def truncate? : Double → Option Int
  | .finite s m e =>
    let n : Int := if 0 ≤ e then m * Nat.pow 2 e.toNat else m / Nat.pow 2 (-e).toNat
    some (if s then -n else n)
  | _ => none

/-! ## Products and quotients -/

/-- `m · 2 ^ e` as a ratio. -/
def ratio (m : Nat) (e : Int) : Nat × Nat :=
  match e with
  | .ofNat k => (m * Nat.pow 2 k, 1)
  | .negSucc k => (m, Nat.pow 2 (k + 1))

/-- The rounded product of two numbers; products with an infinite one are not formed here. -/
def mul : Double → Double → Double
  | .finite a m e, .finite b n f =>
    let p := ratio (m * n) (e + f)
    roundRatio (a != b) p.1 p.2
  | .infinite a, .finite b _ _ | .finite a _ _, .infinite b => .infinite (a != b)
  | .infinite a, .infinite b => .infinite (a != b)
  | .nan, _ | _, .nan => .nan

/-- The rounded quotient by a finite number that is not zero. -/
def div : Double → Double → Double
  | .finite a m e, .finite b n f =>
    let p := ratio m (e - f)
    if n = 0 then .nan else roundRatio (a != b) p.1 (p.2 * n)
  | .infinite a, .finite b _ _ => .infinite (a != b)
  | .finite a _ _, .infinite b => zero (a != b)
  | .infinite _, .infinite _ => .nan
  | .nan, _ | _, .nan => .nan

/-! ## Reading -/

/-- The words for numbers that are not finite, in lower case. -/
def readWord? (negative : Bool) (word : List Char) : Option Double :=
  let word := word.map fun c => if isAsciiUpper c then Char.ofNat (c.toNat + 32) else c
  if word = ['i', 'n', 'f'] ∨ word = ['i', 'n', 'f', 'i', 'n', 'i', 't', 'y'] then
    some (.infinite negative)
  else if word = ['n', 'a', 'n'] then some .nan
  else none

/-- An exponent part, empty or `e` and a whole number of any size. -/
def readExponent? : List Char → Option Int
  | [] => some 0
  | c :: rest =>
    if c = 'e' ∨ c = 'E' then
      let (negative, ds) := match rest with
        | '-' :: ds => (true, ds)
        | '+' :: ds => (false, ds)
        | ds => (false, ds)
      if ds.isEmpty || !ds.all isAsciiDigit then none
      else
        let n : Int := digitsValue 0 ds
        some (if negative then -n else n)
    else none

/-- Digits with an optional point among, before or after them, then an exponent. -/
def readUnsigned? (negative : Bool) (cs : List Char) : Option Double :=
  let whole := cs.takeWhile isAsciiDigit
  let afterWhole := cs.dropWhile isAsciiDigit
  let (part, rest) := match afterWhole with
    | '.' :: more => (more.takeWhile isAsciiDigit, more.dropWhile isAsciiDigit)
    | other => ([], other)
  let digits := whole ++ part
  if digits.isEmpty then none
  else do
    let e ← readExponent? rest
    return ofDecimal negative (digitsValue 0 digits) digits.length (e - part.length)

/-- A number in decimal: digits with an optional sign, point and exponent, or one of the words for
the numbers that are not finite. -/
def read? : List Char → Option Double
  | '-' :: rest => (readWord? true rest).or (readUnsigned? true rest)
  | '+' :: rest => (readWord? false rest).or (readUnsigned? false rest)
  | cs => (readWord? false cs).or (readUnsigned? false cs)

end Double

end EventSearch.Number
