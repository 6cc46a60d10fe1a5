/-
# `EventSearch.Number.Shortest` — the fewest decimal digits that read back

Every binary64 number is the nearest one to a whole interval of reals.  Among the decimals of that
interval its text is the one with the fewest digits, and of those the nearest to the number itself;
where two are equally near, a `Tie` decides.
The search goes by the number of digits: on the grid of decimals with that many digits only the
two neighbours of the number need be tried, since an interval that holds a point of the grid holds
one of them.

`Layout` then says how digits are written: where the point goes, when an exponent is used.
-/
import EventSearch.Number.Double
import EventSearch.Text.Pieces

namespace EventSearch.Number

/-- `digits · 10 ^ exponent`. -/
structure Decimal where
  digits : Nat
  exponent : Int
  deriving DecidableEq

namespace Decimal

/-- The same value without trailing zeros; `fuel` bounds their number. -/
def stripZeros : Nat → Decimal → Decimal
  | 0, d => d
  | fuel + 1, d =>
    if d.digits ≠ 0 ∧ d.digits % 10 = 0 then stripZeros fuel ⟨d.digits / 10, d.exponent + 1⟩ else d

end Decimal

/-- Which of two equally near decimals is taken. -/
inductive Tie where
  | up
  | toEven
  deriving DecidableEq

/-- Whether a tie above `n` goes to `n + 1`. -/
def Tie.goesUp (tie : Tie) (n : Nat) : Bool :=
  match tie with
  | .up => true
  | .toEven => n % 2 = 1

namespace Double

/-! ## The interval of a number -/

/-- The reals that round to a positive number, over a common denominator.  `num / den` is the
number itself; the ends belong to the interval when `closed` holds. -/
structure Interval where
  low : Nat
  num : Nat
  high : Nat
  den : Nat
  closed : Bool

/-- The interval of `m · 2 ^ e`.  Below a power of two the numbers lie twice as dense, so there the
lower end is nearer. -/
def interval (m : Nat) (e : Int) : Interval :=
  let dense := m = Nat.pow 2 52 ∧ e > minExponent
  let low := if dense then 4 * m - 1 else 4 * m - 2
  let scale := ratio 1 (e - 2)
  ⟨low * scale.1, 4 * m * scale.1, (4 * m + 2) * scale.1, scale.2, m % 2 = 0⟩

/-- Whether `n · 10 ^ p` lies in an interval. -/
def Interval.holds (i : Interval) (n : Nat) (p : Int) : Bool :=
  let (value, den) := match p with
    | .ofNat k => (n * Nat.pow 10 k * i.den, 1)
    | .negSucc k => (n * i.den, Nat.pow 10 (k + 1))
  if i.closed then i.low * den ≤ value && value ≤ i.high * den
  else i.low * den < value && value < i.high * den

/-- The decimal neighbours of the number among the multiples of `10 ^ p`: the one not above it,
and whether the next one is nearer. -/
def Interval.neighbour (i : Interval) (tie : Tie) (p : Int) : Nat × Bool :=
  let (num, den) := match p with
    | .ofNat k => (i.num, i.den * Nat.pow 10 k)
    | .negSucc k => (i.num * Nat.pow 10 (k + 1), i.den)
  let n := num / den
  (n, 2 * (num % den) > den || (2 * (num % den) = den && tie.goesUp n))

/-- The decimal of the interval among the multiples of `10 ^ p` that is nearest to the number. -/
def Interval.onGrid? (i : Interval) (tie : Tie) (p : Int) : Option Decimal :=
  let (n, up) := i.neighbour tie p
  let nearer := if up then n + 1 else n
  let other := if up then n else n + 1
  if nearer ≠ 0 && i.holds nearer p then some ⟨nearer, p⟩
  else if other ≠ 0 && i.holds other p then some ⟨other, p⟩
  else none

/-- The first grid with a hit, from `10 ^ p` on downwards. -/
def Interval.search (i : Interval) (tie : Tie) : Nat → Int → Decimal
  | 0, p => ⟨(i.neighbour tie p).1, p⟩
  | fuel + 1, p =>
    match i.onGrid? tie p with
    | some d => d
    | none => i.search tie fuel (p - 1)

/-- The shortest decimal of `m · 2 ^ e`, where `m` is not zero.  The first grid tried is coarser
than the number; seventeen digits always suffice. -/
def shortest (tie : Tie) (m : Nat) (e : Int) : Decimal :=
  let i := interval m e
  let start : Int := (magnitude i.num i.den * 30103).fdiv 100000 + 2
  (i.search tie 20 start).stripZeros 20

end Double

/-! ## Layout -/

/-- How the digits of a number are written. -/
structure Layout where
  /-- The least power of ten of a first digit that is written without an exponent. -/
  lowest : Option Int
  /-- The greatest one. -/
  highest : Option Int
  /-- Whole numbers end in `.0`. -/
  keepsPoint : Bool
  /-- A positive exponent has a plus sign. -/
  signsExponent : Bool
  /-- The digits of a number that lies in the middle between two decimals. -/
  tie : Tie

namespace Layout

/-- Digits with the point after the first `whole` of them; `whole` may lie outside the digits. -/
def positional (l : Layout) (digits : List Char) (whole : Int) : List Char :=
  if digits.length ≤ whole then
    digits ++ List.replicate (whole - digits.length).toNat '0' ++
      (if l.keepsPoint then ['.', '0'] else [])
  else if 0 < whole then digits.take whole.toNat ++ '.' :: digits.drop whole.toNat
  else '0' :: '.' :: List.replicate (-whole).toNat '0' ++ digits

/-- One digit before the point, then the power of ten of that digit. -/
def scientific (l : Layout) (digits : List Char) (power : Int) : List Char :=
  let mantissa := match digits with
    | d :: rest@(_ :: _) => d :: '.' :: rest
    | ds => ds
  let sign := if power < 0 then ['-'] else if l.signsExponent then ['+'] else []
  mantissa ++ 'e' :: sign ++ Nat.toDigits 10 power.natAbs

/-- A decimal that is not zero. -/
def writeDecimal (l : Layout) (d : Decimal) : List Char :=
  let digits := Nat.toDigits 10 d.digits
  let power := d.exponent + digits.length - 1
  if l.lowest.all (· ≤ power) && l.highest.all (power ≤ ·) then l.positional digits (power + 1)
  else l.scientific digits power

/-- The text of a number. -/
def write (l : Layout) : Double → String
  | .nan => "NaN"
  | .infinite negative => if negative then "-inf" else "inf"
  | .finite negative m e =>
    let body := if m = 0 then l.positional ['0'] 1 else l.writeDecimal (Double.shortest l.tie m e)
    String.ofList (if negative then '-' :: body else body)

/-- Digits and a point, never an exponent. -/
def plain : Layout := ⟨none, none, false, false, .up⟩

/-- Always recognisable as a fractional number; an exponent from `1e16` on and below `1e-4`. -/
def inspected : Layout := ⟨some (-4), some 15, true, false, .up⟩

/-- As in JSON documents; an exponent from `1e+16` on and below `1e-5`. -/
def document : Layout := ⟨some (-5), some 15, true, true, .toEven⟩

end Layout

end EventSearch.Number
