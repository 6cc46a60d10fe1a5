/-
# `EventSearch.Calendar.TimestampText` — reading timestamps

Two readers.  `readRfc3339?` takes RFC 3339 texts: fixed widths, one of `T`, `t` and a space
between date and time, any number of digits of a fraction of which nine count, and an offset that
is `Z` or a sign, hours, a colon and minutes.  `readTimestamp?` also takes some common forms
without an offset, which are read as UTC; there a number may have blanks before it and fewer
digits than usual.
-/
import EventSearch.Calendar.Timestamp
import EventSearch.Number.Whole
import EventSearch.Text.Blank

namespace EventSearch.Calendar

open EventSearch.Text EventSearch.Number

/-! ## Numbers and marks -/

/-- Between `least` and `most` digits, as many as there are. -/
def takeNumber? (least most : Nat) (cs : List Char) : Option (Nat × List Char) :=
  let ds := (cs.take most).takeWhile isAsciiDigit
  if ds.length < least then none else some (digitsValue 0 ds, cs.drop ds.length)

/-- A given character. -/
def takeMark? (mark : Char) : List Char → Option (List Char)
  | c :: rest => if c = mark then some rest else none
  | [] => none

/-- A time of day; second 60 is the leap second after second 59. -/
def clockAt? (date : Date) (h m s nanos : Nat) : Option Clock :=
  if h < 24 ∧ m < 60 ∧ s ≤ 60 then
    if s = 60 then some (Clock.ofDate date (h * 3600 + m * 60 + 59) (Clock.billion + nanos))
    else some (Clock.ofDate date (h * 3600 + m * 60 + s) nanos)
  else none

/-! ## RFC 3339 -/

/-- The nanoseconds that the first nine of some digits stand for. -/
def nanosOf (digits : List Char) : Nat :=
  let kept := digits.take 9
  digitsValue 0 kept * Nat.pow 10 (9 - kept.length)

/-- An optional point and digits. -/
def takeFraction? : List Char → Option (Nat × List Char)
  | '.' :: rest =>
    let ds := rest.takeWhile isAsciiDigit
    if ds.isEmpty then none else some (nanosOf ds, rest.drop ds.length)
  | cs => some (0, cs)

/-- Hours and minutes after the sign of an offset, with nothing behind them. -/
def readOffsetTail? (negative : Bool) (cs : List Char) : Option Int := do
  let (h, cs) ← takeNumber? 2 2 cs
  let cs ← takeMark? ':' cs
  let (m, cs) ← takeNumber? 2 2 cs
  if cs.isEmpty && h < 24 && m < 60 then
    let n : Int := h * 3600 + m * 60
    return (if negative then -n else n)
  else none

/-- `Z`, or a sign and a number of hours and minutes below 24 hours. -/
def readOffset? : List Char → Option Int
  | ['Z'] | ['z'] => some 0
  | '+' :: rest => readOffsetTail? false rest
  | '-' :: rest => readOffsetTail? true rest
  | '\u2212' :: rest => readOffsetTail? true rest
  | _ => none

/-- One of the characters between a date and a time. -/
def takeDateEnd? : List Char → Option (List Char)
  | c :: rest => if c = 'T' ∨ c = 't' ∨ c = ' ' then some rest else none
  | [] => none

def readRfc3339Chars? (cs : List Char) : Option Timestamp := do
  let (y, cs) ← takeNumber? 4 4 cs
  let cs ← takeMark? '-' cs
  let (mo, cs) ← takeNumber? 2 2 cs
  let cs ← takeMark? '-' cs
  let (d, cs) ← takeNumber? 2 2 cs
  let cs ← takeDateEnd? cs
  let (h, cs) ← takeNumber? 2 2 cs
  let cs ← takeMark? ':' cs
  let (mi, cs) ← takeNumber? 2 2 cs
  let cs ← takeMark? ':' cs
  let (s, cs) ← takeNumber? 2 2 cs
  let (nanos, cs) ← takeFraction? cs
  let offset ← readOffset? cs
  let date ← Date.ofYmd? y mo d
  let clock ← clockAt? date h mi s nanos
  return ⟨clock.shift (-offset), offset⟩

def readRfc3339? (s : String) : Option Timestamp := readRfc3339Chars? s.toList

/-! ## Forms without an offset -/

/-- Up to `most` digits, after any blanks. -/
def takeLoose? (most : Nat) (cs : List Char) : Option (Nat × List Char) :=
  takeNumber? 1 most (trimStart cs)

/-- A year: up to four digits, or a sign and any number of them. -/
def takeYear? (cs : List Char) : Option (Int × List Char) :=
  match trimStart cs with
  | '-' :: rest => (takeNumber? 1 rest.length rest).map fun (n, rest) => (-(n : Int), rest)
  | '+' :: rest => (takeNumber? 1 rest.length rest).map fun (n, rest) => ((n : Int), rest)
  | cs => (takeNumber? 1 4 cs).map fun (n, rest) => ((n : Int), rest)

/-- Year, month and day with a mark between them. -/
def takeDate? (mark : Char) (cs : List Char) : Option (Date × List Char) := do
  let (y, cs) ← takeYear? cs
  let cs ← takeMark? mark cs
  let (m, cs) ← takeLoose? 2 cs
  let cs ← takeMark? mark cs
  let (d, cs) ← takeLoose? 2 cs
  let date ← Date.ofYmd? y m d
  return (date, cs)

/-- Hour, minute and second at the end of a text. -/
def readTime? (date : Date) (cs : List Char) : Option Clock := do
  let (h, cs) ← takeLoose? 2 cs
  let cs ← takeMark? ':' cs
  let (m, cs) ← takeLoose? 2 cs
  let cs ← takeMark? ':' cs
  let (s, cs) ← takeLoose? 2 cs
  if cs.isEmpty then clockAt? date h m s 0 else none

/-- A date and a time with any amount of blanks between them. -/
def readSpaced? (mark : Char) (cs : List Char) : Option Clock := do
  let (date, cs) ← takeDate? mark cs
  readTime? date (trimStart cs)

/-- A date and a time with `T` between them. -/
def readJoined? (cs : List Char) : Option Clock := do
  let (date, cs) ← takeDate? '-' cs
  let cs ← takeMark? 'T' cs
  readTime? date cs

/-- A date alone, at midnight. -/
def readDay? (cs : List Char) : Option Clock := do
  let (date, cs) ← takeDate? '-' cs
  if cs.isEmpty then some (Clock.ofDate date 0 0) else none

/-- A timestamp in RFC 3339 or one of the forms without an offset, blanks around it aside. -/
def readTimestamp? (s : String) : Option Timestamp :=
  let cs := trim s.toList
  let asUtc (t : Option Clock) : Option Timestamp := t.map fun utc => ⟨utc, 0⟩
  (readRfc3339Chars? cs).or <| (asUtc (readSpaced? '-' cs)).or <|
    (asUtc (readJoined? cs)).or <| (asUtc (readSpaced? '/' cs)).or <| asUtc (readDay? cs)

end EventSearch.Calendar
