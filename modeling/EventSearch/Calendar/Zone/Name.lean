/-
# `EventSearch.Calendar.Zone.Name` — reading time zones

A zone is written `UTC` in any case, `Z`, an offset such as `+02:00`, `-0930` or `+02`, or a name
of the time zone database.
-/
import EventSearch.Calendar.Zone.Table
import EventSearch.Number.Whole
import EventSearch.Text.Blank

namespace EventSearch.Calendar

open EventSearch.Text EventSearch.Number

/-- Two or four digits: hours, or hours and minutes. -/
def offsetOfDigits? (digits : List Char) : Option Int :=
  if !digits.all isAsciiDigit then none
  else
    let (hours, minutes) := (digitsValue 0 (digits.take 2), digitsValue 0 (digits.drop 2))
    if (digits.length = 2 ∨ digits.length = 4) ∧ hours ≤ 23 ∧ minutes ≤ 59 then
      some (hours * 3600 + minutes * 60)
    else none

/-- The offset after a sign; colons are passed over wherever they stand. -/
def signedOffset? (negative : Bool) (cs : List Char) : Option Int :=
  (offsetOfDigits? (cs.filter (· ≠ ':'))).map fun n => if negative then -n else n

/-- The text without regard to ASCII case. -/
def isUtcName (cs : List Char) : Bool :=
  cs.length = 3 && (cs.zip ['u', 't', 'c']).all fun (c, l) =>
    c = l || c.toNat + 32 = l.toNat

/-- A zone from its text, blanks around it aside. -/
def Zone.read? (s : String) : Option Zone :=
  let cs := trim s.toList
  if isUtcName cs || cs = ['Z'] then some Zone.utc
  else match cs with
    | [] => none
    | '+' :: rest => (signedOffset? false rest).map .fixed
    | '-' :: rest => (signedOffset? true rest).map .fixed
    | cs => (ZoneTable.ofName? (String.ofList cs)).map .named

end EventSearch.Calendar
