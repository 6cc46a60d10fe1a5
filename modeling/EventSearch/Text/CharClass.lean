/-
# `EventSearch.Text.CharClass` — classes of characters

Letters and numbers of any script, printable characters for quoted output, and the two classes by
which a sigma at the end of a word is found.  The classes that matter for ASCII text are written
out below U+0080; above it the tables decide.
-/
import EventSearch.Text.CharClass.Table

namespace EventSearch.Text

/-- `a` to `z`. -/
def isAsciiLower (c : Char) : Bool := 'a' ≤ c && c ≤ 'z'

/-- `A` to `Z`. -/
def isAsciiUpper (c : Char) : Bool := 'A' ≤ c && c ≤ 'Z'

def isAsciiLetter (c : Char) : Bool := isAsciiLower c || isAsciiUpper c

/-- `0` to `9`. -/
def isAsciiDigit (c : Char) : Bool := '0' ≤ c && c ≤ '9'

/-- A letter of any script, or a sign that belongs to one. -/
def isLetter (c : Char) : Bool :=
  if c.toNat < 0x80 then isAsciiLetter c else CharClass.alphabetic.has c

/-- A digit or another number of any script. -/
def isNumeric (c : Char) : Bool :=
  if c.toNat < 0x80 then isAsciiDigit c else CharClass.numeric.has c

/-- A character that quoted output may hold as it is. -/
def isPrintable (c : Char) : Bool :=
  if c.toNat < 0x80 then 0x20 ≤ c.toNat && c.toNat < 0x7F
  else !CharClass.unprintable.has c && !CharClass.extender.has c && !CharClass.filler.has c

/-- Skipped when a word is searched for cased letters. -/
def isCaseIgnorable (c : Char) : Bool := CharClass.caseIgnorable.has c

/-- Upper, lower or title case, and not skipped. -/
def isCased (c : Char) : Bool :=
  if c.toNat < 0x80 then isAsciiLetter c else CharClass.cased.has c

end EventSearch.Text
