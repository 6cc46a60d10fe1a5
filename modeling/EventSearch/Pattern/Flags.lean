/-
# `EventSearch.Pattern.Flags` — how a pattern is to be read

Flags say what letters, points, line marks and classes mean, and whether blanks and comments
between the parts of a pattern are passed over.  A pattern sets them by `(?i)` up to the end of
the group, or by `(?i:…)` for a group of its own.
-/
import EventSearch.Pattern.AsciiClass
import EventSearch.Pattern.Basic
import EventSearch.Pattern.Folding
import EventSearch.Pattern.Property
import EventSearch.Text.Blank

namespace EventSearch.Pattern

open EventSearch.Text

structure Flags where
  /-- Letters match in either case. -/
  ignoreCase : Bool
  /-- `^` and `$` match at lines, not only at the ends of the text. -/
  multiLine : Bool
  /-- A point matches line feeds as well. -/
  dotAll : Bool
  /-- A carriage return before a line feed is part of the end of a line. -/
  crlf : Bool
  /-- Classes go beyond ASCII. -/
  unicode : Bool
  /-- Blanks and comments are passed over. -/
  spaced : Bool
  /-- Short matches come first, and long ones where a mark is set. -/
  lazy : Bool
  deriving DecidableEq

namespace Flags

/-- The flags a pattern starts with. -/
def initial (ignoreCase : Bool) : Flags := ⟨ignoreCase, false, false, false, true, false, false⟩

/-! ## Blanks and comments -/

/-- What is left after blanks and comments; a comment runs from `#` to the end of its line. -/
def dropComments : (inComment : Bool) → List Char → List Char
  | _, [] => []
  | true, c :: cs => dropComments (c ≠ '\n') cs
  | false, c :: cs =>
    if c = '#' then dropComments true cs
    else if isBlank c then dropComments false cs
    else c :: cs

/-- What is left after anything that is passed over. -/
def skip (f : Flags) (cs : List Char) : List Char := if f.spaced then dropComments false cs else cs

/-- The characters that pass a test, without what is passed over between them; `fuel` bounds their
number. -/
def takeRun (f : Flags) (test : Char → Bool) : Nat → List Char → List Char × List Char
  | fuel + 1, c :: cs =>
    if test c then
      let (run, rest) := takeRun f test fuel (f.skip cs)
      (c :: run, rest)
    else ([], c :: cs)
  | _, cs => ([], cs)

/-! ## Sets and letters -/

/-- The word characters that boundaries are made of. -/
def wordSet (f : Flags) : CharSet := if f.unicode then Property.word else asciiWord

/-- A set with the other case of each of its letters, where case is ignored. -/
def foldSet (f : Flags) (s : CharSet) : CharSet :=
  if !f.ignoreCase then s
  else if f.unicode then folded s
  else (folded s).inter ascii

/-- Without `unicode` a set may not reach beyond ASCII. -/
def allows (f : Flags) (s : CharSet) : Bool := f.unicode || !s.hasCode 0x80

/-- A set by itself, outside brackets. -/
def bareSet (f : Flags) (s : CharSet) : Pattern := .set s f.unicode 0

/-- One character of a pattern. -/
def literal? (f : Flags) (c : Char) : Option Pattern :=
  if !f.ignoreCase then some (.char c)
  else if f.unicode || c.toNat < 0x80 then
    let s := f.foldSet (.single c)
    some (if s = .single c then .char c else f.bareSet s)
  else none

/-- A point: any character, or any inside a line. -/
def dot? (f : Flags) : Option Pattern :=
  if !f.unicode then none
  else if f.dotAll then some (f.bareSet .everything)
  else if f.crlf then some (f.bareSet (CharSet.compl (charRanges [('\n', '\n'), ('\r', '\r')])))
  else some (f.bareSet (CharSet.compl (.single '\n')))

/-- `^` -/
def startMark (f : Flags) : Anchor := if f.multiLine then .lineStart f.crlf else .textStart

/-- `$` -/
def endMark (f : Flags) : Anchor := if f.multiLine then .lineEnd f.crlf else .textEnd

/-! ## Setting flags -/

/-- Set or clear the flag of a letter. -/
def set? (f : Flags) (letter : Char) (on : Bool) : Option Flags :=
  match letter with
  | 'i' => some { f with ignoreCase := on }
  | 'm' => some { f with multiLine := on }
  | 's' => some { f with dotAll := on }
  | 'R' => some { f with crlf := on }
  | 'u' => some { f with unicode := on }
  | 'x' => some { f with spaced := on }
  | 'U' => some { f with lazy := on }
  | _ => none

/-- Letters to set, then `-` and letters to clear. -/
def setAll? (f : Flags) : (on : Bool) → List Char → Option Flags
  | _, [] => some f
  | on, c :: cs => if c = '-' then setAll? f false cs else (f.set? c on).bind (setAll? · on cs)

/-- No character occurs twice. -/
def allDistinct : List Char → Bool
  | [] => true
  | c :: cs => !cs.contains c && allDistinct cs

/-- The flags set by a list of letters: none may come twice, and letters must follow a `-`. -/
def change? (f : Flags) (letters : List Char) : Option Flags :=
  if allDistinct letters && letters.getLast? ≠ some '-' then f.setAll? true letters else none

end Flags

end EventSearch.Pattern
