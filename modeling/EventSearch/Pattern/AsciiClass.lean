/-
# `EventSearch.Pattern.AsciiClass` — classes of ASCII by name

The classes that brackets name as in `[[:alpha:]]`.  None of them goes beyond ASCII.
-/
import EventSearch.Text.CharSet

namespace EventSearch.Pattern

open EventSearch.Text

/-- The ASCII characters. -/
def ascii : CharSet := .range 0 0x7F

/-- The characters from the first to the last of each pair, the pairs in order. -/
def charRanges (pairs : List (Char × Char)) : CharSet :=
  ⟨pairs.map fun p => ⟨p.1.toNat, p.2.toNat⟩⟩

/-- Letters, digits and the underscore. -/
def asciiWord : CharSet := charRanges [('0', '9'), ('A', 'Z'), ('_', '_'), ('a', 'z')]

def asciiDigit : CharSet := charRanges [('0', '9')]

/-- Blanks and ends of lines. -/
def asciiSpace : CharSet := charRanges [('\t', '\r'), (' ', ' ')]

def asciiClass? (name : String) : Option CharSet :=
  match name with
  | "alnum" => some (charRanges [('0', '9'), ('A', 'Z'), ('a', 'z')])
  | "alpha" => some (charRanges [('A', 'Z'), ('a', 'z')])
  | "ascii" => some ascii
  | "blank" => some (charRanges [('\t', '\t'), (' ', ' ')])
  | "cntrl" => some (charRanges [('\x00', '\x1F'), ('\x7F', '\x7F')])
  | "digit" => some asciiDigit
  | "graph" => some (charRanges [('!', '~')])
  | "lower" => some (charRanges [('a', 'z')])
  | "print" => some (charRanges [(' ', '~')])
  | "punct" => some (charRanges [('!', '/'), (':', '@'), ('[', '\x60'), ('\x7b', '~')])
  | "space" => some asciiSpace
  | "upper" => some (charRanges [('A', 'Z')])
  | "word" => some asciiWord
  | "xdigit" => some (charRanges [('0', '9'), ('A', 'F'), ('a', 'f')])
  | _ => none

end EventSearch.Pattern
