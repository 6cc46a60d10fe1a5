/-
# `EventSearch.Query.BareText` — values that stand without quotes

A bare value runs up to the first blank, reserved character or doubled connective that no
backslash protects.  It is kept as typed; `resolved`, `hasWildcard` and `globPattern` are three
readings of what was typed: the text it stands for, whether it holds wildcards, and the search
pattern that the wildcards make of it.
-/
import EventSearch.Query.Quoting

namespace EventSearch.Query.BareText

open EventSearch.Text

/-! ## Extent -/

/-- Characters that end a bare value unless a backslash precedes them. -/
def reserved : List Char := ['+', '-', '!', '(', ')', '{', '}', '[', ']', '^', '"', '~', ':']

/-- Characters that a backslash protects. -/
def escapable : List Char := reserved ++ ['*', '?', '\\', '&', '|']

/-- Whether `c` ends a bare value, given what follows it. -/
def ends (c : Char) (rest : List Char) : Bool :=
  isBlank c || reserved.contains c || ((c = '&' || c = '|') && rest.head? = some c)

/-- The characters at the start of a text that belong to a bare value, and what follows them. -/
def scan : List Char → List Char × List Char
  | [] => ([], [])
  | '\\' :: d :: rest =>
    if escapable.contains d then
      let (raw, after) := scan rest
      ('\\' :: d :: raw, after)
    else
      let (raw, after) := scan (d :: rest)
      ('\\' :: raw, after)
  | c :: rest =>
    if ends c rest then ([], c :: rest)
    else
      let (raw, after) := scan rest
      (c :: raw, after)

/-- The bare value that a text starts with, if there is one, and what follows it. -/
def take? (cs : List Char) : Option (List Char × List Char) :=
  if (scan cs).1.isEmpty then none else some (scan cs)

/-! ## Readings -/

/-- The text a bare value stands for: a backslash gives way to the character after it. -/
def resolved : List Char → List Char
  | '\\' :: c :: rest => c :: resolved rest
  | c :: rest => c :: resolved rest
  | [] => []

/-- A `*` or `?` that no backslash precedes. -/
def hasWildcard : List Char → Bool
  | '\\' :: _ :: rest => hasWildcard rest
  | c :: rest => c = '*' || c = '?' || hasWildcard rest
  | [] => false

/-- The pattern of one wildcard or literal character. -/
def wildcardPattern (c : Char) : List Char :=
  if c = '*' then ['.', '*'] else if c = '?' then ['.'] else escapePatternChar c

/-- The patterns of all characters in turn; a backslash at the very end stands for nothing. -/
def globBody : List Char → List Char
  | ['\\'] => []
  | '\\' :: c :: rest => escapePatternChar c ++ globBody rest
  | c :: rest => wildcardPattern c ++ globBody rest
  | [] => []

/-- The search pattern of a value with wildcards; it must match a whole text. -/
def globPattern (raw : List Char) : List Char := '^' :: globBody raw ++ ['$']

end EventSearch.Query.BareText
