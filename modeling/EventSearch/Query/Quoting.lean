/-
# `EventSearch.Query.Quoting` — values as query text

How a value is written so that each language reads it as one value.  A `lucene` value stands bare
unless a character, a keyword or a doubled connective in it would end or change it; a `criterion`
value is always quoted.  Literal text is written into a search pattern by `escapePattern`.
-/
import EventSearch.Query.Mode
import EventSearch.Text.Blank
import EventSearch.Text.Pieces

namespace EventSearch.Query

open EventSearch.Text

/-! ## Quotes -/

/-- Words that a bare value cannot be. -/
def keywords : List String := ["AND", "OR", "NOT"]

/-- Characters that a bare value cannot hold. -/
def quotedMarks : List Char :=
  ['/', '+', '-', '!', '(', ')', '{', '}', '[', ']', '^', '"', '~', '*', '?', ':', '\\']

/-- A value that cannot stand bare in a `lucene` query. -/
def needsQuotes (value : String) : Bool :=
  let cs := value.toList
  cs.isEmpty || keywords.contains value || cs.head? = some '\'' || hasPart ['&', '&'] cs ||
    hasPart ['|', '|'] cs || cs.any fun c => isBlank c || quotedMarks.contains c

/-- A text between double quotes, those inside it escaped. -/
def doubleQuoted (cs : List Char) : String := String.ofList ('"' :: escapeChar '"' cs ++ ['"'])

/-- A value in a `lucene` query: bare if it can be, else in double quotes. -/
def luceneValue (value : String) : String :=
  if needsQuotes value then doubleQuoted value.toList else value

/-- A value in a `criterion` query: in double quotes, with backslashes escaped as well. -/
def criterionValue (value : String) : String := doubleQuoted (escapeChar '\\' value.toList)

/-! ## Search patterns -/

/-- Characters that mean something in a search pattern. -/
def patternMarks : List Char :=
  ['\\', '.', '+', '*', '?', '(', ')', '|', '[', ']', '{', '}', '^', '$', '#', '&', '-', '~']

/-- A character as a search pattern that matches it alone. -/
def escapePatternChar (c : Char) : List Char := if patternMarks.contains c then ['\\', c] else [c]

/-- A text as a search pattern that matches it alone. -/
def escapePattern (cs : List Char) : List Char := cs.flatMap escapePatternChar

/-- A search pattern between slashes, those inside it escaped. -/
def slashed (pattern : List Char) : String := String.ofList ('/' :: escapeChar '/' pattern ++ ['/'])

end EventSearch.Query
