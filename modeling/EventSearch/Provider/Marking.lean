/-
# `EventSearch.Provider.Marking` — marking what free text found

The matches of some terms are wrapped in markers inside the text cells of a result.  A text is
searched from the left; at each place the first term that matches there wins, and the search goes
on behind it.  Letters match in either case.  The terms are refused when the machine of the pattern
that they make together is too large.
-/
import EventSearch.Data.Value
import EventSearch.Highlight
import EventSearch.Pattern.Reading

namespace EventSearch

open EventSearch.Pattern EventSearch.Data

namespace Highlight

/-- The start of a text that matches a term, and the rest of the text. -/
def matchTerm? : List Char → List Char → Option (List Char × List Char)
  | [], text => some ([], text)
  | _ :: _, [] => none
  | t :: term, c :: text =>
    if sameFold t c then (matchTerm? term text).map fun (hit, rest) => (c :: hit, rest) else none

/-- The match of the first of some terms that matches at the start of a text. -/
def matchAny? (terms : List (List Char)) (text : List Char) : Option (List Char × List Char) :=
  terms.findSome? (matchTerm? · text)

/-- A text cut at the matches of some terms; `before` holds the plain characters since the last
match, latest first. -/
def cutAtTerms (terms : List (List Char)) (before : List Char) (text : List Char) :
    List Fragment :=
  match text with
  | [] => plainPiece before.reverse
  | c :: rest =>
    match matchAny? terms (c :: rest) with
    | none => cutAtTerms terms (c :: before) rest
    | some (hit, after) =>
      if after.length ≤ rest.length then
        plainPiece before.reverse ++ .hit (String.ofList hit) :: cutAtTerms terms [] after
      else cutAtTerms terms (c :: before) rest
termination_by text.length

/-- A piece with the markers around a match. -/
def markPiece (h : Highlight) : Fragment → String
  | .plain text => text
  | .hit text => h.wrap text

/-- The characters of the terms that are looked for; empty terms are left out. -/
def termsOf (terms : List String) : List (List Char) :=
  (terms.filter fun t => !t.isEmpty).map String.toList

/-- The pattern of a term. -/
def termPattern (term : List Char) : Pattern :=
  sequence (term.filterMap (Flags.initial true).literal?)

/-- Whether the terms can be looked for together. -/
def termsFit (terms : List String) : Bool := (choice ((termsOf terms).map termPattern)).fits

/-- A text with the matches of some terms marked. -/
def markText (h : Highlight) (terms : List String) (text : String) : String :=
  "".intercalate ((cutAtTerms (termsOf terms) [] text.toList).map h.markPiece)

/-- A text cell with its matches marked, or another cell as it is. -/
def markCell (h : Highlight) (terms : List String) : Value → Value
  | .text s => .text (h.markText terms s)
  | v => v

end Highlight

end EventSearch
