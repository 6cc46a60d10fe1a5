/-
# `EventSearch.Highlight` — marked matches

Matches of free text are wrapped in a pair of markers inside the cells of a result.  `fragments?`
cuts a cell back into plain and matched pieces, `strip` removes the markers.

Cutting looks for an opening marker and then for a closing one, and goes on behind it.  When both
markers are empty it never gets anywhere, and the answer is `none`.
-/
import EventSearch.Text.Pieces

namespace EventSearch

open EventSearch.Text

/-- The markers around a match, and how many pieces are asked for; zero asks for the whole text. -/
structure Highlight where
  opening : String
  closing : String
  maxFragments : Nat
  deriving DecidableEq

/-- A piece of a marked text. -/
inductive Fragment where
  | plain (text : String)
  | hit (text : String)
  deriving DecidableEq

namespace Highlight

/-- Markers that no one types. -/
def default : Highlight := ⟨"❤HL💘DS❤", "❥HL💘DS❥", 0⟩

/-- A text between the markers. -/
def wrap (h : Highlight) (text : String) : String := h.opening ++ text ++ h.closing

/-! ## Cutting -/

/-- A piece of plain text, when there is any. -/
def plainPiece (cs : List Char) : List Fragment :=
  if cs.isEmpty then [] else [.plain (String.ofList cs)]

/-- The text before the next match, the match, and the text behind it. -/
def nextHit? (opening closing text : List Char) : Option (List Char × List Char × List Char) :=
  (cut? opening text).bind fun (before, rest) =>
    (cut? closing rest).map fun (hit, after) => (before, hit, after)

/-- The pieces of a text, in order. -/
def cutFragments? (opening closing : List Char) (text : List Char) : Option (List Fragment) :=
  match nextHit? opening closing text with
  | none => some (plainPiece text)
  | some (before, hit, after) =>
    if after.length < text.length then
      (cutFragments? opening closing after).map fun rest =>
        plainPiece before ++ .hit (String.ofList hit) :: rest
    else none
termination_by text.length

/-- The plain and matched pieces of a text; none when the markers are both empty. -/
def fragments? (h : Highlight) (text : String) : Option (List Fragment) :=
  cutFragments? h.opening.toList h.closing.toList text.toList

/-- The text without markers. -/
def strip (h : Highlight) (text : String) : String :=
  String.ofList (removeAll h.closing.toList (removeAll h.opening.toList text.toList))

end Highlight

end EventSearch
