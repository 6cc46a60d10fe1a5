/-
# `EventSearch.Pattern.Matching` — what patterns match

From a set of places in a text a pattern leads to the places that its matches can end at
(`moves`), and a text holds a match when some place can be reached from anywhere (`foundIn`).
Which of several matches is preferred plays no part.

What the characters of a text decide is found once for each part of a pattern; after that only sets
of places are combined.
-/
import EventSearch.Pattern.Place

namespace EventSearch.Pattern

open EventSearch.Text

/-! ## Repetition -/

/-- Exactly `n` steps; as soon as a step changes nothing, no further one does. -/
def exactly (step : PlaceSet → PlaceSet) : Nat → PlaceSet → PlaceSet
  | 0, s => s
  | n + 1, s =>
    let t := step s
    if t = s then s else exactly step n t

/-- The places reached within `rounds` steps.  `seen` are those known, `fresh` those of them that
were found last. -/
def spread (step : PlaceSet → PlaceSet) : Nat → PlaceSet → PlaceSet → PlaceSet
  | 0, _, seen => seen
  | rounds + 1, fresh, seen =>
    let found := step fresh ||| seen
    if found = seen then seen else spread step rounds (found ^^^ seen) found

/-! ## Moves -/

/-- How a part of a pattern leads from places to places. -/
structure Moves where
  next : PlaceSet → PlaceSet
  /-- How deep loops stand inside one another in `next`. -/
  loops : Nat

namespace Moves

/-- Over one character, from the places before a character that passes a test. -/
def past (ps : List Place) (test : Char → Bool) : Moves :=
  let doors := PlaceSet.select (fun p => p.after.any test) ps
  ⟨fun s => PlaceSet.behind (s &&& doors), 0⟩

/-- Nowhere else, from the places that meet a condition. -/
def stay (ps : List Place) (a : Anchor) : Moves :=
  let kept := PlaceSet.select a.holds ps
  ⟨fun s => s &&& kept, 0⟩

/-- The union of the rows of the places in a set. -/
def joinRows : List PlaceSet → PlaceSet → PlaceSet
  | [], _ => 0
  | row :: rows, s =>
    if s = 0 then 0 else (if s % 2 = 1 then row else 0) ||| joinRows rows (s / 2)

/-- The same moves out of a table that holds, for each place, where it leads. -/
def tabulated (m : Moves) (ps : List Place) : Moves :=
  let rows := (List.range ps.length).map fun i => m.next (1 <<< i)
  ⟨joinRows rows, 0⟩

/-- Moves that take at least `least` and at most `most` steps.  Where loops stand inside one another
the inner ones are tabulated, lest their work is multiplied. -/
def repeated (m : Moves) (ps : List Place) (least : Nat) (most : Option Nat) : Moves :=
  let m := if 2 ≤ m.loops then m.tabulated ps else m
  let rounds := match most with
    | none => ps.length
    | some most => min (most - least) ps.length
  ⟨fun s =>
      let reached := exactly m.next least s
      spread m.next rounds reached reached,
    if most = some 1 then m.loops else m.loops + 1⟩

end Moves

end EventSearch.Pattern

namespace EventSearch.Pattern

open EventSearch.Text

/-- The moves of a pattern among the places of a text. -/
def moves (ps : List Place) : Pattern → Moves
  | .empty => ⟨id, 0⟩
  | .char c => .past ps (· = c)
  | .set s _ _ => .past ps s.has
  | .anchor a => .stay ps a
  | .group _ a => moves ps a
  | .seq a b =>
    let f := moves ps a
    let g := moves ps b
    ⟨fun s => g.next (f.next s), max f.loops g.loops⟩
  | .alt a b =>
    let f := moves ps a
    let g := moves ps b
    ⟨fun s => f.next s ||| g.next s, max f.loops g.loops⟩
  | .times a least most _ => (moves ps a).repeated ps least most

/-- Whether a text holds a match. -/
def foundIn (p : Pattern) (text : List Char) : Bool :=
  let ps := places text
  (moves ps p).next (PlaceSet.select (fun _ => true) ps) ≠ 0

end EventSearch.Pattern
