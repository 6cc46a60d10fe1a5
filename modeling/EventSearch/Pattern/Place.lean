/-
# `EventSearch.Pattern.Place` — places in a text

A place is between two characters of a text, or at an end of it.  A set of places is a number whose
bits say which places are in it, counted from the start of the text.

**Proved here.**  What is in a set selected by a test (`testBit_select`) and in a set of the places
behind others (`testBit_behind`).
-/
import EventSearch.Pattern.Basic

namespace EventSearch.Pattern

open EventSearch.Text

/-- A place: the characters on its sides. -/
structure Place where
  before : Option Char
  after : Option Char
  deriving DecidableEq

/-- The places of a text that stands behind a character. -/
def placesFrom (before : Option Char) : List Char → List Place
  | [] => [⟨before, none⟩]
  | c :: rest => ⟨before, some c⟩ :: placesFrom (some c) rest

/-- Every place of a text. -/
def places (text : List Char) : List Place := placesFrom none text

/-! ## Conditions -/

namespace Anchor

/-- Whether a place meets a condition. -/
def holds (a : Anchor) (p : Place) : Bool :=
  let previousIs (test : Char → Bool) : Bool := p.before.any test
  let nextIs (test : Char → Bool) : Bool := p.after.any test
  match a with
  | .textStart => p.before.isNone
  | .textEnd => p.after.isNone
  | .lineStart false => p.before.isNone || previousIs (· = '\n')
  | .lineEnd false => p.after.isNone || nextIs (· = '\n')
  | .lineStart true =>
    p.before.isNone || previousIs (· = '\n') || (previousIs (· = '\r') && !nextIs (· = '\n'))
  | .lineEnd true =>
    p.after.isNone || nextIs (· = '\r') || (nextIs (· = '\n') && !previousIs (· = '\r'))
  | .wordBoundary w => previousIs w.has != nextIs w.has
  | .noWordBoundary w => previousIs w.has == nextIs w.has
  | .wordStart w => !previousIs w.has && nextIs w.has
  | .wordEnd w => previousIs w.has && !nextIs w.has
  | .wordStartHalf w => !previousIs w.has
  | .wordEndHalf w => !nextIs w.has

end Anchor

/-! ## Sets of places -/

/-- A set of places: place `i` is in it when bit `i` is set. -/
abbrev PlaceSet := Nat

namespace PlaceSet

/-- The places that pass a test. -/
def select (test : Place → Bool) (ps : List Place) : PlaceSet :=
  ps.foldr (fun p s => 2 * s + (test p).toNat) 0

/-- The places right behind those of a set. -/
def behind (s : PlaceSet) : PlaceSet := s <<< 1

theorem half_twice_add (n : Nat) (b : Bool) : (2 * n + b.toNat) / 2 = n := by
  have small := b.toNat_le
  omega

theorem testBit_select (test : Place → Bool) (ps : List Place) (i : Nat) :
    (select test ps).testBit i = ps[i]?.any test := by
  induction ps generalizing i with
  | nil => simp [select]
  | cons p ps ih =>
    have e : select test (p :: ps) = 2 * select test ps + (test p).toNat := rfl
    cases i with
    | zero => rw [e, Nat.testBit_zero]; cases h : test p <;> simp [h]
    | succ i =>
      rw [Nat.testBit_succ, e, half_twice_add, ih, List.getElem?_cons_succ]

theorem testBit_behind (s : PlaceSet) (i : Nat) :
    (behind s).testBit i = (1 ≤ i && s.testBit (i - 1)) := by
  simp [behind, Nat.testBit_shiftLeft]

end PlaceSet

end EventSearch.Pattern
