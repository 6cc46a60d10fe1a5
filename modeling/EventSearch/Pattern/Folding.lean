/-
# `EventSearch.Pattern.Folding` — letters without regard to case

Where a pattern ignores case, two characters are equal when simple case folding takes them to the
same character.  A set of characters is folded by adding every character that is equal to one of
its own.
-/
import EventSearch.Text.Casing
import EventSearch.Pattern.Folding.Table

namespace EventSearch.Pattern

open EventSearch.Text

/-! ## Characters -/

/-- Simple case folding. -/
def fold (c : Char) : Char :=
  if c.toNat < 0x80 then (if isAsciiUpper c then Char.ofNat (c.toNat + 32) else c)
  else Char.ofNat (mapByRuns foldRuns c.toNat)

/-- Equal without regard to case. -/
def sameFold (c d : Char) : Bool := fold c = fold d

/-- The code points from which folding leads to `n`, and `n`. -/
def foldSources (n : Nat) : List Nat := n :: foldRuns.filterMap (·.source? n)

/-- Every character equal to one. -/
def foldClass (c : Char) : CharSet :=
  .ofSpans ((foldSources (fold c).toNat).map fun n => ⟨n, n⟩)

/-! ## Sets -/

/-- The code points of a run. -/
def runPoints (r : CaseRun) : List Nat :=
  (List.range ((r.last - r.first) / r.step + 1)).map fun k => r.first + k * r.step

/-- The code points that folding moves, each behind its image, in the order of the images. -/
def foldPairs : List (Nat × Nat) :=
  (foldRuns.flatMap fun r => (runPoints r).map fun n : Nat => ((n + r.shift).toNat, n)).mergeSort
    fun p q => p.1 ≤ q.1

/-- The groups of equal code points, where there is more than one. -/
def foldGroups : List (List Nat) :=
  (foldPairs.splitBy fun p q => p.1 = q.1).map fun group =>
    (group.head?.map (·.1)).toList ++ group.map (·.2)

/-- A set with every character that is equal to one of it. -/
def folded (s : CharSet) : CharSet :=
  let met := foldGroups.filter fun group => group.any s.hasCode
  s.union (.ofSpans (met.flatten.map fun n => ⟨n, n⟩))

end EventSearch.Pattern
