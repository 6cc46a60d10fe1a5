/-
# `EventSearch.Query.Criteria` — compiled criteria

Queries of both languages compile to one kind of tree, whose leaves test qualified paths.  The
combinators `and` and `or` keep it flat: nodes of one kind merge, and `empty`, which every record
passes, is the neutral element of both.

A leaf without a value tests presence: with an operator that starts with `!` the path must be
absent, with any other it must be there.
-/
import EventSearch.Query.Operator

namespace EventSearch.Query

/-- A test of one path. -/
structure Leaf where
  path : String
  operator : String
  value : Option String
  deriving DecidableEq

/-- Compiled criteria. -/
inductive Criteria where
  /-- No condition. -/
  | empty
  | leaf (test : Leaf)
  /-- All of some criteria. -/
  | conj (children : List Criteria)
  /-- Any of some criteria. -/
  | disj (children : List Criteria)

namespace Criteria

/-! ## Equality -/

mutual

def decEq : (a b : Criteria) → Decidable (a = b)
  | .empty, .empty => isTrue rfl
  | .leaf a, .leaf b =>
    if h : a = b then isTrue (by rw [h]) else isFalse (by intro e; cases e; exact h rfl)
  | .conj as, .conj bs =>
    match decEqList as bs with
    | isTrue h => isTrue (by rw [h])
    | isFalse h => isFalse (by intro e; cases e; exact h rfl)
  | .disj as, .disj bs =>
    match decEqList as bs with
    | isTrue h => isTrue (by rw [h])
    | isFalse h => isFalse (by intro e; cases e; exact h rfl)
  | .empty, .leaf _ | .empty, .conj _ | .empty, .disj _ => isFalse (by intro e; cases e)
  | .leaf _, .empty | .leaf _, .conj _ | .leaf _, .disj _ => isFalse (by intro e; cases e)
  | .conj _, .empty | .conj _, .leaf _ | .conj _, .disj _ => isFalse (by intro e; cases e)
  | .disj _, .empty | .disj _, .leaf _ | .disj _, .conj _ => isFalse (by intro e; cases e)

def decEqList : (as bs : List Criteria) → Decidable (as = bs)
  | [], [] => isTrue rfl
  | [], _ :: _ => isFalse (by intro e; cases e)
  | _ :: _, [] => isFalse (by intro e; cases e)
  | a :: as, b :: bs =>
    match decEq a b, decEqList as bs with
    | isTrue h, isTrue h' => isTrue (by rw [h, h'])
    | isFalse h, _ => isFalse (by intro e; cases e; exact h rfl)
    | _, isFalse h => isFalse (by intro e; cases e; exact h rfl)

end

instance : DecidableEq Criteria := decEq

/-! ## Leaves -/

/-- A leaf that compares with a value. -/
def test (path operator value : String) : Criteria := .leaf ⟨path, operator, some value⟩

/-- The path must be there. -/
def present (path : String) : Criteria := .leaf ⟨path, "==", none⟩

/-- The path must not be there. -/
def absent (path : String) : Criteria := .leaf ⟨path, "!=", none⟩

def isEmpty : Criteria → Bool
  | .empty => true
  | _ => false

/-! ## Combination -/

/-- Both criteria. -/
def and : Criteria → Criteria → Criteria
  | .empty, c => c
  | c, .empty => c
  | .conj as, .conj bs => .conj (as ++ bs)
  | .conj as, c => .conj (as ++ [c])
  | c, .conj bs => .conj (c :: bs)
  | a, b => .conj [a, b]

/-- Either of the criteria. -/
def or : Criteria → Criteria → Criteria
  | .empty, c => c
  | c, .empty => c
  | .disj as, .disj bs => .disj (as ++ bs)
  | .disj as, c => .disj (as ++ [c])
  | c, .disj bs => .disj (c :: bs)
  | a, b => .disj [a, b]

/-- All of a list. -/
def allOf (cs : List Criteria) : Criteria := cs.foldl and .empty

/-- Any of a list. -/
def anyOf (cs : List Criteria) : Criteria := cs.foldl or .empty

/-! ## Leaves of a tree -/

mutual

/-- The leaves, in the order of the tree. -/
def leaves : Criteria → List Leaf
  | .empty => []
  | .leaf test => [test]
  | .conj children => leavesOfAll children
  | .disj children => leavesOfAll children

/-- The leaves of a list of trees. -/
def leavesOfAll : List Criteria → List Leaf
  | [] => []
  | c :: cs => leaves c ++ leavesOfAll cs

end

/-- The paths that are tested, in the order of the tree. -/
def paths (c : Criteria) : List String := c.leaves.map (·.path)

end Criteria

end EventSearch.Query
