/-
# `EventSearch.Pattern.Outline` — patterns as their machines see them

The machine that a pattern is matched with is made from its outline: groups that nothing is kept of
are gone, characters that follow one another are one text, sequences within sequences and
alternatives within alternatives are taken apart, alternatives that are single characters or classes
are one class, and what all alternatives begin with stands before them.  The size of the machine is
told from the outline (`EventSearch.Pattern.Machine`).
-/
import EventSearch.Pattern.Basic

namespace EventSearch.Pattern

open EventSearch.Text

inductive Outline where
  | empty
  | literal (cs : List Char)
  /-- A class of no character or of several; bytes where it is not a `unicode` one. -/
  | set (s : CharSet) (unicode : Bool)
  | anchor (a : Anchor)
  | capture (a : Outline)
  | times (a : Outline) (least : Nat) (most : Option Nat) (greedy : Bool)
  | seq (parts : List Outline)
  | alt (parts : List Outline)

namespace Outline

/-! ## What can be told of the matches -/

mutual

/-- Every match is empty, and a class of no character does not occur. -/
def isBlank : Outline → Bool
  | .empty | .anchor _ => true
  | .literal _ | .set _ _ => false
  | .capture a => isBlank a
  | .times a _ most _ => most.isSome && isBlank a
  | .seq parts | .alt parts => allBlank parts

def allBlank : List Outline → Bool
  | [] => true
  | a :: rest => isBlank a && allBlank rest

end

mutual

/-- The least number of characters of a match; none where a class of no character occurs. -/
def minLength? : Outline → Option Nat
  | .empty | .anchor _ => some 0
  | .literal cs => some cs.length
  | .set s _ => if s = .nothing then none else some 1
  | .capture a => minLength? a
  | .times a least _ _ => (minLength? a).map (· * least)
  | .seq parts => minLengths? parts (· + ·)
  | .alt parts => minLengths? parts min

/-- The least numbers of several parts put together. -/
def minLengths? : List Outline → (Nat → Nat → Nat) → Option Nat
  | [], _ => some 0
  | [a], _ => minLength? a
  | a :: rest, join =>
    match minLength? a, minLengths? rest join with
    | some m, some n => some (join m n)
    | _, _ => none

end

/-- No match is empty. -/
def consumes (a : Outline) : Bool := (minLength? a).any (0 < ·)

mutual

/-- Every match begins where a condition holds. -/
def startsAt (edge : Anchor) : Outline → Bool
  | .empty | .literal _ | .set _ _ => false
  | .anchor a => a = edge
  | .capture a => startsAt edge a
  | .times a least _ _ => 0 < least && startsAt edge a
  | .seq parts => anyStartsAt edge parts
  | .alt parts => allStartAt edge parts

/-- One of the parts up to the first that is not blank does. -/
def anyStartsAt (edge : Anchor) : List Outline → Bool
  | [] => false
  | a :: rest => startsAt edge a || (isBlank a && anyStartsAt edge rest)

def allStartAt (edge : Anchor) : List Outline → Bool
  | [] => true
  | a :: rest => startsAt edge a && allStartAt edge rest

end

mutual

/-- Two outlines are alike.  What is kept of two groups is never the same, and neither a greedy and a
lazy repetition nor a class of characters and one of bytes are. -/
def same : Outline → Outline → Bool
  | .empty, .empty => true
  | .literal cs, .literal ds => cs = ds
  | .set s unicode, .set t unicode' => s = t && unicode = unicode'
  | .anchor a, .anchor b => a = b
  | .times a least most greedy, .times b least' most' greedy' =>
    least = least' && most = most' && greedy = greedy' && same a b
  | .seq as, .seq bs | .alt as, .alt bs => sameAll as bs
  | _, _ => false

def sameAll : List Outline → List Outline → Bool
  | [], [] => true
  | a :: as, b :: bs => same a b && sameAll as bs
  | _, _ => false

end

mutual

/-- The outline of the same pattern read from right to left. -/
def mirror : Outline → Outline
  | .empty => .empty
  | .literal cs => .literal cs.reverse
  | .set s unicode => .set s unicode
  | .anchor a => .anchor a
  | .capture a => .capture (mirror a)
  | .times a least most greedy => .times (mirror a) least most greedy
  | .seq parts => .seq (mirrorAll parts).reverse
  | .alt parts => .alt (mirrorAll parts)

def mirrorAll : List Outline → List Outline
  | [] => []
  | a :: rest => mirror a :: mirrorAll rest

end

/-! ## Sequences -/

/-- The parts of a sequence. -/
def parts : Outline → List Outline
  | .empty => []
  | .seq parts => parts
  | a => [a]

/-- One part in front of others. -/
def consPart : Outline → List Outline → List Outline
  | .literal cs, .literal ds :: rest => .literal (cs ++ ds) :: rest
  | a, rest => a :: rest

def ofParts : List Outline → Outline
  | [] => .empty
  | [a] => a
  | parts => .seq parts

/-- One outline after another. -/
def append (a b : Outline) : Outline := ofParts (a.parts.foldr consPart b.parts)

/-! ## Alternatives -/

/-- A class; one of a single character is that character, and one of none is of bytes. -/
def ofSet (s : CharSet) (unicode : Bool) : Outline :=
  match s.single? with
  | some n => .literal [Char.ofNat n]
  | none => .set s (unicode && s ≠ .nothing)

def alternatives : Outline → List Outline
  | .alt parts => parts
  | a => [a]

def char? : Outline → Option Char
  | .literal [c] => some c
  | _ => none

def set? : Outline → Option CharSet
  | .set s _ => some s
  | _ => none

def seq? : Outline → Option (List Outline)
  | .seq parts => some parts
  | _ => none

/-- The class that alternatives amount to when all are characters, or all are classes. -/
def classOf? (as : List Outline) : Option CharSet :=
  ((as.mapM char?).map fun cs => .ofSpans (cs.map fun c => ⟨c.toNat, c.toNat⟩)).or
    ((as.mapM set?).map .all)

/-- Alternatives of which nothing is put in front. -/
def choiceOf (as : List Outline) : Outline :=
  match as.flatMap alternatives with
  | [a] => a
  | as =>
    match classOf? as with
    | some s => ofSet s true
    | none => .alt as

/-- What two lists of parts begin with. -/
def commonStart : List Outline → List Outline → List Outline
  | a :: as, b :: bs => if a.same b then a :: commonStart as bs else []
  | _, _ => []

/-- Alternatives, behind what all of them begin with. -/
def choice (as : List Outline) : Outline :=
  match as with
  | [a] => a
  | as =>
    match (as.flatMap alternatives).mapM seq? with
    | some (first :: rest) =>
      let start := rest.foldl commonStart first
      if start.isEmpty then choiceOf as
      else
        let rests := (first :: rest).map fun parts => ofParts (parts.drop start.length)
        (ofParts start).append (choiceOf rests)
    | _ => choiceOf as

/-! ## Repetition -/

/-- An outline repeated.  Of what can only be empty, one repetition says as much as many. -/
def repeated (a : Outline) (least : Nat) (most : Option Nat) (greedy : Bool) : Outline :=
  let (least, most) :=
    if a.isBlank then (min least 1, some (most.elim 1 (min · 1))) else (least, most)
  if most = some 0 then .empty
  else if least = 1 && most = some 1 then a
  else .times a least most greedy

/-! ## Outlines of patterns -/

/-- The outlines of the alternatives of a pattern. -/
def branches : Pattern → List Outline
  | .empty => [.empty]
  | .char c => [.literal [c]]
  | .set s unicode _ => [ofSet s unicode]
  | .anchor a => [.anchor a]
  | .group captures a => [if captures then .capture (choice (branches a)) else choice (branches a)]
  | .seq a b => [(choice (branches a)).append (choice (branches b))]
  | .alt a b => choice (branches a) :: branches b
  | .times a least most greedy => [(choice (branches a)).repeated least most greedy]

/-- The outline of a pattern. -/
def ofPattern (p : Pattern) : Outline := choice (branches p)

end Outline

end EventSearch.Pattern
