/-
# `EventSearch.Pattern.Basic` — search patterns

A pattern as it is written.  Sequences and alternatives lean to the right: `abc` is
`seq a (seq b c)`, and where a part of a sequence or an alternative is one itself, a group stands
around it.
-/
import EventSearch.Text.CharSet

namespace EventSearch.Pattern

open EventSearch.Text

/-- A condition on a place between characters.  Where words count, `w` holds their characters. -/
inductive Anchor where
  | textStart
  | textEnd
  | lineStart (crlf : Bool)
  | lineEnd (crlf : Bool)
  | wordBoundary (w : CharSet)
  | noWordBoundary (w : CharSet)
  | wordStart (w : CharSet)
  | wordEnd (w : CharSet)
  | wordStartHalf (w : CharSet)
  | wordEndHalf (w : CharSet)
  deriving DecidableEq

end EventSearch.Pattern

namespace EventSearch

open EventSearch.Text

/-- A pattern. -/
inductive Pattern where
  | empty
  | char (c : Char)
  /-- A class of characters, or of bytes where it is not a `unicode` one, whose brackets are nested
  as deep as `nesting`. -/
  | set (s : CharSet) (unicode : Bool) (nesting : Nat)
  | anchor (a : Pattern.Anchor)
  | group (captures : Bool) (a : Pattern)
  | seq (a b : Pattern)
  | alt (a b : Pattern)
  /-- At least `least` and at most `most` times; long matches come first where it is greedy. -/
  | times (a : Pattern) (least : Nat) (most : Option Nat) (greedy : Bool)

namespace Pattern

/-! ## Nesting -/

/-- How deep a pattern is nested.  Each group, each repetition, each sequence or choice of more than
one part, and each pair of brackets adds to what is inside it. -/
def nesting : Pattern → Nat
  | .empty | .char _ | .anchor _ => 0
  | .set _ _ n => n
  | .group _ a => a.nesting + 1
  | .seq a (.seq b c) => max (a.nesting + 1) (seq b c).nesting
  | .seq a b => max a.nesting b.nesting + 1
  | .alt a (.alt b c) => max (a.nesting + 1) (alt b c).nesting
  | .alt a b => max a.nesting b.nesting + 1
  | .times a _ _ _ => a.nesting + 1

/-- Patterns that are nested deeper are refused. -/
def maxNesting : Nat := 250

/-! ## Lists of parts -/

/-- The patterns of a list one after another. -/
def sequence : List Pattern → Pattern
  | [] => .empty
  | [a] => a
  | a :: rest => .seq a (sequence rest)

/-- Any of the patterns of a list. -/
def choice : List Pattern → Pattern
  | [] => .empty
  | [a] => a
  | a :: rest => .alt a (choice rest)

end Pattern

end EventSearch
