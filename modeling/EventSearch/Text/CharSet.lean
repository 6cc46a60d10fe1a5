/-
# `EventSearch.Text.CharSet` — sets of characters

A set of characters is a list of spans of code points, in ascending order and apart from each
other: spans that overlap or follow one another are joined.  Surrogates are no characters, so the
character after U+D7FF is U+E000, but spans are not joined there.

Tables of character data are lines of text: spans in hexadecimal digits with blanks between them.
In `41-5A B5 100-12E/2` the last entry takes every second code point.
-/
import EventSearch.Text.Percent
import EventSearch.Text.Pieces

namespace EventSearch.Text

/-! ## Spans -/

/-- The numbers from `first` to `last`. -/
structure Span where
  first : Nat
  last : Nat
  deriving DecidableEq

/-- The code point after one. -/
def codeAfter (n : Nat) : Nat := if n = 0xD7FF then 0xE000 else n + 1

/-- The code point before one. -/
def codeBefore (n : Nat) : Nat := if n = 0xE000 then 0xD7FF else n - 1

/-- The greatest code point. -/
def maxCode : Nat := 0x10FFFF

namespace Span

def has (r : Span) (n : Nat) : Bool := r.first ≤ n && n ≤ r.last

theorem has_iff {r : Span} {n : Nat} : r.has n = true ↔ r.first ≤ n ∧ n ≤ r.last := by simp [has]

/-- Two spans that overlap, or one of which starts right after the other. -/
def touches (r s : Span) : Bool := r.first ≤ s.last + 1 && s.first ≤ r.last + 1

/-- The span from the start of the first of two to the end of the last. -/
def hull (r s : Span) : Span := ⟨min r.first s.first, max r.last s.last⟩

def inter? (r s : Span) : Option Span :=
  let t : Span := ⟨max r.first s.first, min r.last s.last⟩
  if t.first ≤ t.last then some t else none

/-- What a span holds before and after another one. -/
def without (r s : Span) : List Span :=
  if s.last < r.first || r.last < s.first then [r]
  else
    (if r.first < s.first then [⟨r.first, codeBefore s.first⟩] else []) ++
      (if s.last < r.last then [⟨codeAfter s.last, r.last⟩] else [])

/-- A span joined with those of a list that it touches, as long as they do. -/
def joinInto : Span → List Span → List Span
  | r, [] => [r]
  | r, s :: rest => if r.touches s then joinInto (r.hull s) rest else r :: joinInto s rest

/-- Spans in ascending order with those joined that touch. -/
def joined : List Span → List Span
  | [] => []
  | r :: rest => joinInto r rest

/-- What lies between the spans of a list, from `low` on.  The gap between a span that ends at
U+D7FF and one that starts at U+E000 holds these two. -/
def gapsFrom (low : Nat) : List Span → List Span
  | [] => if low ≤ maxCode then [⟨low, maxCode⟩] else []
  | r :: rest =>
    let gaps := gapsFrom (codeAfter r.last) rest
    if low < r.first then ⟨low, codeBefore r.first⟩ :: gaps
    else if low = 0xE000 then ⟨codeBefore low, low⟩ :: gaps
    else gaps

end Span

/-! ## Sets -/

structure CharSet where
  spans : List Span
  deriving DecidableEq

namespace CharSet

/-- Whether a code point is in a set. -/
def hasCode (s : CharSet) (n : Nat) : Bool := s.spans.any (·.has n)

def has (s : CharSet) (c : Char) : Bool := s.hasCode c.toNat

def nothing : CharSet := ⟨[]⟩

def everything : CharSet := ⟨[⟨0, maxCode⟩]⟩

/-- The code points from `first` to `last`. -/
def range (first last : Nat) : CharSet := ⟨[⟨first, last⟩]⟩

/-- One character. -/
def single (c : Char) : CharSet := range c.toNat c.toNat

/-- Any spans, in any order. -/
def ofSpans (spans : List Span) : CharSet :=
  ⟨Span.joined (spans.mergeSort fun r s => r.first ≤ s.first)⟩

def union (a b : CharSet) : CharSet :=
  ⟨Span.joined (a.spans.merge b.spans fun r s => r.first ≤ s.first)⟩

def inter (a b : CharSet) : CharSet := ⟨a.spans.flatMap fun r => b.spans.filterMap r.inter?⟩

def diff (a b : CharSet) : CharSet :=
  ⟨b.spans.foldl (fun rs s => rs.flatMap (·.without s)) a.spans⟩

/-- In one of the two sets and not in the other. -/
def either (a b : CharSet) : CharSet := (a.union b).diff (a.inter b)

def compl (a : CharSet) : CharSet := ⟨Span.gapsFrom 0 a.spans⟩

/-- A set, or its complement. -/
def complIf (negated : Bool) (a : CharSet) : CharSet := if negated then a.compl else a

/-- The union of a list of sets. -/
def all (sets : List CharSet) : CharSet := sets.foldl union nothing

/-- Nothing beyond ASCII. -/
def isAscii (s : CharSet) : Bool := s.spans.all (·.last ≤ 0x7F)

/-- The code point of a set that has only one. -/
def single? (s : CharSet) : Option Nat :=
  match s.spans with
  | [r] => if r.first = r.last then some r.first else none
  | _ => none

/-! ## Tables -/

/-- The value of hexadecimal digits. -/
def hexValue (digits : List Char) : Nat :=
  digits.foldl (fun n d => 16 * n + (Percent.hexValue? d).getD 0) 0

/-- The spans of an entry of a table: one code point, the two ends of a span, or a step besides. -/
def entrySpans (entry : List Char) : List Span :=
  match ((splitAt '-' entry).flatMap (splitAt '/')).map hexValue with
  | [n] => [⟨n, n⟩]
  | [first, last] => [⟨first, last⟩]
  | [first, last, step] =>
    (List.range ((last - first) / step + 1)).map fun k => ⟨first + k * step, first + k * step⟩
  | _ => []

/-- The set of a table, line by line in ascending order. -/
def ofLines (table : List String) : CharSet :=
  ⟨table.flatMap fun line => (splitAt ' ' line.toList).flatMap entrySpans⟩

end CharSet

end EventSearch.Text
