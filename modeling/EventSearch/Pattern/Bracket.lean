/-
# `EventSearch.Pattern.Bracket` — classes in brackets

    [abc]  [^a-z]  [[:alpha:]_]  [\w&&[^\d]]  [a-z--aeiou]  [a~~b]

The items of a class are joined; `&&`, `--` and `~~` combine what stands on either side of them,
from the left.  A hyphen that cannot make a range stands for itself, and so does a closing bracket
right at the start.
-/
import EventSearch.Pattern.Escape

namespace EventSearch.Pattern

open EventSearch.Text

/-! ## What has been read -/

/-- The items of a class: their characters, how many they are, and how deep the deepest of them is
nested. -/
structure Items where
  set : CharSet
  count : Nat
  deepest : Nat

namespace Items

def none : Items := ⟨.nothing, 0, 0⟩

/-- One more item. -/
def add (items : Items) (s : CharSet) (nesting : Nat) : Items :=
  ⟨items.set.union s, items.count + 1, max items.deepest nesting⟩

/-- How deep the items are nested; several together are a level of their own. -/
def nesting (items : Items) : Nat := if items.count ≤ 1 then items.deepest else items.deepest + 1

end Items

/-- How two sets are combined. -/
inductive SetOperator where
  | inter
  | diff
  | either

def SetOperator.apply : SetOperator → CharSet → CharSet → CharSet
  | .inter => .inter
  | .diff => .diff
  | .either => .either

/-- A left operand that waits for its right one. -/
structure Pending where
  left : CharSet
  nesting : Nat
  op : SetOperator

/-- The set of an operation when its right operand is complete, and how deep it is nested. -/
def closeOperation (f : Flags) (pending : Option Pending) (items : Items) : CharSet × Nat :=
  match pending with
  | none => (items.set, items.nesting)
  | some p =>
    (p.op.apply (f.foldSet p.left) (f.foldSet items.set), max p.nesting items.nesting + 1)

/-! ## Items -/

/-- The set of an item; a condition on a place is none. -/
def Atom.toSet? (f : Flags) : Atom → Option CharSet
  | .char c => if !f.unicode && 0x80 ≤ c.toNat then none else some (.single c)
  | .set s => some s
  | .anchor _ => none

/-- The set of a range between two items, which must be characters in order. -/
def Atom.range? (f : Flags) : Atom → Atom → Option CharSet
  | .char a, .char b =>
    if a.toNat ≤ b.toNat && (f.unicode || b.toNat < 0x80) then some (.range a.toNat b.toNat)
    else none
  | _, _ => none

def takeItem? (f : Flags) : List Char → Option (Atom × List Char)
  | [] => none
  | '\\' :: rest => takeEscape? f rest
  | c :: rest => some (.char c, rest)

/-- Whether a hyphen, given what follows it, makes a range. -/
def makesRange (f : Flags) (after : List Char) : Bool :=
  (f.skip after).head? ≠ some ']' && (f.skip after).head? ≠ some '-'

/-- An item, or a range of two. -/
def takeRange? (f : Flags) (cs : List Char) : Option (CharSet × List Char) :=
  (takeItem? f cs).bind fun (first, rest) =>
    match f.skip rest with
    | '-' :: after =>
      if makesRange f after then
        (takeItem? f (f.skip after)).bind fun (last, rest) =>
          (first.range? f last).map (·, rest)
      else (first.toSet? f).map (·, '-' :: after)
    | rest => (first.toSet? f).map (·, rest)

/-- A named class of ASCII: `:name:]` or `:^name:]` behind its opening bracket. -/
def takeNamed? (f : Flags) : List Char → Option (CharSet × List Char)
  | ':' :: rest =>
    let (negated, rest) := match rest with
      | '^' :: rest => (true, rest)
      | rest => (false, rest)
    let name := rest.takeWhile (· ≠ ':')
    match rest.drop name.length with
    | ':' :: ']' :: after =>
      (asciiClass? (String.ofList name)).map fun s =>
        (CharSet.complIf negated (f.foldSet s), after)
    | _ => none
  | _ => none

/-- The hyphens, or the closing bracket, that stand for themselves at the start of a class. -/
def takeLeading (f : Flags) (cs : List Char) : Items × List Char :=
  match f.takeRun (· = '-') cs.length cs with
  | ([], ']' :: rest) => (Items.none.add (.single ']') 0, f.skip rest)
  | (hyphens, rest) => (hyphens.foldl (fun items c => items.add (.single c) 0) .none, rest)

/-! ## Classes -/

/-- A class, how deep it is nested, and the text behind it. -/
abbrev ClassReading := Option (CharSet × Nat × List Char)

mutual

/-- A class behind its opening bracket. -/
def takeBracket? : Nat → Flags → List Char → ClassReading
  | 0, _, _ => none
  | fuel + 1, f, cs =>
    let (negated, cs) := match f.skip cs with
      | '^' :: rest => (true, f.skip rest)
      | cs => (false, cs)
    let (items, cs) := takeLeading f cs
    (takeItems? fuel f none items cs).bind fun (s, nesting, rest) =>
      let s := CharSet.complIf negated (f.foldSet s)
      if f.allows s then some (s, nesting + 1, rest) else none

/-- The items of a class up to its closing bracket; `items` are those read since the last
operator. -/
def takeItems? : Nat → Flags → Option Pending → Items → List Char → ClassReading
  | 0, _, _, _, _ => none
  | fuel + 1, f, pending, items, cs =>
    let combine (op : SetOperator) (rest : List Char) : ClassReading :=
      let (left, nesting) := closeOperation f pending items
      takeItems? fuel f (some ⟨left, nesting, op⟩) .none rest
    match f.skip cs with
    | [] => none
    | ']' :: rest =>
      let (s, nesting) := closeOperation f pending items
      some (s, nesting, rest)
    | '[' :: rest =>
      match takeNamed? f rest with
      | some (s, rest) =>
        if f.allows s then takeItems? fuel f pending (items.add s 0) rest else none
      | none => (takeBracket? fuel f rest).bind fun (s, nesting, rest) =>
        takeItems? fuel f pending (items.add s nesting) rest
    | '&' :: '&' :: rest => combine .inter rest
    | '-' :: '-' :: rest => combine .diff rest
    | '~' :: '~' :: rest => combine .either rest
    | cs => (takeRange? f cs).bind fun (s, rest) => takeItems? fuel f pending (items.add s 0) rest

end

end EventSearch.Pattern
