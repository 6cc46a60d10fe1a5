/-
# `EventSearch.Query.LuceneGrammar` — reading `lucene` queries

    criteria   := criterion (connective criterion)*
    connective := && | || | AND | OR | layout                 layout means AND
    criterion  := "(" criteria ")" | [NOT | ! | - | +] term
    term       := [field:] [ low TO high ] | [field:] { low TO high }
                | [field:] operand [^n | ~n]
    operand    := "..." | '...' | /pattern/ | bare

Connectives associate to the left and bind equally.  A function of this module takes what is left
of the query and returns a value with what is left behind it.  Where reading fails, the rest of
the query from the failing place is the error; of several alternatives the last one tried tells
the place.
-/
import EventSearch.Query.LuceneTree
import EventSearch.Number.Whole

namespace EventSearch.Query

open EventSearch.Text EventSearch.Number

/-- A value and the rest of the text, or the rest of the text where reading failed. -/
abbrev Reading (α : Type) := Except (List Char) (α × List Char)

namespace LuceneTree

/-! ## Fields -/

/-- Characters of a field name after its first. -/
def isNameChar (c : Char) : Bool := isAsciiLower c || isAsciiDigit c || c = '-' || c = '_'

/-- A field name: a lower case letter, then name characters. -/
def takeName? : List Char → Option (List Char × List Char)
  | [] => none
  | c :: rest =>
    if isAsciiLower c then some (c :: rest.takeWhile isNameChar, rest.dropWhile isNameChar) else none

/-- Digits, as many as there are. -/
def takeDigits (cs : List Char) : List Char × List Char :=
  (cs.takeWhile isAsciiDigit, cs.dropWhile isAsciiDigit)

/-- Digits, or else a bare value. -/
def takeUnsignedIndex? (cs : List Char) : Option (List Char × List Char) :=
  let (ds, rest) := takeDigits cs
  if !ds.isEmpty then some (ds, rest) else BareText.take? cs

/-- The text of an index; a minus sign may stand before it. -/
def takeIndex? : List Char → Option (List Char × List Char)
  | '-' :: rest => (takeUnsignedIndex? rest).map fun (index, rest) => ('-' :: index, rest)
  | cs => takeUnsignedIndex? cs

/-- An index in parentheses; without one nothing is taken. -/
def takeParenthesised : List Char → Option (List Char) × List Char
  | '(' :: rest =>
    match takeIndex? rest with
    | some (index, ')' :: after) => (some index, after)
    | _ => (none, '(' :: rest)
  | cs => (none, cs)

/-- One part of a field path. -/
def takeSegment? (cs : List Char) : Option (PathSegment × List Char) :=
  (takeName? cs).map fun (name, rest) =>
    let (index, rest) := takeParenthesised rest
    (⟨String.ofList name, index.map String.ofList⟩, rest)

/-- Further parts of a path, each after a point; `fuel` bounds their number. -/
def takeSegments : Nat → List Char → List PathSegment × List Char
  | fuel + 1, '.' :: cs =>
    match takeSegment? cs with
    | none => ([], '.' :: cs)
    | some (segment, rest) =>
      let (segments, rest) := takeSegments fuel rest
      (segment :: segments, rest)
  | _, cs => ([], cs)

/-- A field path. -/
def takePath? (cs : List Char) : Option (FieldPath × List Char) :=
  (takeSegment? cs).map fun (segment, rest) =>
    let (segments, rest) := takeSegments rest.length rest
    (⟨segment :: segments⟩, rest)

/-- A field path and a colon; without them nothing is taken. -/
def takeField (cs : List Char) : Option FieldPath × List Char :=
  match takePath? cs with
  | some (path, ':' :: rest) => (some path, rest)
  | _ => (none, cs)

/-! ## Operands -/

/-- The rest of a quoted text up to its closing mark, which a backslash protects. -/
def takeQuoted? (mark : Char) : List Char → Option (List Char × List Char)
  | [] => none
  | '\\' :: c :: rest =>
    if c = mark then (takeQuoted? mark rest).map fun (text, after) => (mark :: text, after)
    else (takeQuoted? mark (c :: rest)).map fun (text, after) => ('\\' :: text, after)
  | c :: rest =>
    if c = mark then some ([], rest)
    else (takeQuoted? mark rest).map fun (text, after) => (c :: text, after)

/-- A text between two marks. -/
def takeEnclosed? (mark : Char) : List Char → Option (String × List Char)
  | c :: rest =>
    if c = mark then (takeQuoted? mark rest).map fun (text, after) => (String.ofList text, after)
    else none
  | [] => none

/-- A bare value; the words of the two connectives are none. -/
def takeBare (cs : List Char) : Reading Operand :=
  match BareText.take? cs with
  | none => .error cs
  | some (raw, rest) =>
    if raw = ['A', 'N', 'D'] ∨ raw = ['O', 'R'] then .error cs
    else .ok (.bare (String.ofList raw), rest)

/-- A value of any kind.  A quote that is not closed is tried as a bare value. -/
def takeOperand (cs : List Char) : Reading Operand :=
  match takeEnclosed? '"' cs, takeEnclosed? '\'' cs, takeEnclosed? '/' cs with
  | some (text, rest), _, _ => .ok (.double text, rest)
  | _, some (text, rest), _ => .ok (.single text, rest)
  | _, _, some (text, rest) => .ok (.pattern text, rest)
  | none, none, none => takeBare cs

/-- The value of some digits, when they fit a 32-bit count. -/
def countOf? (digits : List Char) : Option Nat :=
  if digits.isEmpty then none else (readNat maxCount digits).toOption

/-- A boost or a fuzziness; without one nothing is taken. -/
def takeModifier : List Char → Option Modifier × List Char
  | '^' :: cs =>
    let (ds, rest) := takeDigits cs
    match countOf? ds with
    | some n => (some (.boost n), rest)
    | none => (none, '^' :: cs)
  | '~' :: cs =>
    let (ds, rest) := takeDigits cs
    (some (.fuzzy (countOf? ds)), rest)
  | cs => (none, cs)

/-! ## Terms -/

/-- Layout, at least one character of it. -/
def takeLayout? (cs : List Char) : Option (List Char) :=
  let rest := skipLayout cs
  if rest.length < cs.length then some rest else none

/-- Both ends of a range and the mark that closes it. -/
def takeBounds? (close : Char) (cs : List Char) : Option ((Operand × Operand) × List Char) := do
  let (low, cs) ← (takeOperand (skipLayout cs)).toOption
  let cs ← takeLayout? cs
  let cs ← after? ['T', 'O'] cs
  let cs ← takeLayout? cs
  let (high, cs) ← (takeOperand cs).toOption
  let cs ← after? [close] (skipLayout cs)
  return ((low, high), cs)

/-- A range of either kind. -/
def takeRange? (cs : List Char) : Option (Term × List Char) :=
  let (field, cs) := takeField cs
  match skipLayout cs with
  | '[' :: rest => (takeBounds? ']' rest).map fun ((low, high), rest) =>
      (.inclusive field low high, rest)
  | '{' :: rest => (takeBounds? '}' rest).map fun ((low, high), rest) =>
      (.exclusive field low high, rest)
  | _ => none

/-- A value with its field and modifier. -/
def takeValue (cs : List Char) : Reading Term :=
  let (field, cs) := takeField cs
  match takeOperand cs with
  | .error place => .error place
  | .ok (operand, cs) =>
    let (modifier, cs) := takeModifier cs
    .ok (.value field operand modifier, cs)

def takeTerm (cs : List Char) : Reading Term :=
  match takeRange? cs with
  | some found => .ok found
  | none => takeValue cs

/-- What stands before a term; without it nothing is taken. -/
def takeSign (cs : List Char) : Option Sign × List Char :=
  match (after? ['N', 'O', 'T'] cs).bind takeLayout? with
  | some rest => (some .not, rest)
  | none =>
    match cs with
    | '!' :: rest => (some .bang, rest)
    | '-' :: rest => (some .minus, rest)
    | '+' :: rest => (some .plus, rest)
    | cs => (none, cs)

/-- A term with its sign. -/
def takeSigned (cs : List Char) : Reading LuceneTree :=
  let (sign, cs) := takeSign cs
  match takeTerm cs with
  | .error place => .error place
  | .ok (term, cs) => .ok (.signed sign term, cs)

/-! ## Connectives -/

/-- A symbol with any layout around it. -/
def takeSymbol? (symbol cs : List Char) : Option (List Char) :=
  (after? symbol (skipLayout cs)).map skipLayout

/-- A keyword ends at layout, or right before an opening parenthesis. -/
def takeKeyword? (word cs : List Char) : Option (List Char) :=
  (after? word (skipLayout cs)).bind fun rest =>
    match rest with
    | '(' :: _ => some rest
    | _ => takeLayout? rest

/-- A connective; layout alone means conjunction. -/
def takeConnective? (cs : List Char) : Option (Connective × List Char) :=
  ((takeSymbol? ['&', '&'] cs).map (Connective.and, ·)).or <|
    ((takeSymbol? ['|', '|'] cs).map (Connective.or, ·)).or <|
    ((takeKeyword? ['A', 'N', 'D'] cs).map (Connective.and, ·)).or <|
    ((takeKeyword? ['O', 'R'] cs).map (Connective.or, ·)).or <|
    ((takeLayout? cs).map (Connective.and, ·))

/-! ## Criteria -/

mutual

/-- A criterion and all that connectives add to it. -/
def takeCriteria : Nat → List Char → Reading LuceneTree
  | 0, cs => .error cs
  | fuel + 1, cs =>
    match takeCriterion fuel cs with
    | .error place => .error place
    | .ok (first, rest) => .ok (takeChain fuel first rest)

/-- What connectives add to a tree.  A connective that no criterion follows is left alone. -/
def takeChain : Nat → LuceneTree → List Char → LuceneTree × List Char
  | 0, tree, cs => (tree, cs)
  | fuel + 1, tree, cs =>
    match takeConnective? cs with
    | none => (tree, cs)
    | some (op, rest) =>
      match takeCriterion fuel rest with
      | .error _ => (tree, cs)
      | .ok (right, rest) => takeChain fuel (.combine tree op right) rest

/-- Criteria in parentheses, or a term with its sign. -/
def takeCriterion : Nat → List Char → Reading LuceneTree
  | fuel + 1, '(' :: cs =>
    match takeCriteria fuel (skipLayout cs) with
    | .error _ => takeSigned ('(' :: cs)
    | .ok (inner, rest) =>
      match skipLayout rest with
      | ')' :: after => .ok (.group inner, after)
      | _ => takeSigned ('(' :: cs)
  | _, cs => takeSigned cs

end

/-- Enough for every text of this length: a step down costs one unit and there are at most three
steps to a character. -/
def fuelFor (cs : List Char) : Nat := 3 * cs.length + 3

/-- What is reported for a place where reading failed: the rest of the query from there, or the
whole query when that is blank. -/
def faultAt (query place : List Char) : String :=
  String.ofList (if allBlank place then query else trim place)

/-- The tree of a query, or the part of the query that could not be read. -/
def read (s : String) : Except String LuceneTree :=
  let query := trim s.toList
  match takeCriteria (fuelFor query) query with
  | .error place => .error (faultAt query place)
  | .ok (tree, rest) => if allBlank rest then .ok tree else .error (String.ofList (trim rest))

end LuceneTree

end EventSearch.Query
