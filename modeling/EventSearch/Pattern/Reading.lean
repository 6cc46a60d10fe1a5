/-
# `EventSearch.Pattern.Reading` — patterns from text

    pattern    := sequence ("|" sequence)*
    sequence   := (piece repetition*)*
    piece      := character | escape | class | "." | "^" | "$" | "(" … pattern ")"
    repetition := ("*" | "+" | "?" | "{n}" | "{n,}" | "{n,m}") "?"?

A group may be numbered, named or neither, and may set flags.  Nothing looks ahead or behind.  A
text is refused when it has no such form, when its parts are nested too deep, and when the machine
for it would be too large.
-/
import EventSearch.Pattern.Bracket
import EventSearch.Pattern.Machine
import EventSearch.Number.Whole

namespace EventSearch.Pattern

open EventSearch.Text EventSearch.Number

/-! ## Repetition -/

/-- A count between blanks. -/
def takeCount? (f : Flags) (cs : List Char) : Option (Nat × List Char) :=
  let cs := trimStart cs
  let (digits, rest) := f.takeRun isAsciiDigit cs.length cs
  let n := digitsValue 0 digits
  if digits.isEmpty || maxCount < n then none else some (n, trimStart rest)

/-- Counts behind an opening brace, up to the closing one. -/
def takeCounts? (f : Flags) (cs : List Char) : Option ((Nat × Option Nat) × List Char) :=
  (takeCount? f (f.skip cs)).bind fun (least, rest) =>
    match rest with
    | '}' :: after => some ((least, some least), after)
    | ',' :: rest =>
      match f.skip rest with
      | '}' :: after => some ((least, none), after)
      | rest =>
        match takeCount? f rest with
        | some (most, '}' :: after) =>
          if least ≤ most then some ((least, some most), after) else none
        | _ => none
    | _ => none

/-- Whether a repetition is greedy; a mark behind it turns around what the flags say. -/
def takeGreed (f : Flags) : List Char → Bool × List Char
  | '?' :: rest => (f.lazy, rest)
  | rest => (!f.lazy, rest)

/-- How a piece is repeated. -/
structure Repetition where
  least : Nat
  most : Option Nat
  greedy : Bool

/-- A repetition whose counts are read, and what is left behind the mark that may follow them. -/
def takeMarked (f : Flags) (least : Nat) (most : Option Nat) (cs : List Char) :
    Repetition × List Char :=
  let (greedy, rest) := takeGreed f cs
  (⟨least, most, greedy⟩, rest)

/-- How a piece is repeated, when a repetition follows. -/
def takeRepetition? (f : Flags) : List Char → Option (Repetition × List Char)
  | '*' :: rest => some (takeMarked f 0 none rest)
  | '+' :: rest => some (takeMarked f 1 none rest)
  | '?' :: rest => some (takeMarked f 0 (some 1) rest)
  | '{' :: rest => (takeCounts? f rest).map fun ((least, most), rest) =>
    takeMarked f least most (f.skip rest)
  | _ => none

/-! ## Groups -/

/-- How the match of a group is kept. -/
inductive GroupKind where
  | plain
  | numbered
  | named (name : List Char)
  deriving DecidableEq

/-- What an opening parenthesis begins. -/
inductive Opening where
  /-- New flags for the rest of the group around it. -/
  | flags (f : Flags)
  /-- A group with flags of its own. -/
  | group (f : Flags) (kind : GroupKind)

/-- A group name: a letter or underscore, then letters, numerals, underscores, points and square
brackets. -/
def isGroupName : List Char → Bool
  | [] => false
  | c :: cs =>
    (c = '_' || isLetter c) &&
      cs.all fun c => isLetter c || isNumeric c || ['_', '.', '[', ']'].contains c

/-- A named group behind `<`. -/
def takeNamedGroup? (f : Flags) (cs : List Char) : Option (Opening × List Char) :=
  let name := cs.takeWhile (· ≠ '>')
  match cs.drop name.length with
  | _ :: rest => if isGroupName name then some (.group f (.named name), rest) else none
  | [] => none

/-- Flags behind `?`, for the rest of the group or for a group of their own. -/
def takeFlags? (f : Flags) (cs : List Char) : Option (Opening × List Char) :=
  let letters := cs.takeWhile fun c => c ≠ ':' && c ≠ ')'
  match cs.drop letters.length with
  | ':' :: rest => (f.change? letters).map fun f => (.group f .plain, rest)
  | ')' :: rest => if letters.isEmpty then none else (f.change? letters).map (.flags ·, rest)
  | _ => none

/-- What follows an opening parenthesis. -/
def takeOpening? (f : Flags) (cs : List Char) : Option (Opening × List Char) :=
  match f.skip cs with
  | '?' :: '<' :: '=' :: _ | '?' :: '<' :: '!' :: _ => none
  | '?' :: '<' :: rest | '?' :: 'P' :: '<' :: rest => takeNamedGroup? f rest
  | '?' :: rest => takeFlags? f rest
  | rest => some (.group f .numbered, rest)

/-! ## Patterns -/

/-- Group names met so far. -/
abbrev GroupNames := List (List Char)

/-- The names with that of one more group; none when the name is taken. -/
def GroupNames.add? (names : GroupNames) : GroupKind → Option GroupNames
  | .plain | .numbered => some names
  | .named n => if names.contains n then none else some (n :: names)

/-- The pieces of a sequence, latest first.  A change of flags has its place among them and matches
nothing. -/
abbrev Pieces := List (Option Pattern)

/-- The pieces one after another. -/
def Pieces.toPattern (pieces : Pieces) : Pattern :=
  sequence (pieces.reverse.map fun piece => piece.getD .empty)

/-- Alternatives, latest first, up to a last one. -/
def lastAlternative (earlier : List Pattern) (pieces : Pieces) : Pattern :=
  choice (pieces.toPattern :: earlier).reverse

/-- A piece without parts: a class, an escape, a mark or a character. -/
def takePiece? (f : Flags) : List Char → Option (Pattern × List Char)
  | [] => none
  | '[' :: rest => (takeBracket? (2 * rest.length + 2) f rest).map fun (s, nesting, rest) =>
    (.set s f.unicode nesting, rest)
  | '\\' :: rest =>
    (takeEscape? f rest).bind fun (atom, rest) =>
      match atom with
      | .char c => (f.literal? c).map (·, rest)
      | .set s => some (f.bareSet s, rest)
      | .anchor a => some (.anchor a, rest)
  | '.' :: rest => f.dot?.map (·, rest)
  | '^' :: rest => some (.anchor f.startMark, rest)
  | '$' :: rest => some (.anchor f.endMark, rest)
  | c :: rest => (f.literal? c).map (·, rest)

/-- Characters that begin a repetition. -/
def repetitionMarks : List Char := ['*', '+', '?', '{']

/-- The alternatives up to the end of the group or text, with the group names met.  A repetition
needs a piece before it. -/
def takeAlternatives? : Nat → Flags → GroupNames → List Pattern → Pieces → List Char →
    Option (Pattern × GroupNames × List Char)
  | 0, _, _, _, _, _ => none
  | fuel + 1, f, names, earlier, pieces, cs =>
    match f.skip cs with
    | [] => some (lastAlternative earlier pieces, names, [])
    | ')' :: rest => some (lastAlternative earlier pieces, names, ')' :: rest)
    | '|' :: rest => takeAlternatives? fuel f names (pieces.toPattern :: earlier) [] rest
    | '(' :: rest =>
      match takeOpening? f rest with
      | none => none
      | some (.flags g, rest) => takeAlternatives? fuel g names earlier (none :: pieces) rest
      | some (.group g kind, rest) =>
        match (names.add? kind).bind fun names => takeAlternatives? fuel g names [] [] rest with
        | some (inner, names, ')' :: rest) =>
          let group := .group (kind ≠ .plain) inner
          takeAlternatives? fuel f names earlier (some group :: pieces) rest
        | _ => none
    | c :: rest =>
      if repetitionMarks.contains c then
        match pieces, takeRepetition? f (c :: rest) with
        | some piece :: pieces, some (r, rest) =>
          let repeated := .times piece r.least r.most r.greedy
          takeAlternatives? fuel f names earlier (some repeated :: pieces) rest
        | _, _ => none
      else
        (takePiece? f (c :: rest)).bind fun (piece, rest) =>
          takeAlternatives? fuel f names earlier (some piece :: pieces) rest

/-! ## Texts -/

/-- Why a text is refused. -/
inductive Refusal where
  /-- It is no pattern, or one that is nested too deep. -/
  | malformed
  /-- The machine for it would take too much space. -/
  | tooLarge
  deriving DecidableEq

/-- The words for a refusal; of what is malformed, the start of them. -/
def Refusal.message : Refusal → String
  | .malformed => "regex parse error:"
  | .tooLarge => "Compiled regex exceeds size limit of " ++ toString Machine.maxSize ++ " bytes."

/-- The pattern of a text, whatever its machine takes. -/
def parse? (ignoreCase : Bool) (s : String) : Option Pattern :=
  let cs := s.toList
  match takeAlternatives? (cs.length + 1) (.initial ignoreCase) [] [] [] cs with
  | some (p, _, []) => if p.nesting ≤ maxNesting then some p else none
  | _ => none

/-- The pattern of a text that can be used. -/
def read (ignoreCase : Bool) (s : String) : Except Refusal Pattern :=
  match parse? ignoreCase s with
  | none => .error .malformed
  | some p => if p.fits then .ok p else .error .tooLarge

end EventSearch.Pattern
