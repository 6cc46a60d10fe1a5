/-
# `EventSearch.Pattern.Escape` — what a backslash says

An escape is a character (a mark without its meaning, a control character, a code point in
hexadecimal), a class of characters, or a condition on a place.  Back references are refused, and
so is a letter that has no meaning.
-/
import EventSearch.Pattern.Flags
import EventSearch.Text.Percent

namespace EventSearch.Pattern

open EventSearch.Text

/-- What an escape, or a character by itself, stands for. -/
inductive Atom where
  | char (c : Char)
  | set (s : CharSet)
  | anchor (a : Anchor)

/-! ## Code points -/

/-- The character of a code point. -/
def charOf? (n : Nat) : Option Char := if n.isValidChar then some (Char.ofNat n) else none

/-- The value of hexadecimal digits. -/
def hexNumber? (digits : List Char) : Option Nat :=
  digits.foldlM (fun n d => (Percent.hexValue? d).map (16 * n + ·)) 0

def isHexDigit (c : Char) : Bool := (Percent.hexValue? c).isSome

/-- A code point in braces or in `width` hexadecimal digits.  Two digits are a byte, which must be
ASCII where classes do not go beyond it. -/
def takeCodePoint? (f : Flags) (width : Nat) (cs : List Char) : Option (Char × List Char) :=
  match f.skip cs with
  | '{' :: rest =>
    let rest := f.skip rest
    match f.takeRun isHexDigit rest.length rest with
    | ([], _) => none
    | (digits, '}' :: after) => ((hexNumber? digits).bind charOf?).map (·, f.skip after)
    | _ => none
  | rest =>
    let (digits, after) := f.takeRun isHexDigit width rest
    if digits.length < width then none
    else ((hexNumber? digits).bind charOf?).bind fun c =>
      if width = 2 && !f.unicode && 0x80 ≤ c.toNat then none else some (c, after)

/-! ## Classes -/

/-- The classes of `\d`, `\s` and `\w`. -/
def smallLetterClass? (f : Flags) (c : Char) : Option CharSet :=
  match c with
  | 'd' => some (if f.unicode then Property.digit else asciiDigit)
  | 's' => some (if f.unicode then Property.blank else asciiSpace)
  | 'w' => some f.wordSet
  | _ => none

/-- The classes of letters; capitals name the complements, which go beyond ASCII. -/
def letterClass? (f : Flags) (c : Char) : Option CharSet :=
  if isAsciiUpper c then
    if f.unicode then (smallLetterClass? f (Char.ofNat (c.toNat + 32))).map .compl else none
  else smallLetterClass? f c

/-- The name of a property: one letter, or a text in braces. -/
def takePropertyName? (f : Flags) (cs : List Char) : Option (List Char × List Char) :=
  match f.skip cs with
  | [] | '\\' :: _ => none
  | '{' :: rest =>
    let rest := f.skip rest
    match f.takeRun (· ≠ '}') rest.length rest with
    | (name, _ :: after) => some (name, after)
    | _ => none
  | c :: rest => some ([c], f.skip rest)

/-- The characters with a property, or those without it. -/
def takeProperty? (f : Flags) (negated : Bool) (cs : List Char) : Option (CharSet × List Char) :=
  if !f.unicode then none
  else (takePropertyName? f cs).bind fun (name, rest) =>
    (Property.read? name).map fun (differs, s) =>
      (CharSet.complIf (negated != differs) (f.foldSet s), rest)

/-! ## Boundaries -/

/-- A boundary by its name. -/
def namedBoundary? (w : CharSet) (name : String) : Option Anchor :=
  match name with
  | "start" => some (.wordStart w)
  | "end" => some (.wordEnd w)
  | "start-half" => some (.wordStartHalf w)
  | "end-half" => some (.wordEndHalf w)
  | _ => none

/-- What follows `\b`: a name in braces, or nothing.  Braces that hold no name are left, for they
may count repetitions. -/
def takeBoundary? (f : Flags) (cs : List Char) : Option (Anchor × List Char) :=
  let isNameChar (c : Char) : Bool := isAsciiLetter c || c = '-'
  match cs with
  | '{' :: rest =>
    let body := f.skip rest
    if body.isEmpty then none
    else match f.takeRun isNameChar body.length body with
      | ([], _) => some (.wordBoundary f.wordSet, cs)
      | (name, '}' :: after) => (namedBoundary? f.wordSet (String.ofList name)).map (·, after)
      | _ => none
  | _ => some (.wordBoundary f.wordSet, cs)

/-! ## Escapes -/

/-- The character of an escape that stands for one. -/
def escapedLiteral? (c : Char) : Option Char :=
  match c with
  | 'a' => some '\x07'
  | 'f' => some '\x0C'
  | 't' => some '\t'
  | 'n' => some '\n'
  | 'r' => some '\r'
  | 'v' => some '\x0B'
  | c =>
    if c.toNat < 0x80 && !isAsciiLetter c && !isAsciiDigit c && c ≠ '<' && c ≠ '>' then some c
    else none

/-- The condition of an escape that stands for one. -/
def escapedAnchor? (f : Flags) (c : Char) : Option Anchor :=
  match c with
  | 'A' => some .textStart
  | 'z' => some .textEnd
  | 'B' => some (.noWordBoundary f.wordSet)
  | '<' => some (.wordStart f.wordSet)
  | '>' => some (.wordEnd f.wordSet)
  | _ => none

/-- What an escape stands for, given the text after the backslash. -/
def takeEscape? (f : Flags) : List Char → Option (Atom × List Char)
  | [] => none
  | 'x' :: rest => (takeCodePoint? f 2 rest).map fun (c, rest) => (.char c, rest)
  | 'u' :: rest => (takeCodePoint? f 4 rest).map fun (c, rest) => (.char c, rest)
  | 'U' :: rest => (takeCodePoint? f 8 rest).map fun (c, rest) => (.char c, rest)
  | 'p' :: rest => (takeProperty? f false rest).map fun (s, rest) => (.set s, rest)
  | 'P' :: rest => (takeProperty? f true rest).map fun (s, rest) => (.set s, rest)
  | 'b' :: rest => (takeBoundary? f rest).map fun (a, rest) => (.anchor a, rest)
  | c :: rest =>
    ((letterClass? f c).map fun s => (.set s, rest)).or <|
      ((escapedLiteral? c).map fun c => (.char c, rest)).or <|
        (escapedAnchor? f c).map fun a => (.anchor a, rest)

end EventSearch.Pattern
