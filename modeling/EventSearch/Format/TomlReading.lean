/-
# `EventSearch.Format.TomlReading` — reading settings files

Headers, keys and values of one line each; arrays and inline tables may span lines where the
format allows it.  Values are texts in either kind of quotes, whole numbers in any notation,
floats, truth values, arrays and inline tables.  Dates and texts over several lines are not read.
-/
import EventSearch.Format.Toml
import EventSearch.Text.Pieces
import EventSearch.Text.Percent

namespace EventSearch.Format.Toml

open EventSearch.Text EventSearch.Number EventSearch.Data

/-! ## Blanks -/

def isSpace (c : Char) : Bool := c = ' ' || c = '\t'

/-- What is left of a line after spaces and tabs. -/
def skipSpaces (cs : List Char) : List Char := cs.dropWhile isSpace

/-- What is left after a comment, which runs to the end of its line. -/
def skipComment : List Char → List Char
  | '#' :: rest => rest.dropWhile (· ≠ '\n')
  | cs => cs

/-- What is left after spaces, line ends and comments; `fuel` bounds their number. -/
def skipLines : Nat → List Char → List Char
  | 0, cs => cs
  | fuel + 1, cs =>
    match skipComment (skipSpaces cs) with
    | '\n' :: rest => skipLines fuel rest
    | '\r' :: '\n' :: rest => skipLines fuel rest
    | rest => rest

/-- What follows the end of a line, or the end of the text. -/
def endLine? (cs : List Char) : Option (List Char) :=
  match skipComment (skipSpaces cs) with
  | [] => some []
  | '\n' :: rest | '\r' :: '\n' :: rest => some rest
  | _ => none

/-! ## Texts -/

/-- Characters that a text on one line may hold. -/
def isTextChar (c : Char) : Bool := c = '\t' || (0x20 ≤ c.toNat && c.toNat ≠ 0x7F)

/-- The character of a code point in `width` hexadecimal digits. -/
def takeCodePoint? (width : Nat) (cs : List Char) : Option (Char × List Char) :=
  let digits := cs.take width
  if digits.length < width then none
  else (digits.foldlM (fun n d => (Percent.hexValue? d).map (16 * n + ·)) 0).bind fun n =>
    if n.isValidChar then some (Char.ofNat n, cs.drop width) else none

/-- The character of an escape, given what follows the backslash. -/
def takeEscape? : List Char → Option (Char × List Char)
  | 'b' :: rest => some ('\x08', rest)
  | 't' :: rest => some ('\t', rest)
  | 'n' :: rest => some ('\n', rest)
  | 'f' :: rest => some ('\x0C', rest)
  | 'r' :: rest => some ('\r', rest)
  | '"' :: rest => some ('"', rest)
  | '\\' :: rest => some ('\\', rest)
  | 'u' :: rest => takeCodePoint? 4 rest
  | 'U' :: rest => takeCodePoint? 8 rest
  | _ => none

/-- The rest of a text in double quotes; `fuel` bounds its length. -/
def takeDouble? : Nat → List Char → Option (List Char × List Char)
  | 0, _ | _ + 1, [] => none
  | _ + 1, '"' :: rest => some ([], rest)
  | fuel + 1, '\\' :: rest =>
    (takeEscape? rest).bind fun (c, rest) =>
      (takeDouble? fuel rest).map fun (cs, rest) => (c :: cs, rest)
  | fuel + 1, c :: rest =>
    if isTextChar c then (takeDouble? fuel rest).map fun (cs, rest) => (c :: cs, rest) else none

/-- The rest of a text in single quotes, where nothing is escaped. -/
def takeSingle? (cs : List Char) : Option (List Char × List Char) :=
  let inside := cs.takeWhile fun c => c ≠ '\'' && isTextChar c
  match cs.drop inside.length with
  | '\'' :: rest => some (inside, rest)
  | _ => none

/-! ## Keys -/

def isKeyChar (c : Char) : Bool := isAsciiLetter c || isAsciiDigit c || c = '_' || c = '-'

/-- One part of a key. -/
def takeKeyPart? (cs : List Char) : Option (String × List Char) :=
  let made (r : Option (List Char × List Char)) : Option (String × List Char) :=
    r.map fun (key, rest) => (String.ofList key, rest)
  match cs with
  | '"' :: rest => made (takeDouble? (rest.length + 1) rest)
  | '\'' :: rest => made (takeSingle? rest)
  | cs =>
    let key := cs.takeWhile isKeyChar
    if key.isEmpty then none else some (String.ofList key, cs.drop key.length)

/-- A key, its parts joined by points; `fuel` bounds their number. -/
def takeKey? : Nat → List Char → Option (List String × List Char)
  | 0, _ => none
  | fuel + 1, cs =>
    (takeKeyPart? (skipSpaces cs)).bind fun (part, rest) =>
      match skipSpaces rest with
      | '.' :: rest => (takeKey? fuel rest).map fun (parts, rest) => (part :: parts, rest)
      | rest => some ([part], rest)

/-! ## Numbers and words -/

/-- Digits in which single underscores may stand between two others. -/
def plainDigits? (isDigit : Char → Bool) (cs : List Char) : Option (List Char) :=
  let pieces := splitAt '_' cs
  if pieces.all fun piece => !piece.isEmpty && piece.all isDigit then some pieces.flatten else none

/-- The value of digits in a base up to sixteen. -/
def digitsIn? (base : Nat) (digits : List Char) : Option Int :=
  (digits.foldlM (fun n d => (Percent.hexValue? d).bind fun v =>
    if v < base then some (base * n + v) else none) 0).map Int.ofNat

/-- Digits of a decimal number that do not start with a zero too many. -/
def leadDigits? (cs : List Char) : Option (List Char) :=
  (plainDigits? isAsciiDigit cs).bind fun digits =>
    if digits.length > 1 && digits.head? = some '0' then none else some digits

/-- A whole number without sign. -/
def unsigned? : List Char → Option Int
  | '0' :: 'x' :: cs => (plainDigits? (fun c => (Percent.hexValue? c).isSome) cs).bind (digitsIn? 16)
  | '0' :: 'o' :: cs => (plainDigits? isAsciiDigit cs).bind (digitsIn? 8)
  | '0' :: 'b' :: cs => (plainDigits? isAsciiDigit cs).bind (digitsIn? 2)
  | cs => (leadDigits? cs).bind (digitsIn? 10)

/-- A sign and what follows it. -/
def splitSign : List Char → Option Bool × List Char
  | '-' :: rest => (some true, rest)
  | '+' :: rest => (some false, rest)
  | cs => (none, cs)

/-- A whole number of 64 bits.  Only decimal numbers have signs. -/
def readWhole? (cs : List Char) : Option Int :=
  let (sign, body) := splitSign cs
  let value := match sign with
    | none => unsigned? body
    | some negative => ((leadDigits? body).bind (digitsIn? 10)).map fun n =>
      if negative then -n else n
  value.bind fun n => if -(maxInt64 : Int) - 1 ≤ n ∧ n ≤ maxInt64 then some n else none

/-- The digits of a float without underscores: a lead, a fraction or an exponent or both. -/
def plainReal? (body : List Char) : Option (List Char) :=
  let isMark (c : Char) : Bool := c = 'e' || c = 'E'
  let mantissa := body.takeWhile fun c => !isMark c
  let exponent := body.drop mantissa.length
  let fraction : Option (List Char) := match cut? ['.'] mantissa with
    | none => if exponent.isEmpty then none else leadDigits? mantissa
    | some (lead, part) => do
      let lead ← leadDigits? lead
      let part ← plainDigits? isAsciiDigit part
      return lead ++ '.' :: part
  match exponent with
  | [] => fraction
  | _ :: rest => do
    let fraction ← fraction
    let (sign, digits) := splitSign rest
    let digits ← plainDigits? isAsciiDigit digits
    return fraction ++ 'e' :: (if sign = some true then ['-'] else []) ++ digits

/-- A float. -/
def readReal? (cs : List Char) : Option Double :=
  let (sign, body) := splitSign cs
  let signed (x : Double) : Double := if sign = some true then x.neg else x
  if body = ['i', 'n', 'f'] then some (signed (.infinite false))
  else if body = ['n', 'a', 'n'] then some .nan
  else ((plainReal? body).bind Double.read?).map signed

/-- A number or a truth value. -/
def readWord? (cs : List Char) : Option Toml :=
  if cs = ['t', 'r', 'u', 'e'] then some (.bool true)
  else if cs = ['f', 'a', 'l', 's', 'e'] then some (.bool false)
  else ((readWhole? cs).map .whole).or ((readReal? cs).map .real)

/-- Characters of numbers and truth values. -/
def isWordPart (c : Char) : Bool := isKeyChar c || c = '+' || c = '.'

/-! ## Values -/

mutual

/-- The value at the start of a text. -/
def takeValue? : Nat → List Char → Option (Toml × List Char)
  | 0, _ => none
  | fuel + 1, cs =>
    match cs with
    | '"' :: rest =>
      (takeDouble? (rest.length + 1) rest).map fun (cs, rest) => (.text (String.ofList cs), rest)
    | '\'' :: rest => (takeSingle? rest).map fun (cs, rest) => (.text (String.ofList cs), rest)
    | '[' :: rest => (takeItems? fuel rest).map fun (items, rest) => (.list items, rest)
    | '{' :: rest =>
      match skipSpaces rest with
      | '}' :: rest => some (.table .closed [], rest)
      | rest => (takeEntries? fuel [] rest).map fun (entries, rest) => (.table .closed entries, rest)
    | cs =>
      let run := cs.takeWhile isWordPart
      (readWord? run).map (·, cs.drop run.length)

/-- The items of an array up to its closing bracket. -/
def takeItems? : Nat → List Char → Option (List Toml × List Char)
  | 0, _ => none
  | fuel + 1, cs =>
    match skipLines cs.length cs with
    | ']' :: rest => some ([], rest)
    | cs =>
      match takeValue? fuel cs with
      | none => none
      | some (item, rest) =>
        match skipLines rest.length rest with
        | ']' :: rest => some ([item], rest)
        | ',' :: rest => (takeItems? fuel rest).map fun (items, rest) => (item :: items, rest)
        | _ => none

/-- At least one entry of an inline table, up to its closing brace. -/
def takeEntries? : Nat → Entries → List Char → Option (Entries × List Char)
  | 0, _, _ => none
  | fuel + 1, entries, cs =>
    match takeKey? cs.length cs with
    | some (key, '=' :: rest) =>
      match takeValue? fuel (skipSpaces rest) with
      | none => none
      | some (value, rest) =>
        match addKey value key entries, skipSpaces rest with
        | some entries, '}' :: rest => some (entries, rest)
        | some entries, ',' :: rest => takeEntries? fuel entries rest
        | _, _ => none
    | _ => none

end

/-! ## Files -/

/-- The path of a header and its last part. -/
def splitLast? (keys : List String) : Option (List String × String) :=
  keys.getLast?.map fun last => (keys.dropLast, last)

/-- Open the table of a header. -/
def openHeader (opened : String → Entries → Option Entries) (keys : List String) (root : Entries) :
    Option Entries :=
  (splitLast? keys).bind fun (path, last) => changeAt (opened last) path root

/-- The lines of a file, given the tables so far and the path of the one that is open. -/
def readLines? : Nat → Entries → List String → List Char → Option Entries
  | 0, _, _, _ => none
  | fuel + 1, root, current, cs =>
    match skipLines cs.length cs with
    | [] => some root
    | '[' :: '[' :: rest =>
      match takeKey? rest.length rest with
      | some (keys, ']' :: ']' :: rest) => do
        let root ← openHeader openItem keys root
        readLines? fuel root keys (← endLine? rest)
      | _ => none
    | '[' :: rest =>
      match takeKey? rest.length rest with
      | some (keys, ']' :: rest) => do
        let root ← openHeader openTable keys root
        readLines? fuel root keys (← endLine? rest)
      | _ => none
    | cs =>
      match takeKey? cs.length cs with
      | some (keys, '=' :: rest) => do
        let (value, rest) ← takeValue? (2 * rest.length + 2) (skipSpaces rest)
        let root ← changeAt (addKey value keys) current root
        readLines? fuel root current (← endLine? rest)
      | _ => none

/-- The table of a settings file. -/
def read? (s : String) : Option Entries :=
  let cs := match s.toList with
    | '\uFEFF' :: rest => rest
    | cs => cs
  readLines? (cs.length + 1) [] [] cs

end EventSearch.Format.Toml
