/-
# `EventSearch.Format.JsonReading` — reading JSON documents

Members of an object are put in the order of their keys, and of several members with one key the
last counts.  Blanks are space, tab, carriage return and line feed.  Documents nested more than
127 deep are refused.
-/
import EventSearch.Format.JsonNumber
import EventSearch.Text.Blank
import EventSearch.Text.Percent

namespace EventSearch.Format.Json

open EventSearch.Text

/-! ## Texts -/

/-- The value of four hexadecimal digits. -/
def takeHex4? : List Char → Option (Nat × List Char)
  | a :: b :: c :: d :: rest => do
    let a ← Percent.hexValue? a
    let b ← Percent.hexValue? b
    let c ← Percent.hexValue? c
    let d ← Percent.hexValue? d
    return (4096 * a + 256 * b + 16 * c + d, rest)
  | _ => none

/-- The character of two halves that stand for it together. -/
def joinHalves? (high : Nat) : List Char → Option (Char × List Char)
  | '\\' :: 'u' :: rest =>
    (takeHex4? rest).bind fun (low, rest) =>
      if 0xDC00 ≤ low ∧ low ≤ 0xDFFF then
        some (Char.ofNat (0x10000 + (high - 0xD800) * 1024 + (low - 0xDC00)), rest)
      else none
  | _ => none

/-- The character of an escape, given what follows the backslash. -/
def takeEscape? : List Char → Option (Char × List Char)
  | '"' :: rest => some ('"', rest)
  | '\\' :: rest => some ('\\', rest)
  | '/' :: rest => some ('/', rest)
  | 'b' :: rest => some ('\x08', rest)
  | 'f' :: rest => some ('\x0C', rest)
  | 'n' :: rest => some ('\n', rest)
  | 'r' :: rest => some ('\r', rest)
  | 't' :: rest => some ('\t', rest)
  | 'u' :: rest =>
    (takeHex4? rest).bind fun (n, rest) =>
      if 0xD800 ≤ n ∧ n ≤ 0xDBFF then joinHalves? n rest
      else if 0xDC00 ≤ n ∧ n ≤ 0xDFFF then none
      else some (Char.ofNat n, rest)
  | _ => none

/-- The rest of a text behind its opening quote; `fuel` bounds its length. -/
def takeText? : Nat → List Char → Option (List Char × List Char)
  | 0, _ => none
  | _ + 1, [] => none
  | _ + 1, '"' :: rest => some ([], rest)
  | fuel + 1, '\\' :: rest =>
    (takeEscape? rest).bind fun (c, rest) =>
      (takeText? fuel rest).map fun (cs, rest) => (c :: cs, rest)
  | fuel + 1, c :: rest =>
    if c.toNat < 0x20 then none
    else (takeText? fuel rest).map fun (cs, rest) => (c :: cs, rest)

/-! ## Objects -/

/-- Members in the order of their keys with one set. -/
def setMember (key : String) (value : Json) : List (String × Json) → List (String × Json)
  | [] => [(key, value)]
  | (k, v) :: members =>
    if key = k then (key, value) :: members
    else if key < k then (key, value) :: (k, v) :: members
    else (k, v) :: setMember key value members

/-- The key of a member, its colon included. -/
def takeKey? : List Char → Option (String × List Char)
  | '"' :: rest =>
    (takeText? (rest.length + 1) rest).bind fun (key, rest) =>
      match skipLayout rest with
      | ':' :: rest => some (String.ofList key, rest)
      | _ => none
  | _ => none

/-! ## Values -/

/-- The deepest nesting. -/
def maxDepth : Nat := 127

mutual

/-- The value at the start of a text, inside which some levels of nesting are allowed. -/
def takeValue? : Nat → Nat → List Char → Option (Json × List Char)
  | 0, _, _ => none
  | fuel + 1, depth, cs =>
    match skipLayout cs with
    | 'n' :: 'u' :: 'l' :: 'l' :: rest => some (.null, rest)
    | 't' :: 'r' :: 'u' :: 'e' :: rest => some (.bool true, rest)
    | 'f' :: 'a' :: 'l' :: 's' :: 'e' :: rest => some (.bool false, rest)
    | '"' :: rest =>
      (takeText? (rest.length + 1) rest).map fun (cs, rest) => (.text (String.ofList cs), rest)
    | '[' :: rest =>
      if depth = 0 then none
      else match skipLayout rest with
        | ']' :: rest => some (.list [], rest)
        | rest => (takeItems? fuel (depth - 1) rest).map fun (items, rest) => (.list items, rest)
    | '{' :: rest =>
      if depth = 0 then none
      else match skipLayout rest with
        | '}' :: rest => some (.object [], rest)
        | rest => (takeMembers? fuel (depth - 1) [] rest).map fun (members, rest) =>
          (.object members, rest)
    | rest => takeNumber? rest

/-- At least one item, up to the closing bracket. -/
def takeItems? : Nat → Nat → List Char → Option (List Json × List Char)
  | 0, _, _ => none
  | fuel + 1, depth, cs =>
    match takeValue? fuel depth cs with
    | none => none
    | some (item, rest) =>
      match skipLayout rest with
      | ']' :: rest => some ([item], rest)
      | ',' :: rest => (takeItems? fuel depth rest).map fun (items, rest) => (item :: items, rest)
      | _ => none

/-- At least one member, up to the closing brace. -/
def takeMembers? : Nat → Nat → List (String × Json) → List Char →
    Option (List (String × Json) × List Char)
  | 0, _, _, _ => none
  | fuel + 1, depth, members, cs =>
    match takeKey? (skipLayout cs) with
    | none => none
    | some (key, rest) =>
      match takeValue? fuel depth rest with
      | none => none
      | some (value, rest) =>
        let members := setMember key value members
        match skipLayout rest with
        | '}' :: rest => some (members, rest)
        | ',' :: rest => takeMembers? fuel depth members rest
        | _ => none

end

/-- The document of a text. -/
def read? (cs : List Char) : Option Json :=
  match takeValue? (2 * cs.length + 2) maxDepth cs with
  | some (value, rest) => if (skipLayout rest).isEmpty then some value else none
  | none => none

end EventSearch.Format.Json
