/-
# `EventSearch.Query.CriterionTree` — queries of the `criterion` language

    expr     := and_expr ("||" and_expr)*
    and_expr := primary ("&&" primary)*
    primary  := "(" expr ")" | "!" path | path op value | path
    op       := == = != <> !<> <>* !<>* ~ !~ ~* !~* > >= < <=
    value    := "..." | '...' | bare

`&&` binds tighter than `||`.  A path alone tests that it is present, `!path` that it is absent.
Reading fails only at the start of a query; whatever follows a part that can be read is left over
and reported.
-/
import EventSearch.Query.LuceneGrammar
import EventSearch.Text.Escaped

namespace EventSearch.Query

open EventSearch.Text

/-- A query. -/
inductive CriterionTree where
  /-- A test of a path; without a value, a test of its presence. -/
  | compare (path operator : String) (value : Option String)
  | and (left right : CriterionTree)
  | or (left right : CriterionTree)
  deriving DecidableEq

namespace CriterionTree

/-! ## Paths, operators and values -/

/-- Characters of a path segment after its first. -/
def isSegmentChar (c : Char) : Bool := isAsciiLetter c || isAsciiDigit c || c = '_' || c = '-'

/-- An index in parentheses: any text without parentheses. -/
def takeIndex (cs : List Char) : List Char × List Char :=
  match cs with
  | '(' :: rest =>
    let index := rest.takeWhile fun c => c ≠ '(' && c ≠ ')'
    match rest.drop index.length with
    | ')' :: after => ('(' :: index ++ [')'], after)
    | _ => ([], cs)
  | _ => ([], cs)

/-- A segment: a letter or underscore, more of a name, and an index or none. -/
def takeSegment? : List Char → Option (List Char × List Char)
  | [] => none
  | c :: rest =>
    if isAsciiLetter c || c = '_' then
      let (index, after) := takeIndex (rest.dropWhile isSegmentChar)
      some (c :: rest.takeWhile isSegmentChar ++ index, after)
    else none

/-- Further segments, each after a point; `fuel` bounds their number. -/
def takeSegments : Nat → List Char → List Char × List Char
  | fuel + 1, '.' :: cs =>
    match takeSegment? cs with
    | none => ([], '.' :: cs)
    | some (segment, rest) =>
      let (segments, rest) := takeSegments fuel rest
      ('.' :: segment ++ segments, rest)
  | _, cs => ([], cs)

/-- A dotted path. -/
def takePath? (cs : List Char) : Option (List Char × List Char) :=
  (takeSegment? cs).map fun (segment, rest) =>
    let (segments, rest) := takeSegments rest.length rest
    (segment ++ segments, rest)

/-- The operators; one that begins another comes after it. -/
def operators : List String :=
  ["!<>*", "!<>", "<>*", "<>", "!~*", "!~", "~*", "~", "==", "!=", ">=", "<=", "=", ">", "<"]

/-- The first operator of the list that the text starts with. -/
def takeOperator? (cs : List Char) : Option (String × List Char) :=
  operators.findSome? fun op => (after? op.toList cs).map (op, ·)

/-- The rest of a quoted text up to its closing mark; a backslash protects the mark and itself. -/
def takeQuoted? (mark : Char) : List Char → Option (List Char × List Char)
  | [] => none
  | '\\' :: c :: rest =>
    if c = mark ∨ c = '\\' then (takeQuoted? mark rest).map fun (text, after) => (c :: text, after)
    else (takeQuoted? mark (c :: rest)).map fun (text, after) => ('\\' :: text, after)
  | c :: rest =>
    if c = mark then some ([], rest)
    else (takeQuoted? mark rest).map fun (text, after) => (c :: text, after)

/-- Characters that a bare value cannot hold. -/
def valueMarks : List Char := ['(', ')', '&', '|', '"', '\'']

def isValueChar (c : Char) : Bool := !isBlank c && !valueMarks.contains c

/-- A value. -/
def takeValue? : List Char → Option (List Char × List Char)
  | [] => none
  | c :: rest =>
    if c = '"' ∨ c = '\'' then takeQuoted? c rest
    else
      let value := (c :: rest).takeWhile isValueChar
      if value.isEmpty then none else some (value, (c :: rest).dropWhile isValueChar)

/-! ## Expressions -/

/-- A test of the absence of a path. -/
def takeAbsent? : List Char → Option (CriterionTree × List Char)
  | '!' :: rest => (takePath? (skipLayout rest)).map fun (path, rest) =>
      (.compare (String.ofList path) "!=" none, rest)
  | _ => none

/-- A comparison of a path with a value. -/
def takeComparison? (cs : List Char) : Option (CriterionTree × List Char) := do
  let (path, cs) ← takePath? cs
  let (op, cs) ← takeOperator? (skipLayout cs)
  let (value, cs) ← takeValue? (skipLayout cs)
  return (.compare (String.ofList path) op (some (String.ofList value)), cs)

/-- A test of the presence of a path. -/
def takePresent? (cs : List Char) : Option (CriterionTree × List Char) :=
  (takePath? cs).map fun (path, rest) => (.compare (String.ofList path) "==" none, rest)

/-- A test of one path. -/
def takeTest? (cs : List Char) : Option (CriterionTree × List Char) :=
  (takeAbsent? cs).or <| (takeComparison? cs).or <| takePresent? cs

mutual

/-- Alternatives. -/
def takeOr? : Nat → List Char → Option (CriterionTree × List Char)
  | 0, _ => none
  | fuel + 1, cs => (takeAnd? fuel cs).map fun (first, rest) => takeOrChain fuel first rest

/-- Further alternatives. -/
def takeOrChain : Nat → CriterionTree → List Char → CriterionTree × List Char
  | 0, tree, cs => (tree, cs)
  | fuel + 1, tree, cs =>
    match (LuceneTree.takeSymbol? ['|', '|'] cs).bind (takeAnd? fuel) with
    | none => (tree, cs)
    | some (right, rest) => takeOrChain fuel (.or tree right) rest

/-- Tests that must all hold. -/
def takeAnd? : Nat → List Char → Option (CriterionTree × List Char)
  | 0, _ => none
  | fuel + 1, cs => (takePrimary? fuel cs).map fun (first, rest) => takeAndChain fuel first rest

/-- Further tests. -/
def takeAndChain : Nat → CriterionTree → List Char → CriterionTree × List Char
  | 0, tree, cs => (tree, cs)
  | fuel + 1, tree, cs =>
    match (LuceneTree.takeSymbol? ['&', '&'] cs).bind (takePrimary? fuel) with
    | none => (tree, cs)
    | some (right, rest) => takeAndChain fuel (.and tree right) rest

/-- An expression in parentheses, or a test. -/
def takePrimary? : Nat → List Char → Option (CriterionTree × List Char)
  | fuel + 1, '(' :: cs =>
    match takeOr? fuel (skipLayout cs) with
    | none => none
    | some (inner, rest) =>
      match skipLayout rest with
      | ')' :: after => some (inner, after)
      | _ => none
  | _, cs => takeTest? cs

end

/-- Enough for every text of this length: at most four steps down to a character. -/
def fuelFor (cs : List Char) : Nat := 4 * cs.length + 4

/-- The tree of a query, or the part of the query that could not be read. -/
def read (s : String) : Except String CriterionTree :=
  let query := trim s.toList
  match takeOr? (fuelFor query) query with
  | none => .error (String.ofList query)
  | some (tree, rest) => if allBlank rest then .ok tree else .error (String.ofList (trim rest))

/-! ## Text -/

/-- The tree written out with the name of each part. -/
def outline : CriterionTree → String
  | .compare path operator value =>
    let value := match value with
      | none => "None"
      | some v => "Some(" ++ escaped v ++ ")"
    "Compare \x7b path: " ++ escaped path ++ ", operator: " ++ escaped operator ++
      ", value: " ++ value ++ " \x7d"
  | .and left right => "And(" ++ left.outline ++ ", " ++ right.outline ++ ")"
  | .or left right => "Or(" ++ left.outline ++ ", " ++ right.outline ++ ")"

end CriterionTree

end EventSearch.Query
