/-
# `EventSearch.Pattern.Property` — properties of characters by name

A property is a general category, alone or as one of its groups, a script, or one of those that a
character has or has not.  Where its kind is named as well, with `=`, `:` or `!=` before the value,
it may also be the age of a character, the scripts that use it, or a class by which text is divided.

In a name neither case nor blanks, hyphens, underscores and characters beyond ASCII count, and `is`
may stand right at its start.  Properties that follow from others are put together here from the
tables.
-/
import EventSearch.Pattern.Property.Age
import EventSearch.Pattern.Property.Binary
import EventSearch.Pattern.Property.Break
import EventSearch.Pattern.Property.Category
import EventSearch.Pattern.Property.Script
import EventSearch.Pattern.Property.ScriptUse
import EventSearch.Text.CharClass

namespace EventSearch.Pattern

open EventSearch.Text

namespace Property

/-! ## General categories -/

/-- The union of some entries of a table. -/
def unionOf (entries : List NamedSet) (names : List String) : CharSet :=
  .all (names.filterMap (NamedSet.find? entries))

def letter : CharSet := unionOf categories ["lu", "ll", "lt", "lm", "lo"]

def mark : CharSet := unionOf categories ["mn", "mc", "me"]

def number : CharSet := unionOf categories ["nd", "nl", "no"]

def punctuation : CharSet := unionOf categories ["pc", "pd", "ps", "pe", "pi", "pf", "po"]

def symbol : CharSet := unionOf categories ["sm", "sc", "sk", "so"]

def separator : CharSet := unionOf categories ["zs", "zl", "zp"]

/-- Letters in upper, lower or title case. -/
def casedLetter : CharSet := unionOf categories ["lu", "ll", "lt"]

/-- Everything but controls, formats, code points for private use and those without a character. -/
def visible : CharSet := .all [letter, mark, number, punctuation, symbol, separator]

/-- Code points with a character, or for private use. -/
def assigned : CharSet := visible.union (unionOf categories ["cc", "cf", "co"])

/-- The groups of categories. -/
def categoryGroup? (name : String) : Option CharSet :=
  match name with
  | "l" | "letter" => some letter
  | "lc" | "casedletter" => some casedLetter
  | "m" | "mark" | "combiningmark" => some mark
  | "n" | "number" => some number
  | "p" | "punct" | "punctuation" => some punctuation
  | "s" | "symbol" => some symbol
  | "z" | "separator" => some separator
  | "c" | "other" => some visible.compl
  | "cn" | "unassigned" => some assigned.compl
  | "any" => some .everything
  | "assigned" => some assigned
  | "ascii" => some (.range 0 0x7F)
  | _ => none

/-- A general category or a group of them. -/
def category? (name : String) : Option CharSet :=
  (NamedSet.find? categories name).or (categoryGroup? name)

/-! ## Properties without values -/

def binary (name : String) : CharSet := unionOf binaries [name]

def lowercase : CharSet := (unionOf categories ["ll"]).union (binary "olower")

def uppercase : CharSet := (unionOf categories ["lu"]).union (binary "oupper")

/-- Letters in either case, and in title case. -/
def cased : CharSet := .all [lowercase, uppercase, unionOf categories ["lt"]]

/-- Letters, and the signs that belong to them. -/
def alphabetic : CharSet :=
  .all [lowercase, uppercase, unionOf categories ["lt", "lm", "lo", "nl"], binary "oalpha"]

/-- Skipped when a word is searched for cased letters. -/
def caseIgnorable : CharSet :=
  (unionOf categories ["mn", "me", "cf", "lm", "sk"]).union (unionOf wordBreaks ["ml", "mb", "sq"])

/-- What patterns are written with. -/
def patternSyntax : CharSet := (binary "patsyn").union (binary "patws")

/-- What names begin with. -/
def nameStart : CharSet :=
  (CharSet.all [letter, unionOf categories ["nl"], binary "oids"]).diff patternSyntax

/-- What names go on with. -/
def nameContinue : CharSet :=
  (CharSet.all [nameStart, unionOf categories ["mn", "mc", "nd", "pc"], binary "oidc"]).diff
    patternSyntax

/-- Characters whose compatible forms hold characters that names may not go on with. -/
def unstable : CharSet := .ofLines ["37A 309B-309C FC5E-FC63 FDFA-FDFB FE70-FE7E/2"]

/-- Characters whose compatible forms may not begin a name. -/
def unstableStart : CharSet := unstable.union (.ofLines ["E33 EB3 FF9E-FF9F"])

/-- Characters that extend the one before them. -/
def extender : CharSet := (unionOf categories ["me", "mn"]).union (binary "ogrext")

/-- Characters that stand for themselves in a text. -/
def base : CharSet :=
  assigned.diff (.all [unionOf categories ["cc", "cf", "co", "zl", "zp"], extender])

/-- Characters that show nothing where they are not known. -/
def defaultIgnorable : CharSet :=
  (CharSet.all [binary "odi", unionOf categories ["cf"], binary "vs"]).diff
    (.all [binary "space", .ofLines ["FFF9-FFFB 13430-13440"], binary "pcm"])

/-- What boundaries of words are told by: letters, marks, digits, connectors and joiners. -/
def word : CharSet := .all [alphabetic, mark, unionOf categories ["nd", "pc"], binary "joinc"]

/-- Decimal digits of any script. -/
def digit : CharSet := unionOf categories ["nd"]

/-- Characters that show nothing but space. -/
def blank : CharSet := binary "space"

/-- Properties that follow from others. -/
def derived? (name : String) : Option CharSet :=
  match name with
  | "alpha" | "alphabetic" => some alphabetic
  | "cased" => some cased
  | "ci" | "caseignorable" => some caseIgnorable
  | "cwcm" | "changeswhencasemapped" => some (unionOf binaries ["cwl", "cwt", "cwu"])
  | "di" | "defaultignorablecodepoint" => some defaultIgnorable
  | "grbase" | "graphemebase" => some base
  | "grext" | "graphemeextend" => some extender
  | "idc" | "idcontinue" => some nameContinue
  | "ids" | "idstart" => some nameStart
  | "lower" | "lowercase" => some lowercase
  | "math" => some ((unionOf categories ["sm"]).union (binary "omath"))
  | "upper" | "uppercase" => some uppercase
  | "xidc" | "xidcontinue" => some (nameContinue.diff unstable)
  | "xids" | "xidstart" => some (nameStart.diff unstableStart)
  | _ => none

/-- A property that a character has or has not. -/
def binary? (name : String) : Option CharSet :=
  (NamedSet.find? binaries name).or (derived? name)

/-! ## Ages and scripts -/

/-- The characters of a version of Unicode and of those before it. -/
def age? (name : String) : Option CharSet :=
  let older := ages.takeWhile fun e => !e.names.contains name
  (NamedSet.find? ages name).map fun newest => .all (newest :: older.map fun e => .ofLines e.table)

def script? (name : String) : Option CharSet := NamedSet.find? scripts name

/-- The characters that a script uses. -/
def scriptUse? (name : String) : Option CharSet :=
  (NamedSet.find? scriptUses name).or (script? name)

/-! ## Divisions of text -/

def graphemeBreak? (name : String) : Option CharSet :=
  match name with
  | "ex" | "extend" => some (extender.union (binary "emod"))
  | "lvt" => some ((CharSet.range 0xAC00 0xD7A3).diff (unionOf graphemeBreaks ["lv"]))
  | _ => NamedSet.find? graphemeBreaks name

/-- Marks and joiners: characters that belong to the sentence of the one before them. -/
def sentenceExtender : CharSet :=
  .all [extender, unionOf categories ["mc"], .range 0x200D 0x200D]

def wordBreak? (name : String) : Option CharSet :=
  match name with
  | "extend" => some ((sentenceExtender.union (binary "emod")).diff (.range 0x200D 0x200D))
  | _ => NamedSet.find? wordBreaks name

/-- Lower case for sentences: without marks, and without letters that have no upper case in running
text. -/
def sentenceLower : CharSet := lowercase.diff (extender.union (.ofLines ["10D0-10FA 10FD-10FF"]))

/-- Upper case for sentences: the capitals among them that running text does not use left out. -/
def sentenceUpper : CharSet :=
  (uppercase.union (unionOf categories ["lt"])).diff (.ofLines ["1C90-1CBA 1CBD-1CBF"])

def sentenceBreak? (name : String) : Option CharSet :=
  match name with
  | "lo" | "lower" => some sentenceLower
  | "up" | "upper" => some sentenceUpper
  | "le" | "oletter" =>
    some ((alphabetic.union (.range 0x5F3 0x5F3)).diff
      (.all [sentenceLower, sentenceUpper, sentenceExtender]))
  | "ex" | "extend" => some sentenceExtender
  | "st" | "sterm" => some ((binary "sterm").diff (unionOf sentenceBreaks ["at"]))
  | _ => NamedSet.find? sentenceBreaks name

/-! ## Names -/

/-- What counts of a name. -/
def keyLetters (name : List Char) : List Char :=
  (name.filter fun c => c.toNat < 0x80 && c ≠ ' ' && c ≠ '_' && c ≠ '-').map fun c =>
    if isAsciiUpper c then Char.ofNat (c.toNat + 32) else c

/-- The name that a property is looked up by.  `isc` is a name of its own. -/
def key (name : List Char) : String :=
  match name with
  | i :: s :: rest =>
    if (i = 'i' ∨ i = 'I') ∧ (s = 's' ∨ s = 'S') then
      if keyLetters rest = ['c'] then "isc" else String.ofList (keyLetters rest)
    else String.ofList (keyLetters name)
  | _ => String.ofList (keyLetters name)

/-- A property by its name alone. -/
def named? (name : String) : Option CharSet :=
  ((binary? name).or (category? name)).or (script? name)

/-- A property whose kind is named. -/
def valued? (kind value : String) : Option CharSet :=
  match kind with
  | "gc" | "generalcategory" => category? value
  | "sc" | "script" => script? value
  | "scx" | "scriptextensions" => scriptUse? value
  | "age" => age? value
  | "gcb" | "graphemeclusterbreak" => graphemeBreak? value
  | "wb" | "wordbreak" => wordBreak? value
  | "sb" | "sentencebreak" => sentenceBreak? value
  | _ => none

/-- The characters with a property, and whether the name asks for the others instead. -/
def read? (name : List Char) : Option (Bool × CharSet) :=
  match cut? ['!', '='] name, cut? [':'] name, cut? ['='] name with
  | some (kind, value), _, _ => (valued? (key kind) (key value)).map (true, ·)
  | none, some (kind, value), _ | none, none, some (kind, value) =>
    (valued? (key kind) (key value)).map (false, ·)
  | none, none, none => (named? (key name)).map (false, ·)

end Property

end EventSearch.Pattern
