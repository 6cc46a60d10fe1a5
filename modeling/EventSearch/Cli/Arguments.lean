/-
# `EventSearch.Cli.Arguments` — the command line

    [-c FILE] [-f FORMAT] COMMAND …

Options are `--name value`, `--name=value`, `-n value`, `-nvalue` or `-n=value`; those of the
whole program may stand before the command or after it.  Behind `--` everything is a plain
argument.  A value that looks like an option must be attached to its own.  Whatever is unknown,
missing, given twice or of a wrong form makes the command line wrong as a whole.
-/
import EventSearch.Number.Whole
import EventSearch.Text.Pieces

namespace EventSearch.Cli

open EventSearch.Text EventSearch.Number

/-! ## Options -/

/-- What values an option takes. -/
inductive ValueKind where
  | text
  /-- A path, which is not empty. -/
  | path
  | size
  deriving DecidableEq

def ValueKind.accepts : ValueKind → String → Bool
  | .text, _ => true
  | .path, s => !s.isEmpty
  | .size, s => (readSize? s.toList).isSome

structure OptionSpec where
  name : String
  letter : Option Char
  kind : ValueKind
  /-- May be given several times. -/
  repeats : Bool
  deriving DecidableEq

/-- Options of the whole program. -/
def programOptions : List OptionSpec :=
  [⟨"config", some 'c', .path, false⟩, ⟨"format", some 'f', .text, false⟩]

/-- A command, its options and its plain arguments. -/
structure CommandSpec where
  name : String
  options : List OptionSpec
  /-- How many plain arguments it needs and how many it takes. -/
  needed : Nat
  taken : Nat

def commands : List CommandSpec :=
  [⟨"search", [⟨"mode", some 'm', .text, false⟩, ⟨"group-by", some 'g', .text, true⟩,
      ⟨"last", some 'l', .text, false⟩, ⟨"page", none, .size, false⟩, ⟨"rows", none, .size, false⟩,
      ⟨"sort", none, .text, false⟩, ⟨"dataset", none, .path, false⟩,
      ⟨"link-base", none, .text, false⟩], 0, 1⟩,
    ⟨"parse", [⟨"mode", some 'm', .text, false⟩], 1, 1⟩,
    ⟨"fields", [⟨"dataset", none, .path, false⟩], 0, 0⟩,
    ⟨"init-config", [⟨"output", some 'o', .path, false⟩], 0, 0⟩]

/-! ## Reading -/

/-- Why reading ends before the end of the line. -/
inductive Stop where
  | wrong
  | help
  | version
  deriving DecidableEq

/-- What was read: option values and plain arguments in order. -/
structure Reading where
  values : List (String × String)
  plain : List String
  deriving DecidableEq

/-- What one level of the command line may hold. -/
structure Level where
  options : List OptionSpec
  /-- The most plain arguments. -/
  taken : Nat
  /-- Names that end the level. -/
  commands : List String
  hasVersion : Bool

namespace Level

/-- A reading with a value of an option. -/
def addValue (o : OptionSpec) (value : String) (r : Reading) : Except Stop Reading :=
  if !o.kind.accepts value then .error .wrong
  else if !o.repeats && r.values.any (·.1 = o.name) then .error .wrong
  else .ok { r with values := r.values ++ [(o.name, value)] }

/-- A reading with a plain argument. -/
def addPlain (l : Level) (value : String) (r : Reading) : Except Stop Reading :=
  if r.plain.length < l.taken then .ok { r with plain := r.plain ++ [value] } else .error .wrong

/-- What an argument is. -/
inductive Shape where
  /-- `--` -/
  | divider
  /-- An option and its attached value, if there is one. -/
  | option (o : OptionSpec) (value : Option String)
  | stop (s : Stop)
  | plain
  deriving DecidableEq

/-- An option by its long name. -/
def longShape (l : Level) (body : List Char) : Shape :=
  let name := String.ofList (body.takeWhile (· ≠ '='))
  let value := match body.dropWhile (· ≠ '=') with
    | _ :: value => some (String.ofList value)
    | [] => none
  if name = "help" && value.isNone then .stop .help
  else if name = "version" && l.hasVersion && value.isNone then .stop .version
  else match l.options.find? (·.name = name) with
    | some o => .option o value
    | none => .stop .wrong

/-- An option by its letter, and what follows the letter. -/
def letterShape (l : Level) (letter : Char) (rest : List Char) : Shape :=
  if letter = 'h' then .stop .help
  else if letter = 'V' && l.hasVersion then .stop .version
  else match l.options.find? (·.letter = some letter), rest with
    | none, _ => .stop .wrong
    | some o, [] => .option o none
    | some o, '=' :: value => .option o (some (String.ofList value))
    | some o, value => .option o (some (String.ofList value))

def shape (l : Level) (argument : String) : Shape :=
  match argument.toList with
  | ['-', '-'] => .divider
  | '-' :: '-' :: body => l.longShape body
  | '-' :: letter :: rest => l.letterShape letter rest
  | _ => .plain

/-- All plain arguments behind a divider. -/
def readPlain (l : Level) (r : Reading) : List String → Except Stop Reading
  | [] => .ok r
  | a :: as =>
    match l.addPlain a r with
    | .error s => .error s
    | .ok r => readPlain l r as

/-- The rest of a level, and the name that ends it with what follows.  `waiting` is an option
whose value comes next. -/
def read (l : Level) (waiting : Option OptionSpec) (r : Reading) :
    List String → Except Stop (Reading × Option (String × List String))
  | [] => if waiting.isSome then .error .wrong else .ok (r, none)
  | a :: as =>
    match waiting, l.shape a with
    | some o, .plain =>
      match addValue o a r with
      | .error s => .error s
      | .ok r => read l none r as
    | some _, _ => .error .wrong
    | none, .plain =>
      if l.commands.contains a then .ok (r, some (a, as))
      else match l.addPlain a r with
        | .error s => .error s
        | .ok r => read l none r as
    | none, .divider => (readPlain l r as).map (·, none)
    | none, .stop s => .error s
    | none, .option o none => read l (some o) r as
    | none, .option o (some value) =>
      match addValue o value r with
      | .error s => .error s
      | .ok r => read l none r as

end Level

/-! ## Commands -/

/-- What a search is asked to do. -/
structure SearchOptions where
  query : String
  mode : Option String
  groupby : List String
  last : Option String
  page : Nat
  rows : Option Nat
  sort : Option String
  dataset : Option String
  linkBase : String
  deriving DecidableEq

inductive Command where
  | search (o : SearchOptions)
  | parse (query : String) (mode : Option String)
  | fields (dataset : Option String)
  | initConfig (output : Option String)
  deriving DecidableEq

/-- A command line that is right. -/
structure Invocation where
  config : Option String
  format : String
  command : Command
  deriving DecidableEq

namespace Reading

/-- The last value of an option. -/
def value? (r : Reading) (name : String) : Option String :=
  (r.values.reverse.find? (·.1 = name)).map (·.2)

/-- All values of an option, taken apart at commas. -/
def parts (r : Reading) (name : String) : List String :=
  (r.values.filter (·.1 = name)).flatMap fun v =>
    (splitAt ',' v.2.toList).map String.ofList

def size? (r : Reading) (name : String) : Option Nat :=
  (r.value? name).bind fun s => readSize? s.toList

/-- The command of a name with what was read for it. -/
def command? (r : Reading) (name : String) : Option Command :=
  let first := r.plain.head?.getD ""
  match name with
  | "search" => some (.search
      ⟨first, r.value? "mode", r.parts "group-by", r.value? "last", (r.size? "page").getD 1,
        r.size? "rows", r.value? "sort", r.value? "dataset", (r.value? "link-base").getD "/search"⟩)
  | "parse" => some (.parse first (r.value? "mode"))
  | "fields" => some (.fields (r.value? "dataset"))
  | "init-config" => some (.initConfig (r.value? "output"))
  | _ => none

end Reading

/-- Read a command and its arguments; `outer` is what stood before it. -/
def readCommand (outer : Reading) (name : String) (arguments : List String) :
    Except Stop Invocation :=
  match commands.find? (·.name = name) with
  | none => .error .help
  | some spec =>
    let level : Level := ⟨programOptions ++ spec.options, spec.taken, [], false⟩
    match level.read none ⟨[], []⟩ arguments with
    | .error s => .error s
    | .ok (r, _) =>
      if r.plain.length < spec.needed then .error .wrong
      else match r.command? name with
        | none => .error .wrong
        | some command =>
          .ok ⟨(r.value? "config").or (outer.value? "config"),
            ((r.value? "format").or (outer.value? "format")).getD "table", command⟩

/-- Read a command line. -/
def readArguments (arguments : List String) : Except Stop Invocation :=
  let level : Level := ⟨programOptions, 0, "help" :: commands.map (·.name), true⟩
  match level.read none ⟨[], []⟩ arguments with
  | .error s => .error s
  | .ok (_, none) => .error .wrong
  | .ok (outer, some (name, rest)) => readCommand outer name rest

end EventSearch.Cli
