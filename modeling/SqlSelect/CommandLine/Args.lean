import SqlSelect.Dialect
/-!
# Arguments of the command line

There are two commands: one renders a query document, the other lists the configured entities. A
configuration file can be named before the command or behind it; the latter counts if both are
there. Options have a long and a short name, and their value is the next argument or is joined to
the name.
-/

namespace SqlSelect.CommandLine

/-- The layout of a rendered query. -/
inductive Output
  | sql
  | json
  deriving DecidableEq, Inhabited, Repr

/-- What is to be done. -/
inductive Command
  | render (file : String) (dialect : Option BaseDialect) (output : Output)
  | entities
  deriving DecidableEq, Inhabited, Repr

/-- What a list of arguments asks for. -/
inductive Request
  | version
  | run (config : Option String) (command : Command)
  deriving DecidableEq, Inhabited, Repr

/-! ## 1. Options -/

/-- An option with a value. -/
inductive Flag
  | config
  | dialect
  | output
  deriving DecidableEq, Inhabited, Repr

/-- The long name of an option. -/
def Flag.long : Flag → String
  | config => "config"
  | dialect => "dialect"
  | output => "output"

/-- The short name of an option. -/
def Flag.short : Flag → Char
  | config => 'c'
  | dialect => 'd'
  | output => 'o'

/-- What one argument is. -/
inductive Shape
  /-- Everything behind it is a value of its own. -/
  | terminator
  /-- An option whose value is the next argument. -/
  | separate (flag : Flag)
  /-- An option with its value. -/
  | joined (flag : Flag) (value : String)
  | version
  | plain (text : String)
  | unknown
  deriving DecidableEq, Repr

/-- What an argument is where the given options may stand. -/
def shape (flags : List Flag) (arg : String) : Shape :=
  match arg.toList with
  | ['-', '-'] => .terminator
  | '-' :: '-' :: rest =>
    let name := String.ofList (rest.takeWhile (· ≠ '='))
    match flags.find? (·.long = name), rest.dropWhile (· ≠ '=') with
    | some flag, [] => .separate flag
    | some flag, _ :: value => .joined flag (.ofList value)
    | none, [] => if name = "version" then .version else .unknown
    | none, _ => .unknown
  | '-' :: letter :: rest =>
    match flags.find? (·.short = letter), rest with
    | some flag, [] => .separate flag
    | some flag, '=' :: value => .joined flag (.ofList value)
    | some flag, value => .joined flag (.ofList value)
    | none, _ => if letter = 'V' then .version else .unknown
  | _ => .plain arg

/-- The argument can be the value of the option before it. -/
def isValue (arg : String) : Bool :=
  match arg.toList with
  | '-' :: _ :: _ => false
  | _ => true

/-! ## 2. Behind the command -/

/-- What has been read behind the command. -/
structure Given where
  config : Option String := none
  dialect : Option String := none
  output : Option String := none
  files : List String := []
  deriving Inhabited, Repr

/-- Notes the value of an option; an option is given once at most. -/
def Given.note? (g : Given) (flag : Flag) (value : String) : Option Given :=
  match flag with
  | .config =>
    if g.config.isSome || value.isEmpty then none else some { g with config := some value }
  | .dialect => if g.dialect.isSome then none else some { g with dialect := some value }
  | .output => if g.output.isSome then none else some { g with output := some value }

/-- Reads what stands behind the command. -/
def given? (flags : List Flag) (g : Given) : List String → Option Given
  | [] => some g
  | arg :: rest =>
    match shape flags arg with
    | .terminator => some { g with files := g.files ++ rest }
    | .joined flag value => do given? flags (← g.note? flag value) rest
    | .separate flag =>
      match rest with
      | value :: rest =>
        if isValue value then do given? flags (← g.note? flag value) rest else none
      | [] => none
    | .plain file => given? flags { g with files := g.files ++ [file] } rest
    | .version | .unknown => none

/-- The dialect of a name, exactly as it is written. -/
def dialect? (name : String) : Option BaseDialect :=
  [BaseDialect.mysql, .postgres, .sqlite].find? (·.name = name)

/-- The layout of a name. -/
def output? : String → Option Output
  | "sql" => some .sql
  | "json" => some .json
  | _ => none

/-- A name that may be missing. -/
def lift? {α : Type} (read : String → Option α) : Option String → Option (Option α)
  | none => some none
  | some name => (read name).map some

/-- The command that renders a document. -/
def render? (config : Option String) (args : List String) : Option Request := do
  let g ← given? [.config, .dialect, .output] {} args
  match g.files with
  | [file] =>
    if file.isEmpty then none
    else some (.run (g.config <|> config)
      (.render file (← lift? dialect? g.dialect) ((← lift? output? g.output).getD .sql)))
  | _ => none

/-- The command that lists entities. -/
def entities? (config : Option String) (args : List String) : Option Request := do
  let g ← given? [.config] {} args
  if g.files.isEmpty then some (.run (g.config <|> config) .entities) else none

/-! ## 3. Up to the command -/

/-- Goes on behind a configuration file that was named. -/
def named? (config : Option String) (file : String) : Option (Option String) :=
  if config.isSome || file.isEmpty then none else some (some file)

/-- Reads arguments; `config` is the configuration file named so far. `none` if they make no
sense. -/
def requestFrom? (config : Option String) : List String → Option Request
  | [] => none
  | arg :: rest =>
    match shape [.config] arg with
    | .version => some .version
    | .joined _ file => do requestFrom? (← named? config file) rest
    | .separate _ =>
      match rest with
      | file :: rest =>
        if isValue file then do requestFrom? (← named? config file) rest else none
      | [] => none
    | .plain "render" => render? config rest
    | .plain "entities" => entities? config rest
    | .plain _ | .terminator | .unknown => none

/-- What a list of arguments asks for, `none` if it makes no sense. -/
def request? (args : List String) : Option Request := requestFrom? none args

end SqlSelect.CommandLine
