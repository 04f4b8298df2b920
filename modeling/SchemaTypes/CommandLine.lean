import SchemaTypes.Text.Cut

/-! The command line. One command, `generate`, takes a connection string and options; `--log-json`
may stand before it as well. An option takes its value from the same argument (`--output=x`, `-ox`)
or from the next one that does not look like an option, and may be given once unless it is a list.
After `--` every argument is a connection string. -/
namespace SchemaTypes.CommandLine

structure Arguments where
  logJson : Bool := false
  conn : Option String := none
  connPositional : Option String := none
  config : Option String := none
  output : Option String := none
  schema : List String := []
  exclude : List String := []
  prefixFile : Option String := none
  suffixFile : Option String := none
  tablesEnumName : Option String := none
  tablesTypeName : Option String := none
  noTableMap : Bool := false
  noTableColumnTypeOverrides : Bool := false
  noColumnTypeOverrides : Bool := false
  noDefaultTypeOverrides : Bool := false
  deriving DecidableEq, Repr, Inhabited

/-- Why a command line is not run. Asking for help or the version is among the reasons. -/
inductive Fault
  | unknownArgument
  | invalidValue
  | argumentConflict
  | invalidSubcommand
  | missingSubcommand
  | tooManyValues
  | help
  | version
  | helpOnMissing
  deriving DecidableEq, Repr

inductive ValueOption
  | conn
  | config
  | output
  | schema
  | exclude
  | prefixFile
  | suffixFile
  | tablesEnumName
  | tablesTypeName
  deriving DecidableEq, Repr

inductive Switch
  | logJson
  | noTableMap
  | noTableColumnTypeOverrides
  | noColumnTypeOverrides
  | noDefaultTypeOverrides
  deriving DecidableEq, Repr

inductive Meaning
  | value (option : ValueOption)
  | switch (switch : Switch)
  | help
  deriving DecidableEq, Repr

/-- The long options of `generate`. They are not abbreviated. -/
def longNames : List (String × Meaning) := [
  ("conn", .value .conn), ("config", .value .config), ("output", .value .output),
  ("schema", .value .schema), ("exclude", .value .exclude), ("prefix-file", .value .prefixFile),
  ("suffix-file", .value .suffixFile), ("tables-enum-name", .value .tablesEnumName),
  ("tables-type-name", .value .tablesTypeName), ("log-json", .switch .logJson),
  ("no-table-map", .switch .noTableMap),
  ("no-table-column-type-overrides", .switch .noTableColumnTypeOverrides),
  ("no-column-type-overrides", .switch .noColumnTypeOverrides),
  ("no-default-type-overrides", .switch .noDefaultTypeOverrides), ("help", .help)]

/-- The shapes of an argument. A lone `-` is a value. -/
inductive Token
  | escape
  | long (name : String) (value : Option String)
  | short (letter : Char) (rest : List Char)
  | value (text : String)
  deriving DecidableEq, Repr

def Token.ofArgument (argument : String) : Token :=
  match argument.toList with
  | ['-', '-'] => .escape
  | '-' :: '-' :: body =>
    match Text.cutFirst '=' body with
    | some (name, text) => .long (String.ofList name) (some (String.ofList text))
    | none => .long (String.ofList body) none
  | '-' :: letter :: rest => .short letter rest
  | _ => .value argument

namespace Arguments

/-- Takes over the value of an option. A second value is a conflict, but for the lists; a path is
not empty. -/
def assign (a : Arguments) (option : ValueOption) (text : String) : Except Fault Arguments :=
  let once (held : Option String) (taken : Arguments) : Except Fault Arguments :=
    if held.isSome then .error .argumentConflict else .ok taken
  let path (held : Option String) (taken : Arguments) : Except Fault Arguments := do
    let taken ← once held taken
    if text = "" then .error .invalidValue else .ok taken
  match option with
  | .conn => once a.conn { a with conn := some text }
  | .config => path a.config { a with config := some text }
  | .output => path a.output { a with output := some text }
  | .schema => .ok { a with schema := a.schema ++ [text] }
  | .exclude => .ok { a with exclude := a.exclude ++ [text] }
  | .prefixFile => path a.prefixFile { a with prefixFile := some text }
  | .suffixFile => path a.suffixFile { a with suffixFile := some text }
  | .tablesEnumName => once a.tablesEnumName { a with tablesEnumName := some text }
  | .tablesTypeName => once a.tablesTypeName { a with tablesTypeName := some text }

def turnOn (a : Arguments) (switch : Switch) : Except Fault Arguments :=
  let once (held : Bool) (taken : Arguments) : Except Fault Arguments :=
    if held then .error .argumentConflict else .ok taken
  match switch with
  | .logJson => once a.logJson { a with logJson := true }
  | .noTableMap => once a.noTableMap { a with noTableMap := true }
  | .noTableColumnTypeOverrides =>
    once a.noTableColumnTypeOverrides { a with noTableColumnTypeOverrides := true }
  | .noColumnTypeOverrides => once a.noColumnTypeOverrides { a with noColumnTypeOverrides := true }
  | .noDefaultTypeOverrides =>
    once a.noDefaultTypeOverrides { a with noDefaultTypeOverrides := true }

end Arguments

/-- The arguments taken over so far, and the option before the next argument with its value once
that is read. It is taken over when another option or a connection string starts. -/
structure Reading where
  arguments : Arguments := {}
  pending : Option (ValueOption × Option String) := none

namespace Reading

def settle (r : Reading) : Except Fault Arguments :=
  match r.pending with
  | none => .ok r.arguments
  | some (_, none) => .error .invalidValue
  | some (option, some text) => r.arguments.assign option text

/-- An option with its value in the same argument, or with the value still to come. -/
def startOption (r : Reading) (option : ValueOption) (value : Option String) :
    Except Fault Reading := do
  let arguments ← r.settle
  match value with
  | some text => return ⟨← arguments.assign option text, none⟩
  | none => return ⟨arguments, some (option, none)⟩

def long (r : Reading) (name : String) (value : Option String) : Except Fault Reading :=
  match longNames.lookup name, value with
  | none, _ => .error .unknownArgument
  | some (.value option), value => r.startOption option value
  | some _, some _ => .error .tooManyValues
  | some (.switch switch), none => do return ⟨← (← r.settle).turnOn switch, none⟩
  | some .help, none => do
    let _ ← r.settle
    .error .help

/-- `-o` and `-h` are the short options of `generate`; a value may follow `-o` at once or after
an `=`. -/
def short (r : Reading) (letter : Char) (rest : List Char) : Except Fault Reading :=
  if letter = 'o' then
    match rest with
    | [] => r.startOption .output none
    | '=' :: text => r.startOption .output (some (String.ofList text))
    | text => r.startOption .output (some (String.ofList text))
  else if letter = 'h' then do
    let _ ← r.settle
    .error .help
  else .error .unknownArgument

def positional (r : Reading) (text : String) : Except Fault Reading :=
  if r.arguments.connPositional.isSome then .error .unknownArgument
  else do
    let arguments ← r.settle
    return ⟨{ arguments with connPositional := some text }, none⟩

/-- A value belongs to the option before it, if that still has none. -/
def value (r : Reading) (text : String) : Except Fault Reading :=
  match r.pending with
  | some (option, none) => .ok { r with pending := some (option, some text) }
  | _ => r.positional text

def finish (r : Reading) : Except Fault Arguments := do
  let arguments ← r.settle
  if arguments.conn.isSome && arguments.connPositional.isSome then .error .argumentConflict
  else return arguments

end Reading

def readGenerate (r : Reading) : List String → Except Fault Arguments
  | [] => r.finish
  | argument :: rest =>
    match Token.ofArgument argument with
    | .escape => do (← rest.foldlM Reading.positional r).finish
    | .long name value => do readGenerate (← r.long name value) rest
    | .short letter more => do readGenerate (← r.short letter more) rest
    | .value text => do readGenerate (← r.value text) rest

/-- The arguments after `help`: the commands to explain, one inside the other. -/
def readHelp : List String → Fault
  | [] => .help
  | [command] => if command = "generate" || command = "help" then .help else .invalidSubcommand
  | _ => .invalidSubcommand

/-- Arguments that stand for no command after `--`. -/
def readEscaped (logJson : Bool) : List String → Fault
  | [] => if logJson then .missingSubcommand else .helpOnMissing
  | argument :: _ =>
    if argument = "generate" || argument = "help" then .unknownArgument else .invalidSubcommand

def read (logJson : Bool) : List String → Except Fault Arguments
  | [] => .error (if logJson then .missingSubcommand else .helpOnMissing)
  | argument :: rest =>
    match Token.ofArgument argument with
    | .escape => .error (readEscaped logJson rest)
    | .long "log-json" none => if logJson then .error .argumentConflict else read true rest
    | .long "help" none => .error .help
    | .long "version" none => .error .version
    | .long name (some _) =>
      .error (if name ∈ ["log-json", "help", "version"] then .tooManyValues else .unknownArgument)
    | .long _ none => .error .unknownArgument
    | .short letter _ =>
      .error (if letter = 'h' then .help else if letter = 'V' then .version else .unknownArgument)
    | .value "generate" => do
      let arguments ← readGenerate {} rest
      return { arguments with logJson := logJson || arguments.logJson }
    | .value "help" => .error (readHelp rest)
    | .value _ => .error .invalidSubcommand

/-- The arguments of a command line after the name of the program. -/
def parse (line : List String) : Except Fault Arguments := read false line

end SchemaTypes.CommandLine
