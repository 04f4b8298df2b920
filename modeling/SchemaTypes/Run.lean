import SchemaTypes.CommandLine
import SchemaTypes.Connection
import SchemaTypes.FileTree
import SchemaTypes.Postgres
import SchemaTypes.Settings
import SchemaTypes.Settings.Decode

/-! A run of the `generate` command. Everything that can be checked without the database is checked
first, then the connection is made, and only then is the output opened. -/
namespace SchemaTypes

def defaultSettingsFile : String := "pgtyper.toml"

/-- The variable with the connection string where none is given. -/
def connectionVariable : String := "DATABASE_URL"

/-- The variable that says which log lines are written. -/
def logVariable : String := "PGTYPER_LOG"

inductive ConnectionFault
  | both
  | missing
  deriving DecidableEq, Repr

def ConnectionFault.message : ConnectionFault → String
  | .both => "use either --conn or positional connection string"
  | .missing =>
    "connection string is required (argument, --conn, or " ++ connectionVariable ++ ")"

inductive RunError
  | connection (fault : ConnectionFault)
  | unsupportedEngine (redacted : String)
  | settings (fault : Settings.Fault)
  | file (path : String)
  | database (message : String)
  | core (error : Error)
  deriving DecidableEq, Repr

def RunError.message : RunError → String
  | .connection fault => "invalid configuration: " ++ fault.message
  | .unsupportedEngine redacted => "unsupported engine: " ++ redacted
  | .settings fault =>
    "config decode error: " ++ fault.message?.getD "the file is not a TOML document"
  | .file path => "io error: cannot use " ++ path
  | .database message => "database error: " ++ message
  | .core error => "core error: " ++ error.message

/-- What a run finds: the connection variable, the files, and the database servers. -/
structure Environment where
  connectionString : Option String
  files : FileTree
  connect : String → Except String Postgres.Server

/-- What a run does outside itself. The pool is closed by the `close` of the generation, or by
`closePool` where no generation is started. -/
inductive RunEffect
  | connect (connection : String)
  | openOutput (target : Target)
  | generation (effect : Effect)
  | closePool
  deriving DecidableEq, Repr

/-- How a run ends: its result, what it did, the files as it leaves them and what it wrote to the
standard output. -/
structure RunOutcome where
  result : Except RunError Report
  effects : List RunEffect
  files : FileTree
  stdout : Bytes

namespace Run

open CommandLine (Arguments)

def connectionString (env : Environment) (a : Arguments) : Except RunError String :=
  match a.conn, a.connPositional with
  | some text, none | none, some text => .ok text
  | some _, some _ => .error (.connection .both)
  | none, none =>
    match env.connectionString with
    | some text => .ok text
    | none => .error (.connection .missing)

def checkEngine (connection : String) : Except RunError Unit :=
  if Connection.isPostgres connection then .ok ()
  else .error (.unsupportedEngine (Connection.redact connection))

def readFile (env : Environment) (path : String) : Except RunError String :=
  match env.files.readText path with
  | some text => .ok text
  | none => .error (.file path)

/-- The settings of the named file, or of the default one if it is there. -/
def loadSettings (env : Environment) (path : Option String) : Except RunError (Option Settings) :=
  let load (path : String) : Except RunError (Option Settings) := do
    let document ← readFile env path
    return some (← (Settings.decode document).mapError .settings)
  match path with
  | some path => load path
  | none => if env.files.contains defaultSettingsFile then load defaultSettingsFile else .ok none

def readOptional (env : Environment) (path : Option String) : Except RunError (Option String) :=
  match path with
  | some path => (readFile env path).map some
  | none => .ok none

def flags (a : Arguments) (prefixText suffixText : Option String) : Flags where
  output := a.output
  schema := a.schema
  exclude := a.exclude
  prefixText := prefixText
  suffixText := suffixText
  tablesEnumName := a.tablesEnumName
  tablesTypeName := a.tablesTypeName
  noTableMap := a.noTableMap
  noTableColumnTypeOverrides := a.noTableColumnTypeOverrides
  noColumnTypeOverrides := a.noColumnTypeOverrides
  noDefaultTypeOverrides := a.noDefaultTypeOverrides

/-- What is known before the connection is made. -/
structure Plan where
  connection : String
  options : Options
  target : Target

/-- The checks before the connection, in their order. -/
def plan (env : Environment) (a : Arguments) : Except RunError Plan := do
  let connection ← connectionString env a
  checkEngine connection
  let settings := (← loadSettings env a.config).getD {}
  let prefixText ← readOptional env a.prefixFile
  let suffixText ← readOptional env a.suffixFile
  let given := flags a prefixText suffixText
  let options := settings.merge given
  options.validate.mapError fun fault => .core (.options fault)
  return ⟨connection, options, settings.target given⟩

inductive Opened
  | stdout
  | file (place : Place)
  deriving DecidableEq, Repr

def openTarget (files : FileTree) : Target → FileTree × Option Opened
  | .stdout => (files, some .stdout)
  | .file path =>
    match files.create path with
    | (files, place) => (files, place.map .file)

namespace Opened

def filesWith (files : FileTree) (bytes : Bytes) : Opened → FileTree
  | .stdout => files
  | .file place => files.put place (.file bytes)

def stdoutWith (bytes : Bytes) : Opened → Bytes
  | .stdout => bytes
  | .file _ => []

end Opened

/-- The part of a run after the connection is made. `device` is how the output behaves. -/
def execute (files : FileTree) (device : Sink σ) (start : σ) (plan : Plan)
    (server : Postgres.Server) : RunOutcome :=
  let pool : Postgres.Pool := ⟨server, false⟩
  match openTarget files plan.target with
  | (files, none) =>
    ⟨.error (.file plan.target.text),
      [.connect plan.connection, .openOutput plan.target, .closePool], files, []⟩
  | (files, some opened) =>
    let o := generate pool.catalog device plan.options start
    let bytes := acceptedBytes o.effects
    ⟨o.result.mapError .core,
      .connect plan.connection :: .openOutput plan.target :: o.effects.map .generation,
      opened.filesWith files bytes, opened.stdoutWith bytes⟩

end Run

def run (env : Environment) (device : Sink σ) (start : σ) (a : CommandLine.Arguments) :
    RunOutcome :=
  match Run.plan env a with
  | .error e => ⟨.error e, [], env.files, []⟩
  | .ok plan =>
    match env.connect plan.connection with
    | .error message =>
      ⟨.error (.database message), [.connect plan.connection], env.files, []⟩
    | .ok server => Run.execute env.files device start plan server

/-- The queries among the effects of a run, in the order in which they are sent. -/
def sentQueries (effects : List RunEffect) : List Postgres.Query :=
  effects.filterMap fun
    | .generation effect => Postgres.query? effect
    | _ => none

end SchemaTypes
