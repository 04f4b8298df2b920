import SchemaTypes.Run

/-! The command line program. It reads the files that a command line names, logs what a run does, in
plain lines, and reports why it ends. Connections are made by a database driver, which is not part
of this library, so a run that passes every check ends at its connection. -/
namespace SchemaTypes

def usage : String :=
  "Generate TypeScript types from a Postgres schema\n\n" ++
  "Usage: pgtyper [--log-json] generate [OPTIONS] [CONNECTION_STRING]\n\n" ++
  "Options:\n" ++
  "      --conn <CONNECTION_STRING>        Database connection string\n" ++
  "      --config <CONFIG>                 Settings file\n" ++
  "  -o, --output <OUTPUT>                 Output file, `-` for standard output\n" ++
  "      --schema <SCHEMA>                 Schemas to include, or to exclude after `!`\n" ++
  "      --exclude <TABLE>                 Tables to leave out\n" ++
  "      --prefix-file <PREFIX_FILE>       Text written before the declarations\n" ++
  "      --suffix-file <SUFFIX_FILE>       Text written after the declarations\n" ++
  "      --tables-enum-name <NAME>         Name of the table registry enum\n" ++
  "      --tables-type-name <NAME>         Name of the map to record types\n" ++
  "      --no-table-map                    Skip the map to record types\n" ++
  "      --no-table-column-type-overrides  Ignore type overrides of `table.column`\n" ++
  "      --no-column-type-overrides        Ignore type overrides of columns\n" ++
  "      --no-default-type-overrides       Ignore type overrides of stored types\n" ++
  "  -h, --help                            Print help\n" ++
  "  -V, --version                         Print version"

def CommandLine.Fault.text : CommandLine.Fault → String
  | .unknownArgument => "error: unexpected argument found"
  | .invalidValue => "error: a value is required for an option"
  | .argumentConflict => "error: an argument cannot be used with another one"
  | .invalidSubcommand => "error: unrecognized subcommand"
  | .missingSubcommand => "error: a subcommand is required"
  | .tooManyValues => "error: unexpected value for an option"
  | .version => "pgtyper 0.1.0"
  | .help | .helpOnMissing => usage

/-- The files of a run, as far as they are there. What cannot be read as text stands there like a
directory. -/
def loadFiles (paths : List String) : IO FileTree :=
  paths.foldlM (fun (tree : FileTree) (path : String) => do
    let place (node : Node) : FileTree :=
      match tree.create path with
      | (tree, some place) => tree.put place node
      | (tree, none) => tree
    try
      return place (.file (utf8 (← IO.FS.readFile path)))
    catch
      | .noFileOrDirectory .. => return tree
      | _ => return place .directory) {}

/-- Whether runs are logged at the level that is asked for. Their lines are of the level `info`, and
that level is taken where none is named. -/
def logsRuns (level : Option String) : Bool :=
  (level.getD "info").toLower ∉ ["", "off", "error", "warn", "0", "1", "2"]

/-- What is logged of a run up to its connection. The server is shown without the secrets; the time
and the identifier that tell runs apart are left out. -/
def RunOutcome.logLines (o : RunOutcome) : List String :=
  o.effects.filterMap fun
    | .connect connection =>
      some ("event=\"run_started\" engine=postgres connection=" ++ Connection.redact connection)
    | _ => none

def runMain (line : List String) : IO UInt32 := do
  match CommandLine.parse line with
  | .error fault =>
    if fault = .help || fault = .version then
      IO.println fault.text
      return 0
    else
      IO.eprintln fault.text
      return 2
  | .ok a =>
    let named := [some (a.config.getD defaultSettingsFile), a.prefixFile, a.suffixFile]
    let env : Environment := {
      connectionString := ← IO.getEnv connectionVariable
      files := ← loadFiles (named.filterMap id)
      connect := fun _ => .error "no database driver" }
    let outcome := run env Sink.reliable () a
    if logsRuns (← IO.getEnv logVariable) then
      outcome.logLines.forM fun line => IO.eprintln (" INFO pgtyper: " ++ line)
    match outcome.result with
    | .ok _ => return 0
    | .error e =>
      IO.eprintln ("Error: " ++ e.message)
      return 1

end SchemaTypes

def main (line : List String) : IO UInt32 := SchemaTypes.runMain line
