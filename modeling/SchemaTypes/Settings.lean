import SchemaTypes.Options

/-! Settings and flags together. A setting of the configuration file may be left out. A flag that is
given stands before it; a switch can only turn off what the file leaves on. -/
namespace SchemaTypes

/-- The settings of a configuration file. -/
structure Settings where
  output : Option String := none
  schema : Option ListSpec := none
  exclude : Option ListSpec := none
  prefixText : Option String := none
  suffixText : Option String := none
  tablesEnumName : Option String := none
  tablesTypeName : Option String := none
  emitTableMap : Option Bool := none
  overrideTableColumnTypes : Option Bool := none
  overrideColumnTypes : Option Bool := none
  overrideDefaultTypes : Option Bool := none
  names : List (String × String) := []
  types : List (String × String) := []
  deriving DecidableEq, Repr, Inhabited

inductive Target
  | stdout
  | file (path : String)
  deriving DecidableEq, Repr

namespace Target

def ofPath (path : String) : Target := if path = "-" then .stdout else .file path

def text : Target → String
  | .stdout => "stdout"
  | .file path => path

end Target

structure Flags where
  output : Option String := none
  schema : List String := []
  exclude : List String := []
  prefixText : Option String := none
  suffixText : Option String := none
  tablesEnumName : Option String := none
  tablesTypeName : Option String := none
  noTableMap : Bool := false
  noTableColumnTypeOverrides : Bool := false
  noColumnTypeOverrides : Bool := false
  noDefaultTypeOverrides : Bool := false
  deriving DecidableEq, Repr, Inhabited

namespace Settings

/-- The list of the flags, unless it is empty, before that of the file. -/
def mergeList (flags : List String) (file : Option ListSpec) (standard : ListSpec) : ListSpec :=
  if flags = [] then file.getD standard else .list flags

def mergeTiers (file : Settings) (flags : Flags) : Tiers where
  tableColumn := !flags.noTableColumnTypeOverrides && file.overrideTableColumnTypes.getD true
  column := !flags.noColumnTypeOverrides && file.overrideColumnTypes.getD true
  storageType := !flags.noDefaultTypeOverrides && file.overrideDefaultTypes.getD true

def merge (file : Settings) (flags : Flags) : Options :=
  let standard : Options := {}
  { names := .ofLiterals file.names
    types := .ofLiterals file.types
    tiers := file.mergeTiers flags
    prefixText := flags.prefixText <|> file.prefixText
    suffixText := flags.suffixText <|> file.suffixText
    schema := mergeList flags.schema file.schema standard.schema
    exclude := mergeList flags.exclude file.exclude standard.exclude
    tablesEnumName := (flags.tablesEnumName <|> file.tablesEnumName).getD standard.tablesEnumName
    tablesTypeName := (flags.tablesTypeName <|> file.tablesTypeName).getD standard.tablesTypeName
    emitTableMap := !flags.noTableMap && file.emitTableMap.getD true }

/-- Standard output, unless a path is given. -/
def target (file : Settings) (flags : Flags) : Target :=
  ((flags.output <|> file.output).map Target.ofPath).getD .stdout

end Settings
end SchemaTypes
