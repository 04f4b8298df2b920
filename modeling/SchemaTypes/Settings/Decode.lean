import SchemaTypes.Decimal.Shortest
import SchemaTypes.Settings
import SchemaTypes.Text.Visible
import SchemaTypes.Toml.Document

/-! Settings from the text of a configuration file. The fields are taken in the order of the
document, and the first that is unknown or of the wrong type is reported. -/
namespace SchemaTypes.Settings

inductive Expected
  | string
  | boolean
  | path
  | map
  deriving DecidableEq, Repr

def Expected.text : Expected → String
  | .string => "a string"
  | .boolean => "a boolean"
  | .path => "path string"
  | .map => "a map"

inductive Fault
  | malformed
  | unknownField (name : String)
  | invalidType (found : String) (expected : Expected)
  | listSpec
  deriving DecidableEq, Repr

def fieldNames : List String := ["output", "schema", "exclude", "prefix", "suffix",
  "tables_enum_name", "tables_type_name", "emit_table_map", "override_table_column_types",
  "override_column_types", "override_default_types", "overrides", "type_overrides"]

/-- The message to a list that is neither a text nor a list of texts. -/
def listSpecMessage : String := "data did not match any variant of untagged enum ListSpec"

/-- The message of a fault in a well-formed document. -/
def Fault.message? : Fault → Option String
  | .malformed => none
  | .unknownField name =>
    some ("unknown field `" ++ name ++ "`, expected one of " ++
      ", ".intercalate (fieldNames.map fun field => "`" ++ field ++ "`"))
  | .invalidType found expected =>
    some ("invalid type: " ++ found ++ ", expected " ++ expected.text)
  | .listSpec => some listSpecMessage

def found : Toml.Item → String
  | .string text => "string " ++ Text.listed text
  | .integer value => "integer `" ++ toString value ++ "`"
  | .float value => "floating point `" ++ Decimal.floatText value ++ "`"
  | .boolean value => "boolean `" ++ (if value then "true" else "false") ++ "`"
  | .array _ | .tables _ => "sequence"
  | .date _ | .braces _ | .table .. => "map"

def textOf (expected : Expected) : Toml.Item → Except Fault String
  | .string text => .ok text
  | item => .error (.invalidType (found item) expected)

def booleanOf : Toml.Item → Except Fault Bool
  | .boolean value => .ok value
  | item => .error (.invalidType (found item) .boolean)

def listOf : Toml.Item → Except Fault ListSpec
  | .string text => .ok (.joined text)
  | .array items =>
    match items.mapM (textOf .string) with
    | .ok texts => .ok (.list texts)
    | .error _ => .error .listSpec
  | _ => .error .listSpec

/-- The key of the one pair that a date consists of when it is read as a table. -/
def dateKey : String := "$__toml_private_datetime"

def textPairs (entries : Toml.Entries) : Except Fault (List (String × String)) :=
  entries.mapM fun (key, item) => do return (key, ← textOf .string item)

def pairsOf : Toml.Item → Except Fault (List (String × String))
  | .braces entries | .table _ entries => textPairs entries
  | .date text => .ok [(dateKey, text)]
  | item => .error (.invalidType (found item) .map)

/-- The settings with one more field. -/
def takeField (s : Settings) (name : String) (item : Toml.Item) : Except Fault Settings := do
  match name with
  | "output" => return { s with output := some (← textOf .path item) }
  | "schema" => return { s with schema := some (← listOf item) }
  | "exclude" => return { s with exclude := some (← listOf item) }
  | "prefix" => return { s with prefixText := some (← textOf .string item) }
  | "suffix" => return { s with suffixText := some (← textOf .string item) }
  | "tables_enum_name" => return { s with tablesEnumName := some (← textOf .string item) }
  | "tables_type_name" => return { s with tablesTypeName := some (← textOf .string item) }
  | "emit_table_map" => return { s with emitTableMap := some (← booleanOf item) }
  | "override_table_column_types" =>
    return { s with overrideTableColumnTypes := some (← booleanOf item) }
  | "override_column_types" => return { s with overrideColumnTypes := some (← booleanOf item) }
  | "override_default_types" => return { s with overrideDefaultTypes := some (← booleanOf item) }
  | "overrides" => return { s with names := ← pairsOf item }
  | "type_overrides" => return { s with types := ← pairsOf item }
  | _ => throw (.unknownField name)

def decode (document : String) : Except Fault Settings :=
  match Toml.parse document with
  | none => .error .malformed
  | some entries => entries.foldlM (fun s (name, item) => takeField s name item) {}

end SchemaTypes.Settings
