import SchemaTypes.Override.Consult

/-! Types of columns. A stored type decides, then the enums of the catalog, then the generic type;
an override replaces that, arrays and nullable columns get their suffix, and the wildcard comes
last. -/
namespace SchemaTypes

inductive StorageKind
  | boolean
  | string
  | number
  | dateTime
  | json
  | binary
  | interval
  deriving DecidableEq, Repr

namespace StorageKind

/-- Stored names and generic names of the built-in types. -/
def tags : StorageKind → List String
  | .boolean => ["bool", "boolean"]
  | .string => ["text", "citext", "money", "numeric", "int8", "bigint", "char", "character",
      "bpchar", "varchar", "character varying", "time", "timetz", "time without time zone",
      "time with time zone", "tsquery", "tsvector", "uuid", "xml", "cidr", "inet", "macaddr"]
  | .number => ["smallint", "integer", "int", "int2", "int4", "real", "float", "float4", "float8",
      "double precision", "oid"]
  | .dateTime => ["date", "timestamp", "timestamptz", "timestamp without time zone",
      "timestamp with time zone"]
  | .json => ["json", "jsonb"]
  | .binary => ["bytea"]
  | .interval => ["interval"]

def all : List StorageKind := [.boolean, .string, .number, .dateTime, .json, .binary, .interval]

/-- The family of a type name; no name is in two of them. -/
def ofTag? (tag : String) : Option StorageKind := all.find? (tag ∈ ·.tags)

end StorageKind

def unknownType : String := "unknown"

/-- JSON is typed from the shape of its default: an object, an array, or anything. -/
def jsonType (default : Option String) : String :=
  match default.map String.toList with
  | some ('\'' :: '\x7b' :: _) => "Record<string, unknown>"
  | some ('\'' :: '[' :: _) => "unknown[]"
  | _ => unknownType

def StorageKind.typeExpr (default : Option String) : StorageKind → String
  | .boolean => "boolean"
  | .string => "string"
  | .number => "number"
  | .dateTime => "Date"
  | .json => jsonType default
  | .binary => "Buffer"
  | .interval => "IPostgresInterval"

/-- Which keys of the type overrides are looked up. -/
structure Tiers where
  tableColumn : Bool
  column : Bool
  storageType : Bool
  deriving DecidableEq, Repr

def Tiers.all : Tiers := ⟨true, true, true⟩

instance : Inhabited Tiers := ⟨.all⟩

/-- The keys of the tiers that are on, the most specific first. -/
def Tiers.keysFor (tiers : Tiers) (column : Column) : List String :=
  (if tiers.tableColumn then [column.qualifiedName] else []) ++
  (if tiers.column then [column.name] else []) ++
  (if tiers.storageType then [column.storageType] else [])

/-- What types are derived from: the declared names of the catalog's enums and the overrides. -/
structure Typing where
  enumNames : List (String × String)
  overrides : TypeOverrides
  tiers : Tiers

namespace Typing

def baseType (t : Typing) (column : Column) : String :=
  match StorageKind.ofTag? column.storageType with
  | some kind => kind.typeExpr column.default
  | none =>
    match t.enumNames.lookup column.storageType with
    | some name => name
    | none =>
      match StorageKind.ofTag? column.dataType with
      | some kind => kind.typeExpr column.default
      | none => unknownType

def suffixes (column : Column) : String :=
  (if column.isArray then "[]" else "") ++ (if column.nullable then " | null" else "")

def ask (column : Column) (current key : String) : Entry TypeResolver → Consult (Option String) :=
  Consult.ask ⟨key, none, column, current⟩ (· column current)

/-- The full type of a column. The keys are asked about the base type, the wildcard about the type
with its suffixes. -/
def typeOf (t : Typing) (column : Column) : Consult String := do
  let base := t.baseType column
  let chosen ← t.overrides.firstOpinion (ask column base) (t.tiers.keysFor column)
  let text := chosen.getD base ++ suffixes column
  t.overrides.lastOpinion (ask column text) text

end Typing
end SchemaTypes
