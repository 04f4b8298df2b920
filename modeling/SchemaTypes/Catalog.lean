/-! What a database catalog reports: the labels of its enum types and the columns of its tables. -/
namespace SchemaTypes

/-- One label of an enum type. Rows with the same key belong to one enum and come in its declared
order. -/
structure EnumEntry where
  key : String
  label : String
  deriving DecidableEq, Repr, Inhabited

/-- One column of one table. `dataType` is the generic type name (`ARRAY`, `USER-DEFINED`,
`integer`), `udt` the name of the type that is stored (`_text`, `int4`, the name of an enum). -/
structure Column where
  schema : String
  table : String
  name : String
  nullable : Bool
  default : Option String
  dataType : String
  udt : String
  deriving DecidableEq, Repr, Inhabited

structure TableKey where
  schema : String
  table : String
  deriving DecidableEq, Repr

/-- The schema whose tables go by their bare names, and the one selected where none is named. -/
def defaultSchema : String := "public"

namespace Column

def tableKey (c : Column) : TableKey := ⟨c.schema, c.table⟩

def isArray (c : Column) : Bool := c.dataType == "ARRAY"

/-- The stored type, or that of the elements: the stored name of an array type is the name of its
element type after an underscore. -/
def storageType (c : Column) : String :=
  if c.isArray then
    match c.udt.toList with
    | '_' :: element => String.ofList element
    | _ => c.udt
  else c.udt

/-- The key of the most specific overrides, `table.column`. -/
def qualifiedName (c : Column) : String := c.table ++ "." ++ c.name

end Column
end SchemaTypes
