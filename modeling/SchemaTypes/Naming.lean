import SchemaTypes.Override.Consult
import SchemaTypes.Text.Words

/-! Names in the generated declarations. Columns keep their names, tables, schemas and enums go in
Pascal case, and overrides replace either. -/
namespace SchemaTypes
namespace NameOverrides

def ask (column : Column) (category : NameCategory) (current key : String) :
    Entry NameResolver → Consult (Option String) :=
  Consult.ask ⟨key, some category, column, current⟩ (· column category current)

def defaultName (column : Column) : NameCategory → String
  | .table => Text.pascalCase column.table
  | .schema => Text.pascalCase column.schema
  | .column => column.name

/-- The keys that name one thing, the most specific first. -/
def keysFor (column : Column) : NameCategory → List String
  | .table => [column.table]
  | .schema => [column.schema]
  | .column => [column.qualifiedName, column.name]

/-- The name of a table, schema or column. Every key is asked about the default name, the wildcard
about what came out. -/
def resolve (names : NameOverrides) (column : Column) (category : NameCategory) :
    Consult String := do
  let fallback := defaultName column category
  let chosen ← names.firstOpinion (ask column category fallback) (keysFor column category)
  let text := chosen.getD fallback
  names.lastOpinion (ask column category text) text

def enumName (names : NameOverrides) (key : String) : String :=
  (names.literal? key).getD (Text.pascalCase key)

/-- The name of an enum member, under the key `enum.label`. -/
def enumMember (names : NameOverrides) (key label : String) : String :=
  (names.literal? (key ++ "." ++ label)).getD (Text.memberCase label)

end NameOverrides

structure TableNames where
  typeName : String
  runtime : String
  deriving DecidableEq, Repr

/-- Bare in the default schema, `schema.table` elsewhere. -/
def TableKey.runtime (key : TableKey) : String :=
  if key.schema = defaultSchema then key.table else key.schema ++ "." ++ key.table

/-- Whether a schema adds nothing to the names of its record types, from its name in the catalog
and its resolved name. -/
def isUnqualified (raw resolved : String) : Bool :=
  resolved == defaultSchema ||
    (raw == defaultSchema && resolved == Text.pascalCase defaultSchema)

def NameOverrides.tableNames (names : NameOverrides) (column : Column) : Consult TableNames := do
  let table ← names.resolve column .table
  let schema ← names.resolve column .schema
  let typeName := if isUnqualified column.schema schema then table
    else Text.pascalCase schema ++ table
  return ⟨typeName, column.tableKey.runtime⟩

end SchemaTypes
