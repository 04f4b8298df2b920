import SchemaTypes.Generation

/-! Reading the catalog of a Postgres server: the two queries, the rows they give, and a pool of
connections that can be closed. -/
namespace SchemaTypes.Postgres

def engine : String := "postgres"

structure EnumRow where
  name : String
  label : String
  deriving DecidableEq, Repr

def EnumRow.entry (row : EnumRow) : EnumEntry := ⟨row.name, row.label⟩

structure ColumnRow where
  tableSchema : String
  tableName : String
  columnName : String
  isNullable : Bool
  columnDefault : Option String
  dataType : String
  udtName : String
  deriving DecidableEq, Repr

def ColumnRow.column (row : ColumnRow) : Column where
  schema := row.tableSchema
  table := row.tableName
  name := row.columnName
  nullable := row.isNullable
  default := row.columnDefault
  dataType := row.dataType
  udt := row.udtName

inductive Field
  | tableSchema
  | tableName
  deriving DecidableEq, Repr

def Field.sql : Field → String
  | .tableSchema => "c.table_schema::text"
  | .tableName => "c.table_name::text"

def Field.of (row : ColumnRow) : Field → String
  | .tableSchema => row.tableSchema
  | .tableName => row.tableName

/-- Conditions on column rows. Parameters are lists of texts, counted from one. -/
inductive Condition
  | anyOf (field : Field) (parameter : Nat)
  | not (condition : Condition)
  | and (left right : Condition)
  deriving DecidableEq, Repr

namespace Condition

def sql : Condition → String
  | .anyOf field parameter => field.sql ++ " = any($" ++ toString parameter ++ ")"
  | .not condition => "not (" ++ condition.sql ++ ")"
  | .and left right => left.sql ++ " and " ++ right.sql

def holds (parameters : List (List String)) (row : ColumnRow) : Condition → Bool
  | .anyOf field parameter => field.of row ∈ parameters.getD (parameter - 1) []
  | .not condition => !condition.holds parameters row
  | .and left right => left.holds parameters row && right.holds parameters row

/-- Rows of included schemas that neither an excluded schema nor an excluded table drops. -/
def selected : Condition :=
  .and (.and (.anyOf .tableSchema 1) (.not (.anyOf .tableSchema 2))) (.not (.anyOf .tableName 3))

end Condition

def parameters (s : Selection) : List (List String) :=
  [s.includeSchemas, s.excludeSchemas, s.excludeTables]

inductive Query
  | enums
  | columns (parameters : List (List String))
  deriving DecidableEq, Repr

namespace Query

def sql : Query → String
  | .enums =>
    "select t.typname::text as name, e.enumlabel::text as label from pg_type t " ++
    "join pg_enum e on e.enumtypid = t.oid order by t.typname, e.enumsortorder"
  | .columns _ =>
    "select c.table_schema::text as table_schema, c.table_name::text as table_name, " ++
    "c.column_name::text as column_name, (c.is_nullable = 'YES') as is_nullable, " ++
    "c.column_default::text as column_default, c.data_type::text as data_type, " ++
    "c.udt_name::text as udt_name from information_schema.columns c where " ++
    Condition.selected.sql ++
    " order by c.table_schema, c.table_name, c.ordinal_position"

def parameters : Query → List (List String)
  | .enums => []
  | .columns parameters => parameters

end Query

/-- The answers of a server to the two queries, each run any number of times. -/
structure Server where
  enums : Except String (List EnumRow)
  columns : List (List String) → Except String (List ColumnRow)

/-- Connections to one server. -/
structure Pool where
  server : Server
  closed : Bool := false

namespace Pool

def closedMessage : String := "attempted to acquire a connection on a closed pool"

def refusedMessage (message : String) : String := "error returned from database: " ++ message

/-- Runs a query. The second part is what the server was sent. -/
def run (p : Pool) (query : Query) (answer : Except String α) : Except String α × List Query :=
  if p.closed then (.error closedMessage, []) else (answer.mapError refusedMessage, [query])

def listEnums (p : Pool) : Except String (List EnumEntry) × List Query :=
  p.run .enums (p.server.enums.map (·.map EnumRow.entry))

def listColumns (p : Pool) (s : Selection) : Except String (List Column) × List Query :=
  p.run (.columns (parameters s)) ((p.server.columns (parameters s)).map (·.map ColumnRow.column))

/-- Closing always succeeds, also when the pool is closed. -/
def close (p : Pool) : Pool := { p with closed := true }

/-- The pool as the catalog of one generation. What it refuses is a failure of the database. -/
def catalog (p : Pool) : Catalog where
  enums := p.listEnums.1.mapError .database
  columns s := (p.listColumns s).1.mapError .database
  close := .ok ()

end Pool

def query? : Effect → Option Query
  | .listEnums => some .enums
  | .listColumns s => some (.columns (parameters s))
  | _ => none

end SchemaTypes.Postgres
