import SchemaTypes.Document
import SchemaTypes.Naming
import SchemaTypes.Options

/-! From catalog rows to declarations. Enums and tables are declared in the order in which they
first appear, and their members and fields in the order of the rows, contiguous or not. -/
namespace SchemaTypes

def enumKeys (rows : List EnumEntry) : List String := (rows.map (·.key)).eraseDups

def enumDecl (names : NameOverrides) (rows : List EnumEntry) (key : String) : EnumDecl where
  name := names.enumName key
  members := (rows.filter (·.key = key)).map fun row =>
    ⟨names.enumMember key row.label, row.label⟩

def enumDecls (names : NameOverrides) (rows : List EnumEntry) : List EnumDecl :=
  (enumKeys rows).map (enumDecl names rows)

def enumNames (names : NameOverrides) (rows : List EnumEntry) : List (String × String) :=
  (enumKeys rows).map fun key => (key, names.enumName key)

/-- Tables under construction, each with the key it was opened for. -/
abbrev OpenTables := List (TableKey × TableDecl)

namespace OpenTables

/-- Opens the table of a column at its first row, and names it then. -/
def openFor (names : NameOverrides) (tables : OpenTables) (column : Column) :
    Consult OpenTables :=
  if tables.any (·.1 = column.tableKey) then pure tables
  else do
    let n ← names.tableNames column
    return tables ++ [(column.tableKey, ⟨n.typeName, n.runtime, []⟩)]

def addField (tables : OpenTables) (key : TableKey) (field : FieldDecl) : OpenTables :=
  tables.map fun (k, d) => if k = key then (k, { d with fields := d.fields ++ [field] }) else (k, d)

/-- Files one row: its table is named first if it is new, then the column, then its type. -/
def add (names : NameOverrides) (typing : Typing) (tables : OpenTables) (column : Column) :
    Consult OpenTables := do
  let tables ← openFor names tables column
  let name ← names.resolve column .column
  let expr ← typing.typeOf column
  return addField tables column.tableKey ⟨name, expr⟩

def addAll (names : NameOverrides) (typing : Typing) (tables : OpenTables) :
    List Column → Consult OpenTables
  | [] => pure tables
  | column :: rest => do addAll names typing (← add names typing tables column) rest

end OpenTables

def Options.typing (o : Options) (rows : List EnumEntry) : Typing :=
  ⟨enumNames o.names rows, o.types, o.tiers⟩

def Document.build (enums : List EnumEntry) (columns : List Column) (o : Options) :
    Consult Document := do
  let tables ← OpenTables.addAll o.names (o.typing enums) [] columns
  return {
    prefixText := o.prefixText
    enums := enumDecls o.names enums
    tablesEnumName := o.tablesEnumName
    tablesTypeName := o.tablesTypeName
    emitTableMap := o.emitTableMap
    tables := tables.map (·.2)
    suffixText := o.suffixText }

end SchemaTypes
