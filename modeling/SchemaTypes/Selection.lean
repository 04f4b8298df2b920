import SchemaTypes.Catalog
import SchemaTypes.Text.Basic

/-! Which tables are selected. Schemas are listed by name, and a name after `!` is excluded; tables
are only ever excluded. A schema on both lists is excluded. -/
namespace SchemaTypes

/-- A list as a user writes it: items, or one text with commas. -/
inductive ListSpec
  | joined (text : String)
  | list (items : List String)
  deriving DecidableEq, Repr, Inhabited

namespace ListSpec

/-- The trimmed parts of a text between its commas, without the empty ones. -/
def parts (text : String) : List String :=
  ((text.toList.splitOn ',').map fun part => String.ofList (Text.trimChars part)).filter (· ≠ "")

/-- An item of a list may hold commas as well. -/
def entries : ListSpec → List String
  | .joined text => parts text
  | .list items => items.flatMap parts

end ListSpec

structure Selection where
  includeSchemas : List String
  excludeSchemas : List String
  excludeTables : List String
  deriving DecidableEq, Repr, Inhabited

namespace Selection

/-- The schema that an entry excludes: what follows its `!`, trimmed. -/
def excluded? (entry : String) : Option String :=
  match entry.toList with
  | '!' :: rest => some (String.ofList (Text.trimChars rest))
  | _ => none

/-- No entry at all selects the default schema; entries that only exclude select nothing. -/
def ofSpecs (schema exclude : ListSpec) : Selection where
  includeSchemas :=
    if schema.entries = [] then [defaultSchema]
    else (schema.entries.filter fun entry => (excluded? entry).isNone).eraseDups
  excludeSchemas := ((schema.entries.filterMap excluded?).filter (· ≠ "")).eraseDups
  excludeTables := exclude.entries.eraseDups

def standard : Selection := ofSpecs (.list []) (.list [])

def allows (s : Selection) (c : Column) : Bool :=
  c.schema ∈ s.includeSchemas && c.schema ∉ s.excludeSchemas && c.table ∉ s.excludeTables

def apply (s : Selection) (columns : List Column) : List Column := columns.filter s.allows

/-- The names of a selection as schema entries, the excluded ones after `!`. -/
def schemaEntries (s : Selection) : List String :=
  s.includeSchemas ++ s.excludeSchemas.map ("!" ++ ·)

end Selection
end SchemaTypes
