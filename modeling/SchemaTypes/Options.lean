import SchemaTypes.Error
import SchemaTypes.Override
import SchemaTypes.Selection
import SchemaTypes.Typing

/-! What a user chooses for one generation. -/
namespace SchemaTypes

/-- `prefixText` is written before the declarations and `suffixText` after them. The tables are
listed in an enum, and unless switched off in a map from run time names to record types. -/
structure Options where
  names : NameOverrides := .empty
  types : TypeOverrides := .empty
  tiers : Tiers := .all
  prefixText : Option String := none
  suffixText : Option String := none
  schema : ListSpec := .list [defaultSchema]
  exclude : ListSpec := .list []
  tablesEnumName : String := "Table"
  tablesTypeName : String := "Tables"
  emitTableMap : Bool := true

namespace Options

def selection (o : Options) : Selection := .ofSpecs o.schema o.exclude

/-- The two names for the tables have to be there, and to differ where both are declared. -/
def validate (o : Options) : Except OptionsFault Unit :=
  if Text.trim o.tablesEnumName = "" then .error .emptyEnumName
  else if o.emitTableMap && Text.trim o.tablesTypeName = "" then .error .emptyTypeName
  else if o.emitTableMap && o.tablesEnumName = o.tablesTypeName then
    .error (.sharedName o.tablesEnumName)
  else .ok ()

end Options
end SchemaTypes
