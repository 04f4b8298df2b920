import SchemaTypes.Proofs.Answers
import SchemaTypes.Proofs.Casing
import SchemaTypes.Proofs.Grouping

/-! What is declared when nothing is overridden. Then no resolver is asked and no row is refused,
and every name is that of the catalog in Pascal case. -/
namespace SchemaTypes

namespace OverrideMap

theorem firstOpinion_empty (ask : String → Entry ρ → Consult (Option String)) (keys : List String) :
    (empty : OverrideMap ρ).firstOpinion ask keys = pure none := by
  induction keys with
  | nil => rfl
  | cons key keys ih =>
    rw [firstOpinion, ih]
    split <;> rfl

theorem lastOpinion_empty (ask : String → Entry ρ → Consult (Option String)) (text : String) :
    (empty : OverrideMap ρ).lastOpinion ask text = pure text := rfl

end OverrideMap

/-- The name of a table's record type. Outside the default schema, the schema is brought to Pascal
case twice. -/
def TableKey.typeName (key : TableKey) : String :=
  if key.schema = defaultSchema then Text.pascalCase key.table
  else Text.pascalCase (Text.pascalCase key.schema) ++ Text.pascalCase key.table

theorem isUnqualified_pascalCase (schema : String) :
    isUnqualified schema (Text.pascalCase schema) = decide (schema = defaultSchema) := by
  have other : Text.pascalCase schema ≠ defaultSchema :=
    Text.pascalCase_ne (c := 'p') rfl (by decide)
  rw [Bool.eq_iff_iff]
  simp only [isUnqualified, Bool.or_eq_true, Bool.and_eq_true, beq_iff_eq, decide_eq_true_eq, other,
    false_or]
  constructor
  · exact And.left
  · rintro rfl
    exact ⟨rfl, rfl⟩

namespace NameOverrides

theorem resolve_empty (column : Column) (category : NameCategory) :
    resolve .empty column category =
      pure (defaultName column category) := by
  rw [resolve, OverrideMap.firstOpinion_empty]
  exact OverrideMap.lastOpinion_empty (ask column category (defaultName column category)) _

theorem tableNames_empty (column : Column) :
    tableNames .empty column =
      pure ⟨column.tableKey.typeName, column.tableKey.runtime⟩ := by
  rw [tableNames, resolve_empty, resolve_empty]
  show Consult.mk [] (.ok _) = Consult.mk [] (.ok _)
  simp only [defaultName, isUnqualified_pascalCase, decide_eq_true_eq]
  rfl

theorem enumName_empty (key : String) :
    enumName .empty key = Text.pascalCase key := rfl

theorem enumMember_empty (key label : String) :
    enumMember .empty key label = Text.memberCase label := rfl

end NameOverrides

theorem enumNames_of_enumDecls (enums : List EnumEntry) :
    (enumDecls .empty enums).map (·.name) = (enumKeys enums).map Text.pascalCase := by
  rw [enumDecls, List.map_map]
  exact List.map_congr_left fun key _ => NameOverrides.enumName_empty key

theorem memberNames_of_enumDecl (enums : List EnumEntry) (key : String) :
    (enumDecl .empty enums key).members.map (·.name) =
      (enums.filter (·.key = key)).map fun row => Text.memberCase row.label := by
  rw [enumDecl, List.map_map]
  exact List.map_congr_left fun row _ => NameOverrides.enumMember_empty key row.label

theorem Typing.typeOf_empty {t : Typing} (types : t.overrides = .empty) (column : Column) :
    t.typeOf column = pure (t.baseType column ++ suffixes column) := by
  rw [typeOf, types, OverrideMap.firstOpinion_empty]
  exact OverrideMap.lastOpinion_empty (ask column (t.baseType column ++ suffixes column)) _

theorem answer?_empty (call : Call) : answer? .empty .empty call = none := by
  unfold answer?
  cases call.category <;> rfl

/-- Declarations under the names that the catalog and the options give. -/
structure Document.DefaultNames (enums : List EnumEntry) (columns : List Column) (o : Options)
    (d : Document) : Prop where
  enums : d.enums = enumDecls .empty enums
  tables : d.tables.map (·.typeName) = (tableKeys columns).map TableKey.typeName
  registry : d.tablesEnumName = o.tablesEnumName
  mapName : d.tablesTypeName = o.tablesTypeName
  mapped : d.emitTableMap = o.emitTableMap

theorem OpenTables.typeNames_of_filed {typing : Typing} {columns : List Column} {tables : OpenTables}
    (filed : Filed .empty typing columns tables) :
    tables.map (·.2.typeName) = (tableKeys columns).map TableKey.typeName := by
  rw [tableKeys, ← filed.keys, List.map_map]
  apply List.map_congr_left
  intro entry member
  obtain ⟨first, found, named⟩ := (filed.declared entry member).named
  have key : first.tableKey = entry.1 := by simpa using List.find?_some found
  rw [NameOverrides.tableNames_empty] at named
  have names := (TableNames.mk.inj (Except.ok.inj named)).1
  rw [← names, key]
  rfl

/-- Without overrides the declarations are always there, and no resolver is called. -/
theorem Document.build_of_no_overrides {o : Options} (names : o.names = .empty)
    (types : o.types = .empty) (enums : List EnumEntry) (columns : List Column) :
    ∃ d, Document.build enums columns o = ⟨[], .ok d⟩ ∧ d.DefaultNames enums columns o := by
  -- Every call in the trace was answered by an entry of the maps, and these have none.
  have answered := Document.build_answered enums columns o
  have silent (call : Call) : o.answer? call = none := by
    rw [Options.answer?, names, types, answer?_empty]
  generalize built : Document.build enums columns o = consulted at answered
  cases answered with
  | failed calls call message all last => simp [silent] at last
  | ok calls d all =>
    have uncalled : calls = [] := by
      rw [List.eq_nil_iff_forall_not_mem]
      intro call member
      obtain ⟨opinion, said⟩ := all call member
      simp [silent] at said
    subst uncalled
    refine ⟨d, rfl, ?_⟩
    have result : (Document.build enums columns o).result = .ok d := by rw [built]
    obtain ⟨tables, filed, rfl⟩ := Document.build_filed result
    rw [names] at filed
    refine ⟨?_, ?_, rfl, rfl, rfl⟩
    · rw [Options.document, names]
    · rw [← OpenTables.typeNames_of_filed filed, Options.document, List.map_map]
      rfl

end SchemaTypes
