import SchemaTypes.Proofs.Declarations
import SchemaTypes.Proofs.Renaming

/-! Run time texts. A table of the default schema goes by its bare name, any other by its schema, a
dot and its name. Where no schema has a dot in its name, and no table of the default schema has one,
a run time text belongs to one table only, and the map of record types leads it to the record type
of this table, whatever the record types are called. -/
namespace SchemaTypes
namespace TableKey

/-- A dot in the run time text ends the schema, and without a schema there is none. -/
structure Separable (key : TableKey) : Prop where
  schema : '.' ∉ key.schema.toList
  table : key.schema = defaultSchema → '.' ∉ key.table.toList

variable {a b : TableKey}

theorem runtime_of_default (inDefault : a.schema = defaultSchema) : a.runtime = a.table :=
  if_pos inDefault

theorem toList_runtime (other : a.schema ≠ defaultSchema) :
    a.runtime.toList = a.schema.toList ++ '.' :: a.table.toList := by
  simp [runtime, other]

namespace Separable

theorem dot_mem_runtime_iff (separable : a.Separable) :
    '.' ∈ a.runtime.toList ↔ a.schema ≠ defaultSchema := by
  by_cases inDefault : a.schema = defaultSchema
  · simp [runtime_of_default inDefault, separable.table inDefault, inDefault]
  · simp [toList_runtime inDefault, inDefault]

theorem runtime_inj (first : a.Separable) (second : b.Separable) (same : a.runtime = b.runtime) :
    a = b := by
  have alike : a.schema = defaultSchema ↔ b.schema = defaultSchema := by
    rw [← not_iff_not, ← Ne, ← first.dot_mem_runtime_iff, same, second.dot_mem_runtime_iff]
  have parts : a.schema = b.schema ∧ a.table = b.table := by
    by_cases inDefault : a.schema = defaultSchema
    · have inDefaultToo := alike.mp inDefault
      rw [runtime_of_default inDefault, runtime_of_default inDefaultToo] at same
      exact ⟨inDefault.trans inDefaultToo.symm, same⟩
    · -- No schema has a dot, so both texts are cut at their first one.
      have chars := congrArg String.toList same
      rw [toList_runtime inDefault, toList_runtime (mt alike.mpr inDefault)] at chars
      obtain ⟨schema, table⟩ := append_cons_inj first.schema second.schema chars
      exact ⟨String.toList_inj.mp schema, String.toList_inj.mp table⟩
  cases a
  cases b
  simpa using parts

/-- A table of the default schema that has a dot in its name passes for one of another schema. -/
example : TableKey.runtime ⟨"public", "log.messages"⟩ = TableKey.runtime ⟨"log", "messages"⟩ := by
  decide

end Separable
end TableKey

/-- The entries of the map of record types: a run time text as it is quoted, and the name of the
record type. -/
def tableMap (tables : List TableDecl) : List (String × String) :=
  tables.map fun t => (Text.quote t.runtime, t.typeName)

theorem renderTableMap_eq (name : String) (tables : List TableDecl) :
    renderTableMap name tables = braced ("export type " ++ name ++ " =") ";"
      ((tableMap tables).map fun entry => entry.1 ++ ": " ++ entry.2 ++ ";") := by
  rw [renderTableMap, tableMap, List.map_map]
  rfl

theorem Text.quote_injective : Function.Injective Text.quote := by
  intro s t same
  exact (Text.quote_append_inj (a := []) (b := []) (by rw [same])).1

theorem tableMap_keys (tables : List TableDecl) :
    (tableMap tables).map (·.1) = (tables.map (·.runtime)).map Text.quote := by
  simp [tableMap]

theorem lookup_of_mem [DecidableEq α] {pairs : List (α × β)} (once : (pairs.map (·.1)).Nodup)
    {pair : α × β} (member : pair ∈ pairs) : pairs.lookup pair.1 = some pair.2 := by
  induction pairs with
  | nil => simp at member
  | cons first pairs ih =>
    rw [List.map_cons, List.nodup_cons] at once
    rcases List.mem_cons.mp member with rfl | later
    · rw [List.lookup_cons, beq_self_eq_true]
    · have other : pair.1 ≠ first.1 := by
        intro same
        exact once.1 (same ▸ List.mem_map_of_mem later)
      rw [List.lookup_cons, beq_eq_false_iff_ne.mpr other]
      exact ih once.2 later

section
variable {names : NameOverrides} {typing : Typing} {rows : List Column} {tables : OpenTables}

theorem Filed.runtimes (filed : Filed names typing rows tables) :
    (tables.map (·.2)).map (·.runtime) = (tableKeys rows).map TableKey.runtime := by
  rw [tableKeys, ← filed.keys, List.map_map, List.map_map]
  exact List.map_congr_left fun entry member => (filed.declared entry member).named.runtime

theorem runtimes_nodup (separable : ∀ c ∈ rows, c.tableKey.Separable) :
    ((tableKeys rows).map TableKey.runtime).Nodup := by
  refine (eraseDups_nodup _).map_on fun a inA b inB same => ?_
  obtain ⟨c, first, rfl⟩ := mem_tableKeys.mp inA
  obtain ⟨e, second, rfl⟩ := mem_tableKeys.mp inB
  exact (separable c first).runtime_inj (separable e second) same

end

/-- Where no schema has a dot in its name and no table of the default schema has one, the run time
texts of a document's tables are distinct: so are the values of the registry and the keys of the map,
as both are written. Every key of the map belongs to one table of the columns, and leads to the name
that this table's record type has from the first of its columns. -/
theorem runtimes_identify_tables {enums : List EnumEntry} {columns : List Column} {o : Options}
    {d : Document} (dotless : ∀ c ∈ columns, '.' ∉ c.schema.toList ∧
      (c.schema = "public" → '.' ∉ c.table.toList))
    (built : (Document.build enums columns o).result = .ok d) :
    (d.tables.map (·.runtime)).Nodup ∧
    (renderRegistry d.tablesEnumName d.tables = (registry d.tablesEnumName d.tables).render ∧
      ((registry d.tablesEnumName d.tables).members.map (·.value)).Nodup) ∧
    (renderTableMap d.tablesTypeName d.tables = braced ("export type " ++ d.tablesTypeName ++ " =")
        ";" ((tableMap d.tables).map fun entry => entry.1 ++ ": " ++ entry.2 ++ ";") ∧
      ((tableMap d.tables).map (·.1)).Nodup) ∧
    (∀ literal ∈ (tableMap d.tables).map (·.1),
      ∃! key, key ∈ tableKeys columns ∧ Text.quote key.runtime = literal) ∧
    List.Forall₂ (fun key t => TableOf o.names (o.typing enums) columns key t ∧
        (tableMap d.tables).lookup (Text.quote key.runtime) = some t.typeName)
      (tableKeys columns) d.tables := by
  obtain ⟨tables, filed, rfl⟩ := Document.build_filed built
  have separable : ∀ c ∈ columns, c.tableKey.Separable :=
    fun c member => ⟨(dotless c member).1, (dotless c member).2⟩
  have runtimes := filed.runtimes
  have distinct : ((tables.map (·.2)).map (·.runtime)).Nodup := by
    rw [runtimes]
    exact runtimes_nodup separable
  have keys : ((tableMap (tables.map (·.2))).map (·.1)).Nodup := by
    rw [tableMap_keys]
    exact distinct.map Text.quote_injective
  refine ⟨distinct, ⟨renderRegistry_eq _ _, ?_⟩, ⟨renderTableMap_eq _ _, keys⟩, ?_, ?_⟩
  · simpa [registry, Function.comp_def, Options.document] using distinct
  · intro literal member
    rw [Options.document, tableMap_keys, runtimes, List.map_map] at member
    obtain ⟨key, listed, rfl⟩ := List.mem_map.mp member
    refine ⟨key, ⟨listed, rfl⟩, ?_⟩
    -- The record types may share a name, so the owner is told by the run time text alone.
    rintro other ⟨listedToo, same⟩
    obtain ⟨c, first, rfl⟩ := mem_tableKeys.mp listedToo
    obtain ⟨e, second, rfl⟩ := mem_tableKeys.mp listed
    exact (separable c first).runtime_inj (separable e second) (Text.quote_injective same)
  · rw [tableKeys, ← filed.keys]
    simp only [Options.document, List.forall₂_map_left_iff, List.forall₂_map_right_iff,
      List.forall₂_same]
    intro entry member
    have table := filed.declared entry member
    refine ⟨table, ?_⟩
    have listed : (Text.quote entry.1.runtime, entry.2.typeName) ∈ tableMap (tables.map (·.2)) := by
      rw [← table.named.runtime]
      exact List.mem_map_of_mem (List.mem_map_of_mem member)
    exact lookup_of_mem keys listed

/-- Three tables whose texts are cut at different dots, and whose record types all go by one name. -/
theorem runtimes_identify_named_alike :
    let o : Options := { names := .ofLiterals [("*", "T")] }
    let one : Column := ⟨"log", "b.c", "x", false, none, "integer", "int4"⟩
    let two : Column := ⟨"public", "b", "x", false, none, "integer", "int4"⟩
    let three : Column := ⟨"b", "c", "x", false, none, "integer", "int4"⟩
    let d : Document := ⟨none, [], "Table", "Tables", true,
      [⟨"TT", "log.b.c", [⟨"T", "number"⟩]⟩, ⟨"TT", "b", [⟨"T", "number"⟩]⟩,
        ⟨"TT", "b.c", [⟨"T", "number"⟩]⟩], none⟩
    (∀ c ∈ [one, two, three], '.' ∉ c.schema.toList ∧ (c.schema = "public" → '.' ∉ c.table.toList)) ∧
    (Document.build [] [one, two, three] o).result = .ok d ∧
    (d.tables.map (·.runtime)).Nodup ∧
    tableMap d.tables = [("'log.b.c'", "TT"), ("'b'", "TT"), ("'b.c'", "TT")] ∧
    ∀ literal ∈ (tableMap d.tables).map (·.1),
      ∃! key, key ∈ tableKeys [one, two, three] ∧ Text.quote key.runtime = literal := by
  intro o one two three d
  have dotless : ∀ c ∈ [one, two, three],
      '.' ∉ c.schema.toList ∧ (c.schema = "public" → '.' ∉ c.table.toList) := by decide
  have built : (Document.build [] [one, two, three] o).result = .ok d := by decide +kernel
  obtain ⟨distinct, -, -, owner, -⟩ := runtimes_identify_tables dotless built
  exact ⟨dotless, built, distinct, by decide, owner⟩

end SchemaTypes
