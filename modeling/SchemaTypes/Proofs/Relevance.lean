import SchemaTypes.Document.Build

/-! Which overrides have a say. The declarations for some rows depend on the override maps only
through the keys that the rows name: what else the maps hold, and what they hold for a tier that is
off, is never looked at. -/
namespace SchemaTypes
namespace OverrideMap

theorem lookup_cons_eq_ite (key k : String) (entry : Entry ρ) (rest : List (String × Entry ρ)) :
    ((key, entry) :: rest).lookup k = if k = key then some entry else rest.lookup k := by
  rw [List.lookup_cons]
  by_cases same : k = key
  · simp [same]
  · simp [same, beq_eq_false_iff_ne.mpr same]

theorem lookup_insertSorted (key k : String) (entry : Entry ρ) (l : List (String × Entry ρ)) :
    (insertSorted key entry l).lookup k = if k = key then some entry else l.lookup k := by
  induction l with
  | nil => rw [insertSorted, lookup_cons_eq_ite]
  | cons first rest ih =>
    obtain ⟨other, old⟩ := first
    simp only [insertSorted]
    split
    · rw [lookup_cons_eq_ite]
    split
    · next equal =>
      subst equal
      rw [lookup_cons_eq_ite, lookup_cons_eq_ite]
      split <;> rfl
    · next differ =>
      rw [lookup_cons_eq_ite, lookup_cons_eq_ite, ih]
      by_cases same : k = key
      · simp [same, differ]
      · simp [same]

theorem get?_insert (map : OverrideMap ρ) (key : String) (entry : Entry ρ) (k : String) :
    (map.insert key entry).get? k = if k = key then some entry else map.get? k :=
  lookup_insertSorted key k entry map.entries

/-- Two maps with the same entries under some keys. -/
def AgreeOn (a b : OverrideMap ρ) (keys : List String) : Prop :=
  ∀ key ∈ keys, a.get? key = b.get? key

variable {a b : OverrideMap ρ} {keys : List String}

theorem AgreeOn.mono {fewer : List String} (agree : a.AgreeOn b keys) (within : fewer ⊆ keys) :
    a.AgreeOn b fewer := fun key member => agree key (within member)

theorem agreeOn_insert (map : OverrideMap ρ) {key : String} (entry : Entry ρ)
    (absent : key ∉ keys) : (map.insert key entry).AgreeOn map keys := by
  intro k member
  have other : k ≠ key := fun same => absent (same ▸ member)
  rw [get?_insert, if_neg other]

theorem AgreeOn.literal? (agree : a.AgreeOn b keys) {key : String} (member : key ∈ keys) :
    a.literal? key = b.literal? key := by
  rw [OverrideMap.literal?, OverrideMap.literal?, agree key member]

theorem AgreeOn.firstOpinion (agree : a.AgreeOn b keys)
    (ask : String → Entry ρ → Consult (Option String)) :
    a.firstOpinion ask keys = b.firstOpinion ask keys := by
  induction keys with
  | nil => rfl
  | cons key keys ih =>
    have later := ih (agree.mono (List.subset_cons_self key keys))
    simp only [OverrideMap.firstOpinion, agree key List.mem_cons_self, later]

theorem AgreeOn.lastOpinion (agree : a.AgreeOn b [wildcardKey])
    (ask : String → Entry ρ → Consult (Option String)) (text : String) :
    a.lastOpinion ask text = b.lastOpinion ask text := by
  rw [OverrideMap.lastOpinion, OverrideMap.lastOpinion, wildcard?, wildcard?,
    agree wildcardKey List.mem_cons_self]

end OverrideMap

open OverrideMap (wildcardKey)

/-- The keys of a column that names are looked up under: its schema and table, and its own ones. -/
def Column.nameKeys (c : Column) : List String := [c.schema, c.table, c.qualifiedName, c.name]

def EnumEntry.nameKeys (row : EnumEntry) : List String := [row.key, row.key ++ "." ++ row.label]

def nameKeys (enums : List EnumEntry) (columns : List Column) : List String :=
  wildcardKey :: columns.flatMap Column.nameKeys ++ enums.flatMap EnumEntry.nameKeys

/-- All keys that some columns look up in the overrides of types, under the tiers that are on. -/
def typeKeys (tiers : Tiers) (columns : List Column) : List String :=
  wildcardKey :: columns.flatMap tiers.keysFor

section
variable {names other : NameOverrides}

theorem NameOverrides.resolve_congr {column : Column} (wild : names.AgreeOn other [wildcardKey])
    (agree : names.AgreeOn other column.nameKeys) (category : NameCategory) :
    names.resolve column category = other.resolve column category := by
  have keys : keysFor column category ⊆ column.nameKeys := by
    cases category <;> simp [keysFor, Column.nameKeys]
  rw [resolve, resolve, (agree.mono keys).firstOpinion]
  congr 1
  funext chosen
  exact wild.lastOpinion _ _

theorem NameOverrides.tableNames_congr {column : Column} (wild : names.AgreeOn other [wildcardKey])
    (agree : names.AgreeOn other column.nameKeys) :
    names.tableNames column = other.tableNames column := by
  rw [tableNames, tableNames, resolve_congr wild agree, resolve_congr wild agree]

theorem enumName_congr {row : EnumEntry} (agree : names.AgreeOn other row.nameKeys) :
    names.enumName row.key = other.enumName row.key := by
  rw [NameOverrides.enumName, NameOverrides.enumName,
    agree.literal? (by simp [EnumEntry.nameKeys])]

theorem enumMember_congr {row : EnumEntry} (agree : names.AgreeOn other row.nameKeys) :
    names.enumMember row.key row.label = other.enumMember row.key row.label := by
  rw [NameOverrides.enumMember, NameOverrides.enumMember,
    agree.literal? (by simp [EnumEntry.nameKeys])]

theorem mem_enumKeys {rows : List EnumEntry} {key : String} :
    key ∈ enumKeys rows ↔ ∃ row ∈ rows, row.key = key := by
  simp [enumKeys]

theorem enumDecls_congr {rows : List EnumEntry}
    (agree : ∀ row ∈ rows, names.AgreeOn other row.nameKeys) :
    enumDecls names rows = enumDecls other rows := by
  apply List.map_congr_left
  intro key member
  obtain ⟨row, inside, rfl⟩ := mem_enumKeys.mp member
  have members : ∀ entry ∈ rows.filter (·.key = row.key),
      (⟨names.enumMember row.key entry.label, entry.label⟩ : EnumMember) =
        ⟨other.enumMember row.key entry.label, entry.label⟩ := by
    intro entry found
    obtain ⟨found, same⟩ := List.mem_filter.mp found
    rw [← of_decide_eq_true same, enumMember_congr (agree entry found)]
  rw [enumDecl, enumDecl, enumName_congr (agree row inside), List.map_congr_left members]

theorem enumNames_congr {rows : List EnumEntry}
    (agree : ∀ row ∈ rows, names.AgreeOn other row.nameKeys) :
    enumNames names rows = enumNames other rows := by
  apply List.map_congr_left
  intro key member
  obtain ⟨row, inside, rfl⟩ := mem_enumKeys.mp member
  rw [enumName_congr (agree row inside)]

end

section
variable {names other : NameOverrides} {typing : Typing} {types : TypeOverrides}

theorem Typing.typeOf_congr {column : Column} (wild : typing.overrides.AgreeOn types [wildcardKey])
    (agree : typing.overrides.AgreeOn types (typing.tiers.keysFor column)) :
    typing.typeOf column = { typing with overrides := types : Typing }.typeOf column := by
  have base : typing.baseType column =
      { typing with overrides := types : Typing }.baseType column := rfl
  rw [typeOf, typeOf, agree.firstOpinion, base]
  congr 1
  funext chosen
  exact wild.lastOpinion _ _

namespace OpenTables

theorem openFor_congr {column : Column} (wild : names.AgreeOn other [wildcardKey])
    (agree : names.AgreeOn other column.nameKeys) (tables : OpenTables) :
    openFor names tables column = openFor other tables column := by
  rw [openFor, openFor, NameOverrides.tableNames_congr wild agree]

theorem add_congr {column : Column} (wildName : names.AgreeOn other [wildcardKey])
    (wildType : typing.overrides.AgreeOn types [wildcardKey])
    (agreeName : names.AgreeOn other column.nameKeys)
    (agreeType : typing.overrides.AgreeOn types (typing.tiers.keysFor column))
    (tables : OpenTables) :
    add names typing tables column =
      add other { typing with overrides := types } tables column := by
  rw [add, add, openFor_congr wildName agreeName, NameOverrides.resolve_congr wildName agreeName,
    Typing.typeOf_congr wildType agreeType]

theorem addAll_congr {columns : List Column} (wildName : names.AgreeOn other [wildcardKey])
    (wildType : typing.overrides.AgreeOn types [wildcardKey])
    (agreeName : ∀ column ∈ columns, names.AgreeOn other column.nameKeys)
    (agreeType : ∀ column ∈ columns,
      typing.overrides.AgreeOn types (typing.tiers.keysFor column)) (tables : OpenTables) :
    addAll names typing tables columns =
      addAll other { typing with overrides := types } tables columns := by
  induction columns generalizing tables with
  | nil => rfl
  | cons column rest ih =>
    have later := ih (fun c member => agreeName c (List.mem_cons_of_mem column member))
      (fun c member => agreeType c (List.mem_cons_of_mem column member))
    rw [addAll, addAll, add_congr wildName wildType (agreeName column List.mem_cons_self)
      (agreeType column List.mem_cons_self)]
    congr 1
    funext added
    exact later added

end OpenTables
end

theorem Document.build_congr {enums : List EnumEntry} {columns : List Column} {o : Options}
    {names : NameOverrides} {types : TypeOverrides}
    (agreeName : o.names.AgreeOn names (nameKeys enums columns))
    (agreeType : o.types.AgreeOn types (typeKeys o.tiers columns)) :
    Document.build enums columns o =
      Document.build enums columns { o with names := names, types := types } := by
  have wildName : o.names.AgreeOn names [wildcardKey] :=
    agreeName.mono (by simp [nameKeys])
  have wildType : o.types.AgreeOn types [wildcardKey] :=
    agreeType.mono (by simp [typeKeys])
  have ofColumn : ∀ column ∈ columns, o.names.AgreeOn names column.nameKeys := by
    intro column member
    refine agreeName.mono fun key inside => ?_
    exact List.mem_append_left _ (List.mem_cons_of_mem _ (List.mem_flatMap.mpr ⟨column, member, inside⟩))
  have ofEnum : ∀ row ∈ enums, o.names.AgreeOn names row.nameKeys := by
    intro row member
    refine agreeName.mono fun key inside => ?_
    exact List.mem_append_right _ (List.mem_flatMap.mpr ⟨row, member, inside⟩)
  have ofType : ∀ column ∈ columns, o.types.AgreeOn types (o.tiers.keysFor column) := by
    intro column member
    refine agreeType.mono fun key inside => ?_
    exact List.mem_cons_of_mem _ (List.mem_flatMap.mpr ⟨column, member, inside⟩)
  have typing : o.typing enums = ⟨enumNames names enums, o.types, o.tiers⟩ := by
    rw [Options.typing, enumNames_congr ofEnum]
  rw [build, build, typing, OpenTables.addAll_congr wildName wildType ofColumn ofType,
    enumDecls_congr ofEnum]
  rfl

/-- Overrides that agree on the keys of the rows give the same declarations or the same failure,
with the same calls of resolvers. So an entry under any other key has no effect, and neither has one
under a key of a tier that is off. -/
theorem build_ignores_irrelevant_keys (enums : List EnumEntry) (columns : List Column) (o : Options) :
    (∀ (names : NameOverrides) (types : TypeOverrides),
      o.names.AgreeOn names (nameKeys enums columns) →
      o.types.AgreeOn types (typeKeys o.tiers columns) →
      Document.build enums columns o =
        Document.build enums columns { o with names := names, types := types }) ∧
    (∀ key entry, key ∉ nameKeys enums columns →
      Document.build enums columns { o with names := o.names.insert key entry } =
        Document.build enums columns o) ∧
    (∀ key entry, key ∉ typeKeys o.tiers columns →
      Document.build enums columns { o with types := o.types.insert key entry } =
        Document.build enums columns o) := by
  refine ⟨fun names types => Document.build_congr, ?_, ?_⟩
  · intro key entry absent
    exact Document.build_congr (OverrideMap.agreeOn_insert o.names entry absent) fun _ _ => rfl
  · intro key entry absent
    exact Document.build_congr (fun _ _ => rfl) (OverrideMap.agreeOn_insert o.types entry absent)

/-- A name for another table, and a type for the stored type of a column while stored types are
off. The name that the table itself has stays. -/
theorem build_ignores_other_table :
    let o : Options :=
      { names := OverrideMap.empty.withLiteral "user" "Account", tiers := ⟨true, true, false⟩ }
    let enums : List EnumEntry := [⟨"mood", "sad"⟩]
    let columns : List Column := [⟨"public", "user", "id", false, none, "integer", "int4"⟩]
    let names := o.names.withLiteral "users" "Person"
    let types := o.types.withLiteral "int4" "Id"
    "users" ∉ nameKeys enums columns ∧ "int4" ∉ typeKeys o.tiers columns ∧
      o.names.AgreeOn names (nameKeys enums columns) ∧
      o.types.AgreeOn types (typeKeys o.tiers columns) ∧
      Document.build enums columns o =
        Document.build enums columns { o with names := names, types := types } ∧
      Document.build enums columns { o with names := names } = Document.build enums columns o ∧
      Document.build enums columns { o with types := types } = Document.build enums columns o := by
  intro o enums columns names types
  have noTable : "users" ∉ nameKeys enums columns := by decide
  have noType : "int4" ∉ typeKeys o.tiers columns := by decide
  have agreeName : o.names.AgreeOn names (nameKeys enums columns) :=
    fun key member => (OverrideMap.agreeOn_insert o.names _ noTable key member).symm
  have agreeType : o.types.AgreeOn types (typeKeys o.tiers columns) :=
    fun key member => (OverrideMap.agreeOn_insert o.types _ noType key member).symm
  obtain ⟨both, name, type⟩ := build_ignores_irrelevant_keys enums columns o
  exact ⟨noTable, noType, agreeName, agreeType, both names types agreeName agreeType,
    name "users" _ noTable, type "int4" _ noType⟩

end SchemaTypes
