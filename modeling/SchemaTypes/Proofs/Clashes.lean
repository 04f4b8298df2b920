import SchemaTypes.Proofs.Defaults
import SchemaTypes.Proofs.Recovery
import SchemaTypes.Proofs.Relevance

/-! Identifiers that are declared twice. Names that the catalog keeps apart can be one name in Pascal
case, and nothing but the check of the options tells declarations apart: without overrides every
identifier is declared once exactly if Pascal case keeps the names of the catalog apart, from each
other and from the names for the tables. -/
namespace SchemaTypes

/-- The names under which the tables are listed. -/
def Options.listNames (o : Options) : List String :=
  o.tablesEnumName :: if o.emitTableMap then [o.tablesTypeName] else []

theorem Options.listNames_nodup {o : Options} (valid : o.validate = .ok ()) :
    o.listNames.Nodup := by
  unfold listNames
  split
  · next mapped =>
    have other : o.tablesEnumName ≠ o.tablesTypeName := by
      intro same
      simp [validate, mapped, same] at valid
      split at valid <;> simp at valid
    simpa using other
  · exact List.nodup_singleton _

/-- A block that declares a name, which stands in its first line without quotes. -/
def Declares (name block : String) : Prop :=
  ∃ closing lines, block = braced ("export enum " ++ name) closing lines ∨
    block = braced ("export type " ++ name ++ " =") closing lines

namespace Document

/-- The names of the map and of the record types. -/
def typeNames (d : Document) : List String :=
  if d.tables = [] then []
  else (if d.emitTableMap then [d.tablesTypeName] else []) ++ d.tables.map (·.typeName)

/-- The names of all declarations: of the enums with the registry, the map and the record types. -/
def declaredNames (d : Document) : List String := d.writtenEnums.map (·.name) ++ d.typeNames

/-- The declarations of the text declare these names, in this order. -/
theorem declares_declaredNames (d : Document) :
    List.Forall₂ Declares d.declaredNames d.declarations := by
  have enums : List.Forall₂ Declares (d.writtenEnums.map (·.name))
      (d.writtenEnums.map EnumDecl.render) := by
    rw [List.forall₂_map_left_iff, List.forall₂_map_right_iff, List.forall₂_same]
    exact fun x _ => ⟨_, _, .inl rfl⟩
  have records : List.Forall₂ Declares (d.tables.map (·.typeName))
      (d.tables.map TableDecl.render) := by
    rw [List.forall₂_map_left_iff, List.forall₂_map_right_iff, List.forall₂_same]
    exact fun t _ => ⟨_, _, .inr rfl⟩
  refine List.rel_append enums ?_
  unfold typeNames typeBlocks
  split
  · exact .nil
  · split
    · exact .cons ⟨_, _, .inr rfl⟩ records
    · exact records

/-- No two declarations have the same name, and no two members of one enum or of the registry. -/
structure Unambiguous (d : Document) : Prop where
  declarations : d.declaredNames.Nodup
  members : ∀ x ∈ d.writtenEnums, (x.members.map (·.name)).Nodup

end Document

/-- Pascal case keeps apart what the rows of a catalog keep apart: enums, the labels of one enum,
tables, an enum and a table, and all of them and the names under which the tables are listed, which
are there if there is a table. -/
structure NamesApart (o : Options) (enums : List EnumEntry) (columns : List Column) : Prop where
  ofEnums : ∀ a ∈ enums, ∀ b ∈ enums, Text.pascalCase a.key = Text.pascalCase b.key → a.key = b.key
  ofLabels : ∀ a ∈ enums, ∀ b ∈ enums, a.key = b.key →
    Text.memberCase a.label = Text.memberCase b.label → a.label = b.label
  ofTables : ∀ a ∈ columns, ∀ b ∈ columns,
    a.tableKey.typeName = b.tableKey.typeName → a.tableKey = b.tableKey
  crossed : ∀ a ∈ enums, ∀ b ∈ columns, Text.pascalCase a.key ≠ b.tableKey.typeName
  listed : columns ≠ [] → ∀ name ∈ o.listNames,
    (∀ a ∈ enums, Text.pascalCase a.key ≠ name) ∧ ∀ b ∈ columns, b.tableKey.typeName ≠ name

theorem nodup_map_keys_iff {rows : List α} {key : α → β} {keys : List β} (f : β → γ)
    (distinct : keys.Nodup) (all : ∀ k, k ∈ keys ↔ ∃ row ∈ rows, key row = k) :
    (keys.map f).Nodup ↔ ∀ a ∈ rows, ∀ b ∈ rows, f (key a) = f (key b) → key a = key b := by
  rw [List.nodup_map_iff_inj_on distinct]
  constructor
  · intro apart a inA b inB
    exact apart _ ((all _).mpr ⟨a, inA, rfl⟩) _ ((all _).mpr ⟨b, inB, rfl⟩)
  · intro apart k inK l inL
    obtain ⟨a, inA, rfl⟩ := (all k).mp inK
    obtain ⟨b, inB, rfl⟩ := (all l).mp inL
    exact apart a inA b inB

theorem enumNames_nodup_iff (enums : List EnumEntry) :
    ((enumKeys enums).map Text.pascalCase).Nodup ↔
      ∀ a ∈ enums, ∀ b ∈ enums, Text.pascalCase a.key = Text.pascalCase b.key → a.key = b.key :=
  nodup_map_keys_iff Text.pascalCase (eraseDups_nodup _) fun _ => mem_enumKeys

theorem tableTypeNames_nodup_iff (columns : List Column) :
    ((tableKeys columns).map TableKey.typeName).Nodup ↔ ∀ a ∈ columns, ∀ b ∈ columns,
      a.tableKey.typeName = b.tableKey.typeName → a.tableKey = b.tableKey :=
  nodup_map_keys_iff TableKey.typeName (eraseDups_nodup _) fun _ => mem_tableKeys

theorem labelNames_nodup_iff {enums : List EnumEntry} {key : String}
    (labels : ((enums.filter (·.key = key)).map (·.label)).Nodup) :
    ((enumDecl .empty enums key).members.map (·.name)).Nodup ↔
      ∀ a ∈ enums.filter (·.key = key), ∀ b ∈ enums.filter (·.key = key),
        Text.memberCase a.label = Text.memberCase b.label → a.label = b.label := by
  rw [← nodup_map_keys_iff Text.memberCase labels (by simp), memberNames_of_enumDecl, List.map_map]
  rfl

namespace Document.DefaultNames
variable {enums : List EnumEntry} {columns : List Column} {o : Options} {d : Document}

theorem tables_eq_nil (named : d.DefaultNames enums columns o) : d.tables = [] ↔ columns = [] := by
  rw [← tableKeys_eq_nil, ← List.map_eq_nil_iff (f := TableKey.typeName), ← named.tables,
    List.map_eq_nil_iff]

theorem enumNames (named : d.DefaultNames enums columns o) :
    d.enums.map (·.name) = (enumKeys enums).map Text.pascalCase := by
  rw [named.enums, enumNames_of_enumDecls]

theorem declaredNames (named : d.DefaultNames enums columns o) :
    d.declaredNames = (enumKeys enums).map Text.pascalCase ++
      if columns = [] then [] else o.listNames ++ (tableKeys columns).map TableKey.typeName := by
  rw [Document.declaredNames, Document.writtenEnums, Document.typeNames]
  simp only [named.tables_eq_nil]
  split
  · rw [named.enumNames]
  · rw [List.map_append, named.enumNames, named.tables, named.mapped, named.mapName]
    simp [Options.listNames, SchemaTypes.registry, named.registry]

theorem writtenEnums_nodup_iff (named : d.DefaultNames enums columns o) :
    (∀ x ∈ d.writtenEnums, (x.members.map (·.name)).Nodup) ↔
      (∀ key ∈ enumKeys enums, ((enumDecl .empty enums key).members.map (·.name)).Nodup) ∧
        ((tableKeys columns).map TableKey.typeName).Nodup := by
  have members : ((SchemaTypes.registry d.tablesEnumName d.tables).members.map (·.name)) =
      (tableKeys columns).map TableKey.typeName := by
    rw [← named.tables, SchemaTypes.registry, List.map_map]
    rfl
  rw [Document.writtenEnums]
  split
  · next empty =>
    have empty := tableKeys_eq_nil.mpr (named.tables_eq_nil.mp empty)
    simp [named.enums, enumDecls, empty]
  · simp [named.enums, enumDecls, or_imp, forall_and, members]

theorem declaredNames_nodup_iff (named : d.DefaultNames enums columns o)
    (ofLists : o.listNames.Nodup) (ofTables : ((tableKeys columns).map TableKey.typeName).Nodup) :
    d.declaredNames.Nodup ↔ ((enumKeys enums).map Text.pascalCase).Nodup ∧
      (∀ a ∈ enums, ∀ b ∈ columns, Text.pascalCase a.key ≠ b.tableKey.typeName) ∧
      (columns ≠ [] → ∀ name ∈ o.listNames,
        (∀ a ∈ enums, Text.pascalCase a.key ≠ name) ∧ ∀ b ∈ columns, b.tableKey.typeName ≠ name) := by
  rw [named.declaredNames]
  -- Without a column neither the registry nor the map is written, so their names clash with nothing.
  by_cases empty : columns = []
  · simp [empty]
  · have eachEnum (P : String → Prop) : (∀ name ∈ (enumKeys enums).map Text.pascalCase, P name) ↔
        ∀ a ∈ enums, P (Text.pascalCase a.key) := by
      simp [mem_enumKeys]
    have eachTable (P : String → Prop) :
        (∀ name ∈ (tableKeys columns).map TableKey.typeName, P name) ↔
          ∀ b ∈ columns, P b.tableKey.typeName := by
      simp [mem_tableKeys]
    rw [if_neg empty, imp_iff_right empty, List.nodup_append, List.nodup_append]
    simp only [List.mem_append, or_imp, forall_and, eachEnum, eachTable]
    constructor
    · rintro ⟨ofEnums, ⟨_, _, listTable⟩, enumList, enumTable⟩
      exact ⟨ofEnums, enumTable, fun name member a inside => enumList a inside name member,
        fun name member b inside => (listTable name member b inside).symm⟩
    · rintro ⟨ofEnums, enumTable, listEnum, listTable⟩
      exact ⟨ofEnums,
        ⟨ofLists, ofTables, fun name member b inside => (listTable name member b inside).symm⟩,
        fun a inside name member => listEnum name member a inside, enumTable⟩

theorem unambiguous_iff (named : d.DefaultNames enums columns o) (valid : o.validate = .ok ())
    (labels : ∀ key, ((enums.filter (·.key = key)).map (·.label)).Nodup) :
    d.Unambiguous ↔ NamesApart o enums columns := by
  have members : (∀ key ∈ enumKeys enums, ((enumDecl .empty enums key).members.map (·.name)).Nodup) ↔
      ∀ a ∈ enums, ∀ b ∈ enums, a.key = b.key →
        Text.memberCase a.label = Text.memberCase b.label → a.label = b.label := by
    simp only [labelNames_nodup_iff (labels _), List.mem_filter, decide_eq_true_eq, mem_enumKeys]
    constructor
    · intro apart a inA b inB sameKey
      exact apart a.key ⟨a, inA, rfl⟩ a ⟨inA, rfl⟩ b ⟨inB, sameKey.symm⟩
    · rintro apart key - a ⟨inA, keyA⟩ b ⟨inB, keyB⟩
      exact apart a inA b inB (keyA.trans keyB.symm)
  have ofLists := Options.listNames_nodup valid
  constructor
  · rintro ⟨declarations, written⟩
    obtain ⟨ofLabels, ofTables⟩ := named.writtenEnums_nodup_iff.mp written
    obtain ⟨ofEnums, crossed, listed⟩ :=
      (named.declaredNames_nodup_iff ofLists ofTables).mp declarations
    exact ⟨(enumNames_nodup_iff enums).mp ofEnums, members.mp ofLabels,
      (tableTypeNames_nodup_iff columns).mp ofTables, crossed, listed⟩
  · intro apart
    have ofEnums := (enumNames_nodup_iff enums).mpr apart.ofEnums
    have ofTables := (tableTypeNames_nodup_iff columns).mpr apart.ofTables
    have declarations := (named.declaredNames_nodup_iff ofLists ofTables).mpr
      ⟨ofEnums, apart.crossed, apart.listed⟩
    exact ⟨declarations, named.writtenEnums_nodup_iff.mpr ⟨members.mpr apart.ofLabels, ofTables⟩⟩

end Document.DefaultNames

theorem labels_nodup_of_all {enums : List EnumEntry} (all : (enums.map (·.label)).Nodup)
    (key : String) : ((enums.filter (·.key = key)).map (·.label)).Nodup :=
  all.sublist (List.filter_sublist.map _)

/-- Without overrides the declarations for the selected columns are there, and every identifier is
declared once exactly if Pascal case keeps the names of the catalog apart. That the two names for
the tables differ is no condition, since the options are checked. -/
theorem unambiguous_iff_names_apart {o : Options} {enums : List EnumEntry} (rows : List Column)
    (valid : o.validate = .ok ()) (names : o.names = .empty) (types : o.types = .empty)
    (labels : ∀ key, ((enums.filter (·.key = key)).map (·.label)).Nodup) :
    ∃ d, Document.build enums (o.selection.apply rows) o = ⟨[], .ok d⟩ ∧
      (d.Unambiguous ↔ NamesApart o enums (o.selection.apply rows)) := by
  obtain ⟨d, built, named⟩ :=
    Document.build_of_no_overrides names types enums (o.selection.apply rows)
  exact ⟨d, built, named.unambiguous_iff valid labels⟩

/-- An enum and a table of one name, told apart by the schema of the table. -/
theorem unambiguous_iff_mood_apart :
    let o : Options := { schema := .list ["public", "log"] }
    let enums : List EnumEntry := [⟨"mood", "sad"⟩, ⟨"mood", "happy"⟩]
    let rows : List Column := [⟨"log", "mood", "id", false, none, "integer", "int4"⟩,
      ⟨"secret", "mood", "id", false, none, "integer", "int4"⟩]
    o.validate = .ok () ∧ o.names = .empty ∧ o.types = .empty ∧
      (∀ key, ((enums.filter (·.key = key)).map (·.label)).Nodup) ∧
      ∃ d, Document.build enums (o.selection.apply rows) o = ⟨[], .ok d⟩ ∧
        (d.Unambiguous ↔ NamesApart o enums (o.selection.apply rows)) := by
  intro o enums rows
  have valid : o.validate = .ok () := by decide +kernel
  have labels := labels_nodup_of_all (by decide : (enums.map (·.label)).Nodup)
  exact ⟨valid, rfl, rfl, labels, unambiguous_iff_names_apart rows valid rfl rfl labels⟩

/-- An enum and a table with the same name in the default schema: `Status` is declared as an enum
and as a record type. -/
theorem status_declared_twice :
    let o : Options := {}
    let enums : List EnumEntry := [⟨"status", "on"⟩]
    let rows : List Column := [⟨"public", "status", "id", false, none, "integer", "int4"⟩]
    let d : Document := ⟨none, [⟨"Status", [⟨"On", "on"⟩]⟩], "Table", "Tables", true,
      [⟨"Status", "status", [⟨"id", "number"⟩]⟩], none⟩
    o.validate = .ok () ∧ o.names = .empty ∧ o.types = .empty ∧
      (∀ key, ((enums.filter (·.key = key)).map (·.label)).Nodup) ∧
      (rows.map fun c => (c.schema, c.table, c.name)).Nodup ∧
      (Document.build enums (o.selection.apply rows) o).result = .ok d ∧
      d.declaredNames = ["Status", "Table", "Tables", "Status"] ∧ ¬ d.Unambiguous := by
  intro o enums rows d
  have labels := labels_nodup_of_all (by decide : (enums.map (·.label)).Nodup)
  have declared : d.declaredNames = ["Status", "Table", "Tables", "Status"] := rfl
  have twice : ¬ d.Unambiguous := by
    intro unique
    have distinct := unique.declarations
    rw [declared] at distinct
    exact absurd distinct (by decide)
  have valid : o.validate = .ok () := by decide +kernel
  have built : (Document.build enums (o.selection.apply rows) o).result = .ok d := by decide +kernel
  exact ⟨valid, rfl, rfl, labels, by decide, built, declared, twice⟩

end SchemaTypes

