import SchemaTypes.Proofs.Clashes

/-! Names that are written as they are. Only the key of a field is quoted where it is no identifier.
All other names stand bare in the text, and what they come from is hardly checked: Pascal case gives
an identifier exactly if the first letter or digit of a name is a letter, and the names for the
tables are only kept from being blank. -/
namespace SchemaTypes

namespace Text

theorem spells_pascalCase {s : String} (ascii : Ascii s.toList) :
    Spells (pascalCase s).toList s.toList := by
  rw [pascalCase, String.toList_ofList]
  exact spells_pascalChars ascii

theorem spells_memberCase {label : String} (ascii : Ascii label.toList) :
    Spells (memberCase label).toList label.toList :=
  memberCase_eq_pascalCase label ▸ spells_pascalCase ascii

theorem isIdentifier_iff_of_spells {name : String} {s : List Char}
    (spells : Spells name.toList s) : isIdentifier name ↔ LeadsWithLetter s :=
  spells.isIdentifierChars_iff

end Text

/-- The text whose letters and digits make the name of a record type. -/
def TableKey.spelled (key : TableKey) : List Char :=
  if key.schema = defaultSchema then key.table.toList else key.schema.toList ++ key.table.toList

theorem TableKey.spells_typeName (key : TableKey) (schema : Text.Ascii key.schema.toList)
    (table : Text.Ascii key.table.toList) : Text.Spells key.typeName.toList key.spelled := by
  have tableCase := Text.spells_pascalCase table
  unfold typeName spelled
  split
  · exact tableCase
  · -- What is in Pascal case once is ASCII again, so the second time changes no letter either.
    have once := Text.spells_pascalCase schema
    have twice := (Text.spells_pascalCase once.ascii).trans once
    rw [String.toList_append]
    exact twice.append tableCase

/-- The names of all declarations, and of the members of the enums and the registry. -/
def Document.bareNames (d : Document) : List String :=
  d.declaredNames ++ d.writtenEnums.flatMap fun x => x.members.map (·.name)

/-- The names that go in Pascal case hold nothing beyond ASCII. -/
structure AsciiNames (enums : List EnumEntry) (columns : List Column) : Prop where
  keys : ∀ a ∈ enums, Text.Ascii a.key.toList
  labels : ∀ a ∈ enums, Text.Ascii a.label.toList
  schemas : ∀ c ∈ columns, Text.Ascii c.schema.toList
  tables : ∀ c ∈ columns, Text.Ascii c.table.toList

/-- The first letter or digit of every enum, label and table is a letter, and the names under which
the tables are listed are identifiers, if there is a table. -/
structure NamesLead (o : Options) (enums : List EnumEntry) (columns : List Column) : Prop where
  ofEnums : ∀ a ∈ enums, Text.LeadsWithLetter a.key.toList
  ofLabels : ∀ a ∈ enums, Text.LeadsWithLetter a.label.toList
  ofTables : ∀ c ∈ columns, Text.LeadsWithLetter c.tableKey.spelled
  listed : columns ≠ [] → ∀ name ∈ o.listNames, Text.isIdentifier name

namespace Document.DefaultNames
variable {enums : List EnumEntry} {columns : List Column} {o : Options} {d : Document}

theorem mem_declaredNames (named : d.DefaultNames enums columns o) {name : String} :
    name ∈ d.declaredNames ↔ (∃ a ∈ enums, Text.pascalCase a.key = name) ∨
      (columns ≠ [] ∧ name ∈ o.listNames) ∨ ∃ c ∈ columns, c.tableKey.typeName = name := by
  rw [named.declaredNames]
  by_cases empty : columns = []
  · simp [empty, mem_enumKeys]
  · simp [empty, mem_enumKeys, mem_tableKeys]

theorem mem_memberNames (named : d.DefaultNames enums columns o) {name : String} :
    (name ∈ d.writtenEnums.flatMap fun x => x.members.map (·.name)) ↔
      (∃ a ∈ enums, Text.memberCase a.label = name) ∨
        ∃ c ∈ columns, c.tableKey.typeName = name := by
  have labels : (name ∈ d.enums.flatMap fun x => x.members.map (·.name)) ↔
      ∃ a ∈ enums, Text.memberCase a.label = name := by
    rw [named.enums, enumDecls, List.flatMap_map]
    simp only [memberNames_of_enumDecl, List.mem_flatMap, List.mem_map, List.mem_filter,
      mem_enumKeys, decide_eq_true_eq]
    constructor
    · rintro ⟨key, _, a, ⟨inside, _⟩, rfl⟩
      exact ⟨a, inside, rfl⟩
    · rintro ⟨a, inside, rfl⟩
      exact ⟨a.key, ⟨a, inside, rfl⟩, a, ⟨inside, rfl⟩, rfl⟩
  have types : (name ∈ d.tables.map (·.typeName)) ↔ ∃ c ∈ columns, c.tableKey.typeName = name := by
    simp [named.tables, mem_tableKeys]
  rw [← labels, ← types, Document.writtenEnums]
  split
  · next empty => simp [empty]
  · simp [SchemaTypes.registry]

theorem mem_bareNames (named : d.DefaultNames enums columns o) {name : String} :
    name ∈ d.bareNames ↔ (∃ a ∈ enums, Text.pascalCase a.key = name) ∨
      (∃ a ∈ enums, Text.memberCase a.label = name) ∨
      (∃ c ∈ columns, c.tableKey.typeName = name) ∨ columns ≠ [] ∧ name ∈ o.listNames := by
  rw [Document.bareNames, List.mem_append, named.mem_declaredNames, named.mem_memberNames]
  constructor
  · rintro ((key | listed | table) | label | table)
    · exact .inl key
    · exact .inr (.inr (.inr listed))
    · exact .inr (.inr (.inl table))
    · exact .inr (.inl label)
    · exact .inr (.inr (.inl table))
  · rintro (key | label | table | listed)
    · exact .inl (.inl key)
    · exact .inr (.inl label)
    · exact .inr (.inr table)
    · exact .inl (.inr (.inl listed))

theorem identifiers_iff (named : d.DefaultNames enums columns o)
    (ascii : AsciiNames enums columns) :
    (∀ name ∈ d.bareNames, Text.isIdentifier name) ↔ NamesLead o enums columns := by
  have ofEnum {a : EnumEntry} (inside : a ∈ enums) :=
    Text.isIdentifier_iff_of_spells (Text.spells_pascalCase (ascii.keys a inside))
  have ofLabel {a : EnumEntry} (inside : a ∈ enums) :=
    Text.isIdentifier_iff_of_spells (Text.spells_memberCase (ascii.labels a inside))
  have ofTable {c : Column} (inside : c ∈ columns) :=
    Text.isIdentifier_iff_of_spells (TableKey.spells_typeName c.tableKey
      (ascii.schemas c inside) (ascii.tables c inside))
  simp only [named.mem_bareNames]
  constructor
  · intro valid
    refine ⟨fun a inside => ?_, fun a inside => ?_, fun c inside => ?_,
      fun selected name listed => ?_⟩
    · exact (ofEnum inside).mp (valid _ (.inl ⟨a, inside, rfl⟩))
    · exact (ofLabel inside).mp (valid _ (.inr (.inl ⟨a, inside, rfl⟩)))
    · exact (ofTable inside).mp (valid _ (.inr (.inr (.inl ⟨c, inside, rfl⟩))))
    · exact valid name (.inr (.inr (.inr ⟨selected, listed⟩)))
  · rintro lead name (⟨a, inside, rfl⟩ | ⟨a, inside, rfl⟩ | ⟨c, inside, rfl⟩ | ⟨selected, listed⟩)
    · exact (ofEnum inside).mpr (lead.ofEnums a inside)
    · exact (ofLabel inside).mpr (lead.ofLabels a inside)
    · exact (ofTable inside).mpr (lead.ofTables c inside)
    · exact lead.listed selected name listed

end Document.DefaultNames

/-- Without overrides the declarations for the selected columns are there, and whatever they write
bare is an identifier exactly if the names of the catalog start with a letter and the names under
which the tables are listed are identifiers. The check of the options sees to neither. -/
theorem identifiers_iff_names_lead {o : Options} {enums : List EnumEntry} (rows : List Column)
    (names : o.names = .empty) (types : o.types = .empty)
    (ascii : AsciiNames enums (o.selection.apply rows)) :
    ∃ d, Document.build enums (o.selection.apply rows) o = ⟨[], .ok d⟩ ∧
      ((∀ name ∈ d.bareNames, Text.isIdentifier name) ↔
        NamesLead o enums (o.selection.apply rows)) := by
  obtain ⟨d, built, named⟩ :=
    Document.build_of_no_overrides names types enums (o.selection.apply rows)
  exact ⟨d, built, named.identifiers_iff ascii⟩

/-- A table that is not selected may have any name, and one in another schema starts with the letter
of its schema. -/
theorem identifiers_iff_years_lead :
    let o : Options := { schema := .list ["public", "log"] }
    let enums : List EnumEntry := [⟨"log-level", "x.high"⟩]
    let rows : List Column := [⟨"log", "2024", "id", false, none, "integer", "int4"⟩,
      ⟨"secret", "größe", "id", false, none, "integer", "int4"⟩]
    o.names = .empty ∧ o.types = .empty ∧ AsciiNames enums (o.selection.apply rows) ∧
      ∃ d, Document.build enums (o.selection.apply rows) o = ⟨[], .ok d⟩ ∧
        ((∀ name ∈ d.bareNames, Text.isIdentifier name) ↔
          NamesLead o enums (o.selection.apply rows)) := by
  intro o enums rows
  have selected : o.selection.apply rows =
      [⟨"log", "2024", "id", false, none, "integer", "int4"⟩] := by decide +kernel
  have ascii : AsciiNames enums (o.selection.apply rows) := by
    rw [selected]
    exact ⟨by decide, by decide, by decide, by decide⟩
  exact ⟨rfl, rfl, ascii, identifiers_iff_names_lead rows rfl rfl ascii⟩

/-- A label that starts with a digit is written as it is. -/
theorem label_2xl_written_bare :
    let o : Options := {}
    let enums : List EnumEntry := [⟨"size", "2xl"⟩]
    let d : Document := ⟨none, [⟨"Size", [⟨"2xl", "2xl"⟩]⟩], "Table", "Tables", true, [], none⟩
    o.validate = .ok () ∧ o.names = .empty ∧ o.types = .empty ∧ AsciiNames enums [] ∧
      (Document.build enums (o.selection.apply []) o).result = .ok d ∧
      "2xl" ∈ d.bareNames ∧ Text.isIdentifier "2xl" = false ∧
      d.text = banner ++ "\nexport enum Size \x7b\n  2xl = '2xl',\n\x7d\n" := by
  intro o enums d
  have ascii : AsciiNames enums [] := ⟨by decide, by decide, by decide, by decide⟩
  have valid : o.validate = .ok () := by decide +kernel
  have built : (Document.build enums (o.selection.apply []) o).result = .ok d := by decide +kernel
  have written : d.text = banner ++ "\nexport enum Size \x7b\n  2xl = '2xl',\n\x7d\n" := by
    decide +kernel
  exact ⟨valid, rfl, rfl, ascii, built, by decide, by decide, written⟩

end SchemaTypes
