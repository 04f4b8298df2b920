import SchemaTypes.Proofs.Declarations

/-! A written document determines what it declares. Enums and record types open differently, the
registry is the last of the enums, and the map is there exactly if there is one record type more
than the registry has members. -/
namespace SchemaTypes.Document
variable {d e : Document}

/-- A document without text of the user, whose names are identifiers and whose field types keep to
their lines. Names that are not written may be anything. -/
structure Plain (d : Document) : Prop where
  noPrefix : userBlock d.prefixText = []
  noSuffix : userBlock d.suffixText = []
  enums : ∀ x ∈ d.enums, x.Plain
  tables : ∀ t ∈ d.tables, t.Plain
  registryName : d.tables ≠ [] → Text.isIdentifier d.tablesEnumName
  mapName : d.tables ≠ [] → d.emitTableMap = true → Text.isIdentifier d.tablesTypeName

/-- A document whose written names and field types keep to their lines. -/
structure Unbroken (d : Document) : Prop where
  enums : ∀ x ∈ d.enums, x.Unbroken
  tables : ∀ t ∈ d.tables, t.Unbroken
  registryName : d.tables ≠ [] → OneLine d.tablesEnumName
  mapName : d.tables ≠ [] → d.emitTableMap = true → OneLine d.tablesTypeName

theorem Plain.unbroken (plain : d.Plain) : d.Unbroken where
  enums x member := (plain.enums x member).unbroken
  tables t member := (plain.tables t member).unbroken
  registryName filled := oneLine_of_isIdentifier (plain.registryName filled)
  mapName filled map := oneLine_of_isIdentifier (plain.mapName filled map)

/-- Two documents with the same declarations. -/
structure Agree (d e : Document) : Prop where
  enums : d.enums = e.enums
  tables : d.tables = e.tables
  registryName : d.tables ≠ [] → d.tablesEnumName = e.tablesEnumName
  emitTableMap : d.tables ≠ [] → d.emitTableMap = e.emitTableMap
  mapName : d.tables ≠ [] → d.emitTableMap = true → d.tablesTypeName = e.tablesTypeName

def writtenEnums (d : Document) : List EnumDecl :=
  if d.tables = [] then d.enums else d.enums ++ [registry d.tablesEnumName d.tables]

def typeBlocks (d : Document) : List String :=
  if d.tables = [] then []
  else if d.emitTableMap then
    renderTableMap d.tablesTypeName d.tables :: d.tables.map TableDecl.render
  else d.tables.map TableDecl.render

def declarations (d : Document) : List String :=
  d.writtenEnums.map EnumDecl.render ++ d.typeBlocks

theorem blocks_eq_declarations (d : Document) : d.blocks =
    banner :: userBlock d.prefixText ++ d.declarations ++ userBlock d.suffixText := by
  rw [blocks, tableBlocks, declarations, writtenEnums, typeBlocks]
  by_cases empty : d.tables = []
  · simp [empty]
  · cases map : d.emitTableMap <;> simp [empty, renderRegistry_eq]

theorem Plain.blocks (plain : d.Plain) : d.blocks = banner :: d.declarations := by
  rw [blocks_eq_declarations, plain.noPrefix, plain.noSuffix, List.append_nil]
  rfl

theorem mem_writtenEnums {x : EnumDecl} (member : x ∈ d.writtenEnums) :
    x ∈ d.enums ∨ (d.tables ≠ [] ∧ x = registry d.tablesEnumName d.tables) := by
  unfold writtenEnums at member
  split at member
  · exact .inl member
  · next filled =>
    rcases List.mem_append.mp member with member | last
    · exact .inl member
    · exact .inr ⟨filled, List.mem_singleton.mp last⟩

theorem Plain.writtenEnums (plain : d.Plain) : ∀ x ∈ d.writtenEnums, x.Plain := by
  intro x member
  rcases mem_writtenEnums member with inside | ⟨filled, rfl⟩
  · exact plain.enums x inside
  · exact registry_plain (plain.registryName filled) plain.tables

theorem Unbroken.writtenEnums (unbroken : d.Unbroken) : ∀ x ∈ d.writtenEnums, x.Unbroken := by
  intro x member
  rcases mem_writtenEnums member with inside | ⟨filled, rfl⟩
  · exact unbroken.enums x inside
  · exact registry_unbroken (unbroken.registryName filled) unbroken.tables

theorem Unbroken.typeBlocks (unbroken : d.Unbroken) : ∀ block ∈ d.typeBlocks, Regular block := by
  have records : ∀ block ∈ d.tables.map TableDecl.render, Regular block := by
    simpa using fun t member => (unbroken.tables t member).regular
  unfold Document.typeBlocks
  split
  · simp
  · next filled =>
    split
    · next map =>
      intro block member
      rcases List.mem_cons.mp member with rfl | later
      · exact renderTableMap_regular (unbroken.mapName filled map) unbroken.tables
      · exact records block later
    · exact records

theorem Unbroken.regular (unbroken : d.Unbroken) : ∀ block ∈ d.declarations, Regular block := by
  intro block member
  rcases List.mem_append.mp member with enum | type
  · obtain ⟨x, inside, rfl⟩ := List.mem_map.mp enum
    exact (unbroken.writtenEnums x inside).regular
  · exact unbroken.typeBlocks block type

theorem declarations_of_text (first : d.Plain) (second : e.Plain) (same : d.text = e.text) :
    d.declarations = e.declarations := by
  have texts : blocksText d.blocks = blocksText e.blocks := same
  rw [first.blocks, second.blocks] at texts
  rcases blocksText_cons_inj texts with ⟨noneD, noneE⟩ | ⟨someD, someE, rest⟩
  · rw [noneD, noneE]
  · exact blocksText_inj someD someE first.unbroken.regular second.unbroken.regular rest

def opensEnum (block : String) : Bool := "export enum ".toList.isPrefixOf block.toList

theorem opensEnum_render (x : EnumDecl) : opensEnum x.render = true := by
  simp [opensEnum, EnumDecl.render, braced]

theorem not_opensEnum_typeBlocks (d : Document) : ∀ block ∈ d.typeBlocks, opensEnum block = false := by
  have map : opensEnum (renderTableMap d.tablesTypeName d.tables) = false := by
    simp [opensEnum, renderTableMap, braced, List.isPrefixOf]
  have records (t : TableDecl) : opensEnum t.render = false := by
    simp [opensEnum, TableDecl.render, braced, List.isPrefixOf]
  unfold typeBlocks
  split
  · simp
  · split <;> simp [map, records]

theorem filter_declarations (d : Document) :
    d.declarations.filter opensEnum = d.writtenEnums.map EnumDecl.render := by
  rw [declarations, List.filter_append, List.filter_eq_self.mpr (by simp [opensEnum_render]),
    List.filter_eq_nil_iff.mpr (by simpa using not_opensEnum_typeBlocks d), List.append_nil]

theorem written_of_declarations (first : d.Plain) (second : e.Plain)
    (same : d.declarations = e.declarations) :
    d.writtenEnums = e.writtenEnums ∧ d.typeBlocks = e.typeBlocks := by
  have enums := congrArg (List.filter opensEnum) same
  rw [filter_declarations, filter_declarations] at enums
  refine ⟨map_inj_on EnumDecl.render_inj first.writtenEnums second.writtenEnums enums, ?_⟩
  rw [declarations, declarations, enums] at same
  exact List.append_cancel_left same

theorem typeBlocks_length (filled : d.tables ≠ []) :
    d.typeBlocks.length = d.tables.length + if d.emitTableMap then 1 else 0 := by
  rw [typeBlocks, if_neg filled]
  split <;> simp

theorem typeBlocks_eq_nil : d.typeBlocks = [] ↔ d.tables = [] := by
  unfold typeBlocks
  split
  · next empty => simp [empty]
  · next filled => split <;> simp [filled]

theorem emitTableMap_of_blocks (filled : d.tables ≠ []) (filledToo : e.tables ≠ [])
    (sizes : d.tables.length = e.tables.length) (types : d.typeBlocks = e.typeBlocks) :
    d.emitTableMap = e.emitTableMap := by
  have total := congrArg List.length types
  rw [typeBlocks_length filled, typeBlocks_length filledToo, sizes] at total
  cases left : d.emitTableMap <;> cases right : e.emitTableMap <;> simp [left, right] at total ⊢

/-- The registry has the names of the tables, and the record types have their fields. -/
theorem tables_of_blocks {a b : List TableDecl} (plainA : ∀ t ∈ a, t.Plain)
    (plainB : ∀ t ∈ b, t.Plain) (listed : registry name a = registry other b)
    (records : a.map TableDecl.render = b.map TableDecl.render) : a = b := by
  have members := (EnumDecl.mk.inj listed).2
  have both : a.map (fun t => (EnumMember.mk t.typeName t.runtime, t.render)) =
      b.map (fun t => (EnumMember.mk t.typeName t.runtime, t.render)) := by
    rw [← List.zip_map', ← List.zip_map', members, records]
  refine map_inj_on ?_ plainA plainB both
  intro t u first second same
  obtain ⟨member, block⟩ := Prod.mk.inj same
  obtain ⟨typeName, runtime⟩ := EnumMember.mk.inj member
  obtain ⟨_, fields⟩ := TableDecl.render_inj first second block
  cases t
  cases u
  simp_all

theorem agree_of_declarations (first : d.Plain) (second : e.Plain)
    (same : d.declarations = e.declarations) : Agree d e := by
  obtain ⟨enums, types⟩ := written_of_declarations first second same
  have empty : d.tables = [] ↔ e.tables = [] := by
    rw [← typeBlocks_eq_nil, types, typeBlocks_eq_nil]
  by_cases tableless : d.tables = []
  · have tablelessToo := empty.mp tableless
    simp only [writtenEnums, tableless, tablelessToo, if_true] at enums
    exact ⟨enums, tableless.trans tablelessToo.symm, fun filled => absurd tableless filled,
      fun filled => absurd tableless filled, fun filled => absurd tableless filled⟩
  · have filledToo : e.tables ≠ [] := fun tablelessToo => tableless (empty.mpr tablelessToo)
    simp only [writtenEnums, tableless, filledToo, if_false] at enums
    obtain ⟨enums, last⟩ := List.append_inj' enums rfl
    have listed := (List.cons.inj last).1
    have registryName : d.tablesEnumName = e.tablesEnumName := (EnumDecl.mk.inj listed).1
    have sizes : d.tables.length = e.tables.length := by
      simpa [registry] using congrArg (fun x => x.members.length) listed
    have map := emitTableMap_of_blocks tableless filledToo sizes types
    simp only [typeBlocks, tableless, filledToo, if_false, ← map] at types
    cases written : d.emitTableMap with
    | false =>
      simp only [written, Bool.false_eq_true, if_false] at types
      have tables := tables_of_blocks first.tables second.tables listed types
      exact ⟨enums, tables, fun _ => registryName, fun _ => map, fun _ on => by simp [written] at on⟩
    | true =>
      simp only [written, if_true] at types
      obtain ⟨block, records⟩ := List.cons.inj types
      have tables := tables_of_blocks first.tables second.tables listed records
      have mapName := renderTableMap_name (first.unbroken.mapName tableless written)
        first.unbroken.tables (second.unbroken.mapName filledToo (map ▸ written))
        second.unbroken.tables block
      exact ⟨enums, tables, fun _ => registryName, fun _ => map, fun _ _ => mapName⟩

/-- Two documents whose files are the same have the same declarations, whatever their outputs do
with the writes. -/
theorem agree_of_accepted (sink : Sink σ) (other : Sink τ) (never : sink.NeverFails)
    (neverOther : other.NeverFails) (output : σ) (outputOther : τ) {d e : Document}
    (first : d.Plain) (second : e.Plain)
    (same : acceptedBytes (Emitter.document sink d (.start output)).effects =
      acceptedBytes (Emitter.document other e (.start outputOther)).effects) : Agree d e := by
  rw [Emitter.document_whole sink never, Emitter.document_whole other neverOther] at same
  exact agree_of_declarations first second (declarations_of_text first second (utf8_injective same))

/-- The name of a map that is not written may differ, and one output may take byte by byte what the
other takes at once. -/
theorem agree_of_accepted_unmapped :
    let slow : Sink Unit := { Sink.reliable with write := fun s _ => (.ok 1, s) }
    let d : Document := ⟨none, [⟨"Mood", [⟨"Sad", "it's\n\\"⟩]⟩], "Table", "Tables", false,
      [⟨"User", "users", [⟨"first name", "string"⟩, ⟨"id", "'a' | 'b'"⟩]⟩], some ""⟩
    let e : Document := { d with tablesTypeName := "no name" }
    Sink.reliable.NeverFails ∧ slow.NeverFails ∧ d.Plain ∧ e.Plain ∧
      acceptedBytes (Emitter.document Sink.reliable d (.start ())).effects =
        acceptedBytes (Emitter.document slow e (.start ())).effects ∧
      Agree d e := by
  intro slow d e
  have never : slow.NeverFails := ⟨fun s bytes offered => ⟨0, s, rfl⟩, fun s => rfl⟩
  have plain (name : String) : Plain { d with tablesTypeName := name } := by
    have table : Text.isIdentifier "Table" := by decide
    refine ⟨rfl, rfl, ?_, ?_, fun _ => table, fun _ mapped => by simp [d] at mapped⟩
    · simp only [d, List.mem_singleton, forall_eq]
      exact ⟨by decide, by decide⟩
    · simp only [d, List.mem_singleton, forall_eq]
      exact ⟨by decide, by decide⟩
  have same : acceptedBytes (Emitter.document Sink.reliable d (.start ())).effects =
      acceptedBytes (Emitter.document slow e (.start ())).effects := by
    rw [Emitter.document_whole _ Sink.reliable_neverFails, Emitter.document_whole _ never]
    rfl
  exact ⟨Sink.reliable_neverFails, never, plain _, plain _, same,
    agree_of_accepted _ _ Sink.reliable_neverFails never () () (plain _) (plain _) same⟩

end SchemaTypes.Document
