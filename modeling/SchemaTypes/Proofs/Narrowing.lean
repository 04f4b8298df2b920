import SchemaTypes.Proofs.Grouping

/-! Selecting fewer tables. Rows of one table are filed without a look at other tables, so the rows
of some tables open these tables with the same declarations as all rows do, and no failure comes up
that was not there before. -/
namespace SchemaTypes

/-- Whether the tables with this key are selected. -/
def Selection.allowsTable (s : Selection) (key : TableKey) : Bool :=
  key.schema ∈ s.includeSchemas && key.schema ∉ s.excludeSchemas && key.table ∉ s.excludeTables

theorem Selection.allows_eq (s : Selection) (c : Column) : s.allows c = s.allowsTable c.tableKey :=
  rfl

namespace OpenTables

/-- The open tables with a key that `keep` allows. -/
def kept (keep : TableKey → Bool) (tables : OpenTables) : OpenTables :=
  tables.filter fun entry => keep entry.1

variable {names : NameOverrides} {typing : Typing} {keep : TableKey → Bool}
  {tables opened added final : OpenTables} {column : Column}

theorem mem_keys_kept {key : TableKey} (chosen : keep key = true) :
    key ∈ (kept keep tables).map (·.1) ↔ key ∈ tables.map (·.1) := by
  simp [kept, chosen]

theorem openFor_of_mem (known : column.tableKey ∈ tables.map (·.1)) :
    openFor names tables column = pure tables := by
  rw [openFor, if_pos]
  simpa using known

theorem openFor_of_not_mem (new : column.tableKey ∉ tables.map (·.1)) {n : TableNames}
    (named : (names.tableNames column).result = .ok n) :
    (openFor names tables column).result =
      .ok (tables ++ [(column.tableKey, ⟨n.typeName, n.runtime, []⟩)]) := by
  have absent : ¬ tables.any (·.1 = column.tableKey) := by simpa using new
  rw [openFor, if_neg absent]
  exact Consult.bind_eq_ok.mpr ⟨n, named, rfl⟩

theorem add_of_openFor (opening : (openFor names tables column).result = .ok opened)
    {field : FieldDecl} (filed : FieldOf names typing column field) :
    (add names typing tables column).result = .ok (addField opened column.tableKey field) :=
  Consult.bind_eq_ok.mpr ⟨opened, opening, Consult.bind_eq_ok.mpr ⟨field.name, filed.name,
    Consult.bind_eq_ok.mpr ⟨field.expr, filed.expr, rfl⟩⟩⟩

theorem openFor_kept (chosen : keep column.tableKey = true)
    (ok : (openFor names tables column).result = .ok opened) :
    (openFor names (kept keep tables) column).result = .ok (kept keep opened) := by
  rcases openFor_eq_ok ok with ⟨known, rfl⟩ | ⟨new, n, named, rfl⟩
  · rw [openFor_of_mem ((mem_keys_kept chosen).mpr known)]
    rfl
  · rw [openFor_of_not_mem (mt (mem_keys_kept chosen).mp new) named]
    simp [kept, chosen]

theorem openFor_dropped (dropped : keep column.tableKey = false)
    (ok : (openFor names tables column).result = .ok opened) :
    kept keep opened = kept keep tables := by
  rcases openFor_eq_ok ok with ⟨_, rfl⟩ | ⟨_, n, _, rfl⟩
  · rfl
  · simp [kept, dropped]

theorem kept_addField (key : TableKey) (field : FieldDecl) :
    kept keep (addField tables key field) = addField (kept keep tables) key field := by
  rw [kept, addField, List.filter_map, addField, kept]
  congr 2
  funext entry
  simp only [Function.comp_apply]
  split <;> rfl

theorem addField_of_not_mem {key : TableKey} (absent : key ∉ tables.map (·.1)) (field : FieldDecl) :
    addField tables key field = tables := by
  refine (List.map_congr_left ?_).trans (List.map_id tables)
  rintro ⟨k, d⟩ member
  have other : k ≠ key := fun same => absent (same ▸ List.mem_map_of_mem member)
  exact if_neg other

theorem add_kept (chosen : keep column.tableKey = true)
    (ok : (add names typing tables column).result = .ok added) :
    (add names typing (kept keep tables) column).result = .ok (kept keep added) := by
  obtain ⟨opened, field, opening, filed, rfl⟩ := add_eq_ok ok
  rw [kept_addField]
  exact add_of_openFor (openFor_kept chosen opening) filed

theorem add_dropped (dropped : keep column.tableKey = false)
    (ok : (add names typing tables column).result = .ok added) :
    kept keep added = kept keep tables := by
  obtain ⟨opened, field, opening, _, rfl⟩ := add_eq_ok ok
  have absent : column.tableKey ∉ (kept keep opened).map (·.1) := by
    simp [kept, dropped]
  rw [kept_addField, addField_of_not_mem absent, openFor_dropped dropped opening]

variable (keep) in
/-- Filing the rows of the tables that are kept is filing all rows, seen at these tables. -/
theorem addAll_kept {columns : List Column}
    (ok : (addAll names typing tables columns).result = .ok final) :
    (addAll names typing (kept keep tables) (columns.filter (keep ·.tableKey))).result =
      .ok (kept keep final) := by
  induction columns generalizing tables with
  | nil =>
    obtain rfl := Except.ok.inj ok
    rfl
  | cons column rest ih =>
    obtain ⟨added, first, later⟩ := Consult.bind_eq_ok.mp ok
    cases chosen : keep column.tableKey with
    | true =>
      rw [List.filter_cons, if_pos chosen]
      exact Consult.bind_eq_ok.mpr ⟨_, add_kept chosen first, ih later⟩
    | false =>
      rw [List.filter_cons, chosen, if_neg Bool.false_ne_true, ← add_dropped chosen first]
      exact ih later

end OpenTables

theorem Selection.apply_of_fewer {f g : Selection} {columns : List Column}
    (fewer : ∀ c ∈ columns, f.allows c → g.allows c) :
    (g.apply columns).filter (f.allowsTable ·.tableKey) = f.apply columns := by
  rw [apply, apply, List.filter_filter]
  apply List.filter_congr
  intro c member
  rw [← f.allows_eq, Bool.and_eq_left_iff_imp]
  exact fewer c member

/-- Selecting fewer tables cannot make a document fail, and takes nothing from it but the tables
that are not selected any more: each table that is left is declared as before, in its order, and
enums and options stay. -/
theorem build_of_fewer_tables {enums : List EnumEntry} {columns : List Column} {o : Options}
    {f g : Selection} {d : Document} (fewer : ∀ c ∈ columns, f.allows c → g.allows c)
    (built : (Document.build enums (g.apply columns) o).result = .ok d) :
    let keys := tableKeys (g.apply columns)
    List.Forall₂ (TableOf o.names (o.typing enums) (g.apply columns)) keys d.tables ∧
    (Document.build enums (f.apply columns) o).result =
      .ok { d with tables := ((keys.zip d.tables).filter (f.allowsTable ·.1)).map (·.2) } := by
  intro keys
  obtain ⟨tables, ok, rfl⟩ := Document.build_eq_ok_iff.mp built
  have filed := OpenTables.filed_of_addAll ok
  have pairs : keys.zip (o.document enums tables).tables = tables := by
    have listed : keys = tables.map (·.1) := filed.keys.symm
    rw [listed, Options.document, List.zip_map', List.map_id']
  have narrowed := OpenTables.addAll_kept f.allowsTable ok
  rw [Selection.apply_of_fewer fewer] at narrowed
  refine ⟨filed.forall₂, ?_⟩
  rw [pairs]
  exact Document.build_eq_ok_iff.mpr ⟨_, narrowed, rfl⟩

/-- A schema less and one table excluded, whose rows stand between those of the table that is left;
a resolver has a say in every name. -/
theorem build_of_fewer_tables_user :
    let id : Column := ⟨"public", "user", "id", false, none, "integer", "int4"⟩
    let body : Column := ⟨"log", "messages", "body", true, none, "text", "text"⟩
    let run : Column := ⟨"public", "migrations", "run", false, none, "integer", "int4"⟩
    let mood : Column := ⟨"public", "user", "mood", false, none, "USER-DEFINED", "mood"⟩
    let columns := [id, body, run, mood]
    let enums : List EnumEntry := [⟨"mood", "sad"⟩]
    let o : Options :=
      { names := OverrideMap.empty.insert "*" (.resolver fun _ _ text => .ok (some (text ++ "_"))) }
    let f : Selection := ⟨["public"], [], ["migrations"]⟩
    let g : Selection := ⟨["public", "log"], [], []⟩
    let user : TableDecl := ⟨"PublicUser_", "user", [⟨"id_", "number"⟩, ⟨"mood_", "Mood"⟩]⟩
    let d : Document := ⟨none, [⟨"Mood", [⟨"Sad", "sad"⟩]⟩], "Table", "Tables", true,
      [user, ⟨"LogMessages_", "log.messages", [⟨"body_", "string | null"⟩]⟩,
        ⟨"PublicMigrations_", "migrations", [⟨"run_", "number"⟩]⟩], none⟩
    (∀ c ∈ columns, f.allows c → g.allows c) ∧
      (Document.build enums (g.apply columns) o).result = .ok d ∧
      List.Forall₂ (TableOf o.names (o.typing enums) (g.apply columns))
        (tableKeys (g.apply columns)) d.tables ∧
      (Document.build enums (f.apply columns) o).result = .ok { d with tables := [user] } := by
  intro id body run mood columns enums o f g user d
  have fewer : ∀ c ∈ columns, f.allows c → g.allows c := by decide
  have built : (Document.build enums (g.apply columns) o).result = .ok d := by decide +kernel
  obtain ⟨before, after⟩ := build_of_fewer_tables fewer built
  have rest : ((tableKeys (g.apply columns)).zip d.tables).filter (f.allowsTable ·.1) =
      [(⟨"public", "user"⟩, user)] := by decide +kernel
  rw [rest] at after
  exact ⟨fewer, built, before, after⟩

end SchemaTypes
