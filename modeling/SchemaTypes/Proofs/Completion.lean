import SchemaTypes.Proofs.Grouping
import SchemaTypes.Proofs.Release

/-! Generations that come to their end. They do exactly if the options are valid and the selected
columns resolve, where the catalog and the output do not fail; and what they report is what they
have written: the enums, the tables and the fields of the document, and so many blocks. -/
namespace SchemaTypes

/-- A catalog that answers both calls and closes. -/
structure Catalog.Answers (catalog : Catalog) (s : Selection) (enums : List EnumEntry)
    (rows : List Column) : Prop where
  enums : catalog.enums = .ok enums
  columns : catalog.columns s = .ok rows
  close : catalog.close = .ok ()

/-- An output that does not fail when it is shut down either. -/
structure Sink.Faultless (sink : Sink σ) : Prop extends sink.NeverFails where
  shutdown : ∀ s, (sink.shutdown s).1 = .ok ()

theorem Sink.reliable_faultless : Sink.reliable.Faultless where
  toNeverFails := reliable_neverFails
  shutdown _ := rfl

section
variable {catalog : Catalog} {sink : Sink σ} {options : Options} {s : σ}

theorem firstFailure_eq_ok {passed : Except Error Report} {shut close : Except Error Unit}
    {report : Report} : Generation.firstFailure passed shut close = .ok report ↔
      passed = .ok report ∧ shut = .ok () ∧ close = .ok () := by
  cases passed <;> cases shut <;> cases close <;> simp [Generation.firstFailure]

theorem Generation.PassTrace.reported {effects : List Effect} {report : Report} {last : σ}
    (trace : PassTrace catalog sink options s effects (.ok report) last) :
    ∃ columns calls d, Prepared catalog options columns calls d ∧
      acceptedBytes effects = utf8 d.text ∧
      report = ⟨d.enums.length, d.tables.length, columns.length⟩ := by
  cases trace with
  | finished ready sent =>
    exact ⟨_, _, _, ready, by simpa [queries, Effect.accepted] using sent.whole.mp rfl, rfl⟩

theorem generate_reported {report : Report}
    (ok : (generate catalog sink options s).result = .ok report) :
    ∃ columns calls d, Generation.Prepared catalog options columns calls d ∧
      acceptedBytes (generate catalog sink options s).effects = utf8 d.text ∧
      report = ⟨d.enums.length, d.tables.length, columns.length⟩ := by
  rw [generate_result, firstFailure_eq_ok] at ok
  have trace := Generation.pass_trace catalog sink options s
  rw [ok.1] at trace
  obtain ⟨columns, calls, d, ready, written, counted⟩ := trace.reported
  refine ⟨columns, calls, d, ready, ?_, counted⟩
  simpa [generate_effects, Effect.accepted] using written

theorem generate_ok {enums : List EnumEntry} {rows : List Column} {d : Document}
    (answers : catalog.Answers options.selection enums rows) (faultless : sink.Faultless)
    (valid : options.validate = .ok ())
    (built : (Document.build enums (options.selection.apply rows) options).result = .ok d) (s : σ) :
    (generate catalog sink options s).result =
      .ok ⟨d.enums.length, d.tables.length, (options.selection.apply rows).length⟩ := by
  have emitted : (Generation.emit sink d s).result = .ok () :=
    Emitter.document_ok sink faultless.toNeverFails d (.start s)
  have all : Document.build enums (options.selection.apply rows) options =
      ⟨(Document.build enums (options.selection.apply rows) options).calls, .ok d⟩ := by
    rw [← built]
  rw [generate_result, firstFailure_eq_ok]
  refine ⟨?_, ?_, answers.close⟩
  · rw [Generation.pass_of_document valid answers.enums answers.columns all, Outcome.result_after,
      Outcome.result_map, emitted]
    rfl
  · rw [faultless.shutdown, mapError_ok]

end

namespace Document

theorem userBlock_length (text : Option String) :
    (userBlock text).length = if text.getD "" = "" then 0 else 1 := by
  cases text with
  | none => rfl
  | some text => by_cases empty : text = "" <;> simp [userBlock, empty]

theorem tableBlocks_length (d : Document) : d.tableBlocks.length =
    if d.tables.length = 0 then 0 else 1 + (if d.emitTableMap then 1 else 0) + d.tables.length := by
  by_cases empty : d.tables = []
  · simp [tableBlocks, empty]
  · have filled : d.tables.length ≠ 0 := by simpa using empty
    rw [if_neg filled, tableBlocks, if_neg (by simpa using empty)]
    cases d.emitTableMap <;> simp <;> omega

theorem blocks_length (d : Document) : d.blocks.length =
    1 + (if d.prefixText.getD "" = "" then 0 else 1) + d.enums.length +
      (if d.tables.length = 0 then 0
        else 1 + (if d.emitTableMap then 1 else 0) + d.tables.length) +
      (if d.suffixText.getD "" = "" then 0 else 1) := by
  rw [← tableBlocks_length, ← userBlock_length, ← userBlock_length, blocks]
  simp only [List.length_append, List.length_cons, List.length_map]
  omega

theorem enumDecls_length (names : NameOverrides) (enums : List EnumEntry) :
    (enumDecls names enums).length = (enums.map (·.key)).toFinset.card := by
  rw [enumDecls, List.length_map, enumKeys, length_eraseDups]

end Document

theorem Emitter.allBlocks_counted {sink : Sink σ} (never : sink.NeverFails) (blocks : List String)
    (e : Emitter σ) : (allBlocks sink blocks e).state.blocks = e.blocks + blocks.length := by
  induction blocks generalizing e with
  | nil => rfl
  | cons text rest ih =>
    have done := block_ok sink never text e
    have counted : (block sink text e).state.blocks = e.blocks + 1 := by
      rcases block_blocks sink text e with ⟨fault, failed, -⟩ | ⟨-, counted⟩
      · simp [done] at failed
      · exact counted
    rw [allBlocks, Action.bind_of_ok done, Outcome.state_after, ih, counted, List.length_cons]
    omega

/-- Where the catalog and the output do not fail, a generation ends well exactly if the options are
valid and the selected columns resolve. It then reports the distinct enums of the catalog, and the
distinct tables and the number of the columns that are selected, which is the number of all fields;
the whole document is written, and the emitter has counted as many blocks as these numbers say. -/
theorem generate_counts {catalog : Catalog} {sink : Sink σ} {options : Options}
    {enums : List EnumEntry} {rows : List Column}
    (answers : catalog.Answers options.selection enums rows) (faultless : sink.Faultless) (s : σ) :
    let o := generate catalog sink options s
    let selected := rows.filter options.selection.allows
    ((∃ report, o.result = .ok report) ↔ options.validate = .ok () ∧
      ∃ d, (Document.build enums selected options).result = .ok d) ∧
    ∀ report, o.result = .ok report → ∃ d,
      (Document.build enums selected options).result = .ok d ∧
      report.enums = (enums.map (·.key)).toFinset.card ∧
      report.tables = (selected.map Column.tableKey).toFinset.card ∧
      report.columns = selected.length ∧
      report.columns = (d.tables.map (·.fields.length)).sum ∧
      acceptedBytes o.effects = utf8 d.text ∧
      (Emitter.document sink d (.start s)).state.blocks =
        1 + (if options.prefixText.getD "" = "" then 0 else 1) + report.enums +
          (if report.tables = 0 then 0
            else 1 + (if options.emitTableMap then 1 else 0) + report.tables) +
          (if options.suffixText.getD "" = "" then 0 else 1) := by
  intro o selected
  have resolved {report : Report} (ok : o.result = .ok report) : ∃ d,
      options.validate = .ok () ∧ (Document.build enums selected options).result = .ok d ∧
      acceptedBytes o.effects = utf8 d.text ∧
      report = ⟨d.enums.length, d.tables.length, selected.length⟩ := by
    obtain ⟨columns, calls, d, ready, written, counted⟩ := generate_reported ok
    obtain ⟨listed, found, first, second, rfl, built⟩ := ready.built
    obtain rfl := Except.ok.inj (answers.enums.symm.trans first)
    obtain rfl := Except.ok.inj (answers.columns.symm.trans second)
    exact ⟨d, ready.valid, congrArg Consult.result built, written, counted⟩
  refine ⟨⟨?_, ?_⟩, ?_⟩
  · rintro ⟨report, ok⟩
    obtain ⟨d, valid, built, -⟩ := resolved ok
    exact ⟨valid, d, built⟩
  · rintro ⟨valid, d, built⟩
    exact ⟨_, generate_ok answers faultless valid built s⟩
  · intro report ok
    obtain ⟨d, -, built, written, rfl⟩ := resolved ok
    obtain ⟨tables, filed, rfl⟩ := Document.build_filed built
    have grouped := filed.forall₂
    have declared : (tables.map (·.2)).length = (selected.map Column.tableKey).toFinset.card :=
      grouped.length_eq.symm.trans (length_eraseDups _)
    refine ⟨_, built, Document.enumDecls_length options.names enums, declared, rfl,
      (sum_fields grouped).symm, written, ?_⟩
    rw [Emitter.document_blocks, Emitter.allBlocks_counted faultless.toNeverFails,
      Document.blocks_length]
    exact Nat.zero_add _

/-- Rows of two tables and of two enums in turns, a row that is not selected, a prefix, and a suffix
that is empty. -/
theorem generate_counts_interleaved :
    let o : Options := { prefixText := some "import x", suffixText := some "" }
    let enums : List EnumEntry := [⟨"mood", "sad"⟩, ⟨"size", "s"⟩, ⟨"mood", "ok"⟩]
    let id : Column := ⟨"public", "user", "id", false, none, "integer", "int4"⟩
    let rows : List Column := [id, { id with table := "post" }, { id with schema := "secret" },
      { id with name := "age" }]
    let catalog : Catalog := ⟨.ok enums, fun _ => .ok rows, .ok ()⟩
    let d : Document := ⟨some "import x",
      [⟨"Mood", [⟨"Sad", "sad"⟩, ⟨"Ok", "ok"⟩]⟩, ⟨"Size", [⟨"S", "s"⟩]⟩], "Table", "Tables", true,
      [⟨"User", "user", [⟨"id", "number"⟩, ⟨"age", "number"⟩]⟩,
        ⟨"Post", "post", [⟨"id", "number"⟩]⟩], some ""⟩
    catalog.Answers o.selection enums rows ∧ Sink.reliable.Faultless ∧ o.validate = .ok () ∧
      (Document.build enums (rows.filter o.selection.allows) o).result = .ok d ∧
      (generate catalog .reliable o ()).result = .ok ⟨2, 2, 3⟩ ∧
      acceptedBytes (generate catalog .reliable o ()).effects = utf8 d.text ∧
      (Emitter.document .reliable d (.start ())).state.blocks = 8 := by
  intro o enums id rows catalog d
  have answers : catalog.Answers o.selection enums rows := ⟨rfl, rfl, rfl⟩
  have valid : o.validate = .ok () := by decide +kernel
  have built : (Document.build enums (rows.filter o.selection.allows) o).result = .ok d := by
    decide +kernel
  obtain ⟨ends, reports⟩ := generate_counts answers Sink.reliable_faultless ()
  obtain ⟨⟨enumCount, tableCount, columnCount⟩, ok⟩ := ends.mpr ⟨valid, d, built⟩
  obtain ⟨e, again, ofEnums, ofTables, ofColumns, _, written, blocks⟩ := reports _ ok
  obtain rfl := Except.ok.inj (built.symm.trans again)
  have two : enumCount = 2 := ofEnums.trans (by decide)
  have both : tableCount = 2 := ofTables.trans (by decide +kernel)
  have three : columnCount = 3 := ofColumns.trans (by decide +kernel)
  subst two both three
  exact ⟨answers, Sink.reliable_faultless, valid, built, ok, written, blocks⟩

end SchemaTypes
