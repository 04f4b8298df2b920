import SchemaTypes.Postgres
import SchemaTypes.Proofs.Release

/-! Columns that are not selected. A generation looks at the columns of a catalog only through its
selection, so it cannot tell a catalog that reports every column from one that reports the selected
ones, and a server that filters with the condition of the column query reports just those. -/
namespace SchemaTypes

theorem Selection.allows_iff (s : Selection) (c : Column) : s.allows c ↔
    c.schema ∈ s.includeSchemas ∧ c.schema ∉ s.excludeSchemas ∧ c.table ∉ s.excludeTables := by
  simp [Selection.allows, and_assoc]

theorem Selection.apply_apply (s : Selection) (columns : List Column) :
    s.apply (s.apply columns) = s.apply columns := by
  simp [Selection.apply, List.filter_filter]

theorem Action.perform_map_bind (effect : Effect) (x : Except Error α) (f : α → β)
    (next : β → Action σ γ) :
    (perform effect (x.map f) >>= next) = (perform effect x >>= fun a => next (f a)) := by
  cases x <;> rfl

/-- Two catalogs with the same enums, and with the same columns once these are selected. Either may
report other columns as well, anywhere among them. -/
structure Catalog.Alike (a b : Catalog) (s : Selection) : Prop where
  enums : a.enums = b.enums
  columns : (a.columns s).map s.apply = (b.columns s).map s.apply

namespace Generation

/-- A pass over the answers of a catalog whose columns are selected already. -/
def selectedPass (enums : Except Error (List EnumEntry)) (columns : Except Error (List Column))
    (sink : Sink σ) (options : Options) : Action σ Report := do
  Action.ofExcept (options.validate.mapError .options)
  let enums ← Action.perform .listEnums enums
  let columns ← Action.perform (.listColumns options.selection) columns
  let document ← Action.ofConsult (Document.build enums columns options)
  emit sink document
  return ⟨document.enums.length, document.tables.length, columns.length⟩

theorem pass_eq_selectedPass (catalog : Catalog) (sink : Sink σ) (options : Options) :
    pass catalog sink options = selectedPass catalog.enums
      ((catalog.columns options.selection).map options.selection.apply) sink options := by
  simp only [selectedPass, Action.perform_map_bind]
  rfl

theorem pass_of_alike {a b : Catalog} {options : Options} (alike : a.Alike b options.selection)
    (sink : Sink σ) : pass a sink options = pass b sink options := by
  rw [pass_eq_selectedPass, pass_eq_selectedPass, alike.enums, alike.columns]

end Generation

namespace Postgres

/-- The condition of the column query, with the lists of a selection bound in order, holds of the
rows of the selected columns. -/
theorem selected_holds (s : Selection) (row : ColumnRow) :
    Condition.selected.holds (parameters s) row = s.allows row.column := by
  rw [Bool.eq_iff_iff, s.allows_iff]
  simp [Condition.selected, Condition.holds, parameters, Field.of, ColumnRow.column, and_assoc]

/-- A server that answers the column query with all rows, whatever is bound to it. -/
def Server.unfiltered (enums : Except String (List EnumRow)) (rows : List ColumnRow) : Server where
  enums := enums
  columns _ := .ok rows

/-- A server that answers with the rows of which the condition holds, in the same order. -/
def Server.filtering (enums : Except String (List EnumRow)) (rows : List ColumnRow) : Server where
  enums := enums
  columns parameters := .ok (rows.filter (Condition.selected.holds parameters))

theorem apply_filtered (s : Selection) (rows : List ColumnRow) :
    s.apply ((rows.filter (Condition.selected.holds (parameters s))).map ColumnRow.column) =
      s.apply (rows.map ColumnRow.column) := by
  have condition : Condition.selected.holds (parameters s) = s.allows ∘ ColumnRow.column :=
    funext (selected_holds s)
  rw [condition, ← List.filter_map]
  exact s.apply_apply _

theorem unfiltered_alike (enums : Except String (List EnumRow)) (rows : List ColumnRow)
    (s : Selection) : (Pool.catalog ⟨.unfiltered enums rows, false⟩).Alike
      (Pool.catalog ⟨.filtering enums rows, false⟩) s where
  enums := rfl
  columns := congrArg Except.ok (apply_filtered s rows).symm

end Postgres

theorem generate_of_alike {a b : Catalog} {options : Options} (alike : a.Alike b options.selection)
    (close : a.close = b.close) (sink : Sink σ) : generate a sink options = generate b sink options := by
  unfold generate
  rw [Generation.pass_of_alike alike, close]

/-- Two catalogs that differ in columns outside the selection only have the same effects on the
output and the resolvers and leave it in the same state, and the result is the same if they close
alike. The condition of the column query selects as the selection does, so a server that filters
with it cannot be told from one that does not. -/
theorem generate_ignores_unselected (sink : Sink σ) (o : Options) (s : σ) :
    (∀ a b : Catalog, a.Alike b o.selection →
      (generate a sink o s).effects = (generate b sink o s).effects ∧
      (generate a sink o s).state = (generate b sink o s).state ∧
      (a.close = b.close → (generate a sink o s).result = (generate b sink o s).result)) ∧
    (∀ (selection : Selection) (row : Postgres.ColumnRow),
      Postgres.Condition.selected.holds (Postgres.parameters selection) row =
        selection.allows row.column) ∧
    ∀ (enums : Except String (List Postgres.EnumRow)) (rows : List Postgres.ColumnRow),
      generate (Postgres.Pool.catalog ⟨.unfiltered enums rows, false⟩) sink o s =
        generate (Postgres.Pool.catalog ⟨.filtering enums rows, false⟩) sink o s := by
  refine ⟨?_, Postgres.selected_holds, ?_⟩
  · intro a b alike
    have passes : Generation.pass a sink o = Generation.pass b sink o :=
      Generation.pass_of_alike alike sink
    refine ⟨?_, ?_, ?_⟩
    · rw [generate_effects, generate_effects, passes]
    · rw [generate_state, generate_state, passes]
    · intro close
      rw [generate_of_alike alike close]
  · intro enums rows
    rw [generate_of_alike (Postgres.unfiltered_alike enums rows o.selection) rfl]

/-- A table of another schema between the rows of a table and an excluded one behind them, where a
resolver would see every column it is asked about. -/
theorem generate_ignores_secret_keys :
    let o : Options :=
      { names := OverrideMap.empty.insert "*" (.resolver fun _ _ text => .ok (some (text ++ "_")))
        schema := .joined "public, log, !secret"
        exclude := .joined "migrations" }
    let id : Column := ⟨"public", "user", "id", false, none, "integer", "int4"⟩
    let tags : Column := ⟨"public", "user", "tags", true, none, "ARRAY", "_text"⟩
    let a : Catalog := ⟨.ok [⟨"mood", "sad"⟩],
      fun _ => .ok [id, { id with schema := "secret", table := "keys" }, tags,
        { id with schema := "log", table := "migrations" }], .ok ()⟩
    let b : Catalog := ⟨.ok [⟨"mood", "sad"⟩], fun _ => .ok [id, tags], .ok ()⟩
    a.Alike b o.selection ∧ a.close = b.close ∧
      (generate a .reliable o ()).effects = (generate b .reliable o ()).effects ∧
      (generate a .reliable o ()).state = (generate b .reliable o ()).state ∧
      (generate a .reliable o ()).result = (generate b .reliable o ()).result := by
  intro o id tags a b
  have selection : o.selection = ⟨["public", "log"], ["secret"], ["migrations"]⟩ := by
    decide +kernel
  have alike : a.Alike b o.selection := ⟨rfl, by rw [selection]; rfl⟩
  obtain ⟨effects, state, result⟩ := (generate_ignores_unselected .reliable o ()).1 a b alike
  exact ⟨alike, rfl, effects, state, result rfl⟩

end SchemaTypes
