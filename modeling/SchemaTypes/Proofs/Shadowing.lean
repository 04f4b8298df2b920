import SchemaTypes.Proofs.Restating
import SchemaTypes.Proofs.Selecting
import SchemaTypes.Settings

/-! Flags in front of the settings of a file. Each result comes from its own flag, or where that is
not given from its own setting, and from nothing else, and a switch is on unless either turns it
off. So it does not matter whether a flag or the file gives a value that only one of them gives. -/
namespace SchemaTypes

/-- Options that differ in how their two lists are written, if at all. -/
structure Options.Alike (o p : Options) : Prop where
  selection : o.selection = p.selection
  names : o.names = p.names
  types : o.types = p.types
  tiers : o.tiers = p.tiers
  prefixText : o.prefixText = p.prefixText
  suffixText : o.suffixText = p.suffixText
  tablesEnumName : o.tablesEnumName = p.tablesEnumName
  tablesTypeName : o.tablesTypeName = p.tablesTypeName
  emitTableMap : o.emitTableMap = p.emitTableMap

namespace Options.Alike
variable {o p : Options} (alike : o.Alike p)
include alike

theorem validate : o.validate = p.validate := by
  simp only [Options.validate, alike.tablesEnumName, alike.tablesTypeName, alike.emitTableMap]

theorem build (enums : List EnumEntry) (columns : List Column) :
    Document.build enums columns o = Document.build enums columns p := by
  simp only [Document.build, Options.typing, alike.names, alike.types, alike.tiers,
    alike.prefixText, alike.suffixText, alike.tablesEnumName, alike.tablesTypeName,
    alike.emitTableMap]

theorem generate (catalog : Catalog) (sink : Sink σ) :
    generate catalog sink o = generate catalog sink p := by
  have passes : Generation.pass catalog sink o = Generation.pass catalog sink p := by
    simp only [Generation.pass, alike.validate, alike.selection, alike.build]
  unfold SchemaTypes.generate
  rw [passes]

end Options.Alike

namespace Settings

def givenList (items : List String) : Option ListSpec :=
  if items = [] then none else some (.list items)

def turnedOff (given : Bool) : Option Bool := if given then some false else none

/-- A result comes from one flag, or where that is not given from one setting of the file. Two runs
that agree on these have the same result, whatever else the flags and the files say. -/
structure Shadows (flag : Flags → Option α) (setting : Settings → Option α)
    (merged : Option α → β) (result : Settings → Flags → β) : Prop where
  value : ∀ file flags, result file flags = merged (flag flags <|> setting file)
  alone : ∀ file other flags flagsToo, flag flags = flag flagsToo →
    (flag flags = none → setting file = setting other) →
    result file flags = result other flagsToo

/-- A switch is on unless the file or its flag turns it off, so no flags turn on what is off without
them. -/
structure OnUnless (setting : Settings → Option Bool) (off : Flags → Bool)
    (switch : Options → Bool) : Prop where
  on_iff : ∀ (file : Settings) (flags : Flags),
    switch (file.merge flags) = true ↔ setting file ≠ some false ∧ off flags = false
  staysOff : ∀ (file : Settings) (flags : Flags),
    switch (file.merge {}) = false → switch (file.merge flags) = false

/-- What a flag and the file give in two runs. They give what they gave, or it was given by the flag
alone and a value like it is now given by the file alone. -/
def KeptOrMoved (like : α → α → Prop) (flag setting flagToo settingToo : Option α) : Prop :=
  (flag = flagToo ∧ setting = settingToo) ∨
    ∃ value other, like value other ∧ flag = some value ∧ setting = none ∧
      flagToo = none ∧ settingToo = some other

/-- Lists with the same entries, whether written as items or as one text. -/
def SameEntries (list other : ListSpec) : Prop := list.entries = other.entries

/-- Two runs in which some values have moved from flags to the file. Overrides have no flags. -/
structure Moved (file : Settings) (flags : Flags) (fileToo : Settings) (flagsToo : Flags) :
    Prop where
  output : KeptOrMoved (· = ·) flags.output file.output flagsToo.output fileToo.output
  schema : KeptOrMoved SameEntries (givenList flags.schema) file.schema
    (givenList flagsToo.schema) fileToo.schema
  exclude : KeptOrMoved SameEntries (givenList flags.exclude) file.exclude
    (givenList flagsToo.exclude) fileToo.exclude
  prefixText : KeptOrMoved (· = ·) flags.prefixText file.prefixText
    flagsToo.prefixText fileToo.prefixText
  suffixText : KeptOrMoved (· = ·) flags.suffixText file.suffixText
    flagsToo.suffixText fileToo.suffixText
  tablesEnumName : KeptOrMoved (· = ·) flags.tablesEnumName file.tablesEnumName
    flagsToo.tablesEnumName fileToo.tablesEnumName
  tablesTypeName : KeptOrMoved (· = ·) flags.tablesTypeName file.tablesTypeName
    flagsToo.tablesTypeName fileToo.tablesTypeName
  emitTableMap : KeptOrMoved (· = ·) (turnedOff flags.noTableMap) file.emitTableMap
    (turnedOff flagsToo.noTableMap) fileToo.emitTableMap
  overrideTableColumnTypes : KeptOrMoved (· = ·)
    (turnedOff flags.noTableColumnTypeOverrides) file.overrideTableColumnTypes
    (turnedOff flagsToo.noTableColumnTypeOverrides) fileToo.overrideTableColumnTypes
  overrideColumnTypes : KeptOrMoved (· = ·)
    (turnedOff flags.noColumnTypeOverrides) file.overrideColumnTypes
    (turnedOff flagsToo.noColumnTypeOverrides) fileToo.overrideColumnTypes
  overrideDefaultTypes : KeptOrMoved (· = ·)
    (turnedOff flags.noDefaultTypeOverrides) file.overrideDefaultTypes
    (turnedOff flagsToo.noDefaultTypeOverrides) fileToo.overrideDefaultTypes
  names : file.names = fileToo.names
  types : file.types = fileToo.types

section
variable {flag : Flags → Option α} {setting : Settings → Option α} {merged : Option α → β}
  {result : Settings → Flags → β}

theorem shadows_of_value
    (value : ∀ file flags, result file flags = merged (flag flags <|> setting file)) :
    Shadows flag setting merged result where
  value := value
  alone := by
    intro file other flags flagsToo sameFlag sameSetting
    rw [value, value, ← sameFlag]
    cases given : flag flags with
    | none => rw [sameSetting given]
    | some => rfl

end

theorem mergeList_eq (items : List String) (file : Option ListSpec) (standard : ListSpec) :
    mergeList items file standard = (givenList items <|> file).getD standard := by
  unfold mergeList givenList
  split <;> rfl

theorem switch_eq (given : Bool) (setting : Option Bool) :
    (!given && setting.getD true) = (turnedOff given <|> setting).getD true := by
  cases given <;> rfl

theorem onUnless_of_value {setting : Settings → Option Bool} {off : Flags → Bool}
    {switch : Options → Bool} (absent : off {} = false)
    (value : ∀ file flags, switch (file.merge flags) = (!off flags && (setting file).getD true)) :
    OnUnless setting off switch where
  on_iff := by
    intro file flags
    rw [value]
    rcases setting file with _ | _ | _ <;> simp
  staysOff := by
    intro file flags offWithout
    rw [value, absent] at offWithout
    simp only [Bool.not_false, Bool.true_and] at offWithout
    rw [value, offWithout, Bool.and_false]

theorem KeptOrMoved.eq {flag setting flagToo settingToo : Option α}
    (moved : KeptOrMoved (· = ·) flag setting flagToo settingToo) :
    (flag <|> setting) = (flagToo <|> settingToo) := by
  rcases moved with ⟨rfl, rfl⟩ | ⟨value, _, rfl, rfl, rfl, rfl, rfl⟩
  · rfl
  · rfl

theorem KeptOrMoved.entries {flag setting flagToo settingToo : Option ListSpec}
    (moved : KeptOrMoved SameEntries flag setting flagToo settingToo) (standard : ListSpec) :
    ((flag <|> setting).getD standard).entries =
      ((flagToo <|> settingToo).getD standard).entries := by
  rcases moved with ⟨rfl, rfl⟩ | ⟨list, other, same, rfl, rfl, rfl, rfl⟩
  · rfl
  · exact same

namespace Moved
variable {file fileToo : Settings} {flags flagsToo : Flags}
  (moved : Moved file flags fileToo flagsToo)
include moved

theorem target : file.target flags = fileToo.target flagsToo := by
  rw [Settings.target, Settings.target, moved.output.eq]

theorem selection : (file.merge flags).selection = (fileToo.merge flagsToo).selection := by
  apply Selection.ofSpecs_congr
  · simpa only [merge, mergeList_eq] using moved.schema.entries _
  · simpa only [merge, mergeList_eq] using moved.exclude.entries _

theorem tiers : file.mergeTiers flags = fileToo.mergeTiers flagsToo := by
  simp only [mergeTiers, switch_eq, moved.overrideTableColumnTypes.eq, moved.overrideColumnTypes.eq,
    moved.overrideDefaultTypes.eq]

theorem alike : (file.merge flags).Alike (fileToo.merge flagsToo) where
  selection := moved.selection
  names := congrArg OverrideMap.ofLiterals moved.names
  types := congrArg OverrideMap.ofLiterals moved.types
  tiers := moved.tiers
  prefixText := moved.prefixText.eq
  suffixText := moved.suffixText.eq
  tablesEnumName := by simp only [merge, moved.tablesEnumName.eq]
  tablesTypeName := by simp only [merge, moved.tablesTypeName.eq]
  emitTableMap := by simp only [merge, switch_eq, moved.emitTableMap.eq]

end Moved

/-- Each result comes from its own flag, or where that is not given from its own setting; each
switch is on unless it is turned off; and values that move from flags to the file leave everything
that is generated as it is, whatever the catalog and the output are. -/
theorem flags_shadow_settings :
    (Shadows (·.output) (·.output) (fun path => (path.map Target.ofPath).getD .stdout) target ∧
      Shadows (givenList ·.schema) (·.schema) (·.getD (.list ["public"])) (merge · · |>.schema) ∧
      Shadows (givenList ·.exclude) (·.exclude) (·.getD (.list [])) (merge · · |>.exclude) ∧
      Shadows (·.prefixText) (·.prefixText) id (merge · · |>.prefixText) ∧
      Shadows (·.suffixText) (·.suffixText) id (merge · · |>.suffixText) ∧
      Shadows (·.tablesEnumName) (·.tablesEnumName) (·.getD "Table") (merge · · |>.tablesEnumName) ∧
      Shadows (·.tablesTypeName) (·.tablesTypeName) (·.getD "Tables")
        (merge · · |>.tablesTypeName)) ∧
    (OnUnless (·.emitTableMap) (·.noTableMap) (·.emitTableMap) ∧
      OnUnless (·.overrideTableColumnTypes) (·.noTableColumnTypeOverrides) (·.tiers.tableColumn) ∧
      OnUnless (·.overrideColumnTypes) (·.noColumnTypeOverrides) (·.tiers.column) ∧
      OnUnless (·.overrideDefaultTypes) (·.noDefaultTypeOverrides) (·.tiers.storageType)) ∧
    ∀ file flags fileToo flagsToo, Moved file flags fileToo flagsToo →
      (file.merge flags).Alike (fileToo.merge flagsToo) ∧
      file.target flags = fileToo.target flagsToo ∧
      ∀ {σ : Type} (catalog : Catalog) (sink : Sink σ),
        generate catalog sink (file.merge flags) = generate catalog sink (fileToo.merge flagsToo) := by
  refine ⟨⟨?_, ?_, ?_, ?_, ?_, ?_, ?_⟩, ⟨?_, ?_, ?_, ?_⟩, ?_⟩
  · exact shadows_of_value fun _ _ => rfl
  · exact shadows_of_value fun _ _ => mergeList_eq _ _ _
  · exact shadows_of_value fun _ _ => mergeList_eq _ _ _
  · exact shadows_of_value fun _ _ => rfl
  · exact shadows_of_value fun _ _ => rfl
  · exact shadows_of_value fun _ _ => rfl
  · exact shadows_of_value fun _ _ => rfl
  · exact onUnless_of_value rfl fun _ _ => rfl
  · exact onUnless_of_value rfl fun _ _ => rfl
  · exact onUnless_of_value rfl fun _ _ => rfl
  · exact onUnless_of_value rfl fun _ _ => rfl
  · intro file flags fileToo flagsToo moved
    exact ⟨moved.alike, moved.target, moved.alike.generate⟩

/-- A path, a prefix, a list and a switch move to the file, the list as one text. In another run
with other settings the flag for the list stands in front of another list. -/
theorem flags_shadow_app_schema :
    let file : Settings := { suffixText := some "// end", overrideColumnTypes := some true }
    let flags : Flags :=
      { output := some "-"
        schema := ["app", "!old"]
        prefixText := some "// begin"
        noTableMap := true }
    let fileToo : Settings := { file with
      output := some "-"
      schema := some (.joined "app,!old")
      prefixText := some "// begin"
      emitTableMap := some false }
    let other : Settings := { schema := some (.list ["log"]), exclude := some (.joined "keys") }
    let flagsToo : Flags := { schema := ["app", "!old"], noColumnTypeOverrides := true }
    let catalog : Catalog := ⟨.ok [⟨"mood", "sad"⟩],
      fun _ => .ok [⟨"app", "user", "mood", true, none, "USER-DEFINED", "mood"⟩], .ok ()⟩
    Moved file flags fileToo {} ∧ (file.merge flags).schema ≠ (fileToo.merge {}).schema ∧
      (file.merge flags).Alike (fileToo.merge {}) ∧ file.target flags = fileToo.target {} ∧
      generate catalog .reliable (file.merge flags) = generate catalog .reliable (fileToo.merge {}) ∧
      givenList flags.schema = givenList flagsToo.schema ∧ givenList flags.schema ≠ none ∧
      (file.merge flags).schema = (other.merge flagsToo).schema ∧
      (fileToo.merge {}).emitTableMap = false ∧ (fileToo.merge flagsToo).emitTableMap = false := by
  intro file flags fileToo other flagsToo catalog
  have entries : SameEntries (.list ["app", "!old"]) (.joined "app,!old") := by
    unfold SameEntries
    decide +kernel
  have moved : Moved file flags fileToo {} :=
    ⟨.inr ⟨"-", "-", rfl, rfl, rfl, rfl, rfl⟩, .inr ⟨_, _, entries, rfl, rfl, rfl, rfl⟩,
      .inl ⟨rfl, rfl⟩, .inr ⟨"// begin", "// begin", rfl, rfl, rfl, rfl, rfl⟩, .inl ⟨rfl, rfl⟩,
      .inl ⟨rfl, rfl⟩, .inl ⟨rfl, rfl⟩, .inr ⟨false, false, rfl, rfl, rfl, rfl, rfl⟩,
      .inl ⟨rfl, rfl⟩, .inl ⟨rfl, rfl⟩, .inl ⟨rfl, rfl⟩, rfl, rfl⟩
  obtain ⟨⟨_, schema, _⟩, ⟨tableMap, _⟩, runs⟩ := flags_shadow_settings
  obtain ⟨alike, target, generated⟩ := runs file flags fileToo {} moved
  have given : givenList flags.schema ≠ none := by decide
  have shadowed := schema.alone file other flags flagsToo rfl fun absent => absurd absent given
  have off : (fileToo.merge {}).emitTableMap = false := by decide
  exact ⟨moved, by decide, alike, target, generated catalog .reliable, rfl, given, shadowed, off,
    tableMap.staysOff fileToo flagsToo off⟩

end Settings
end SchemaTypes
