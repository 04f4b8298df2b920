import SchemaTypes.Proofs.Allowing

/-! A selection written back as the entries it is made from. Its names are entries again, with a `!`
in front of those it excludes, and they are read as what they were, in the order in which the
selection has them. Only a selection that names no schema at all has no entries to go by, since a
list without any stands for the default schema. -/
namespace SchemaTypes

theorem Text.trim_eq_self_iff {s : String} : trim s = s ↔ Trimmed s.toList := by
  constructor
  · intro same
    rw [← same, trim, String.toList_ofList]
    exact trimmed_trimChars _
  · intro trimmed
    rw [trim, trimChars_of_trimmed trimmed, String.ofList_toList]

theorem IsEntry.excluding {name : String} (entry : IsEntry name) : IsEntry ("!" ++ name) := by
  have chars : ("!" ++ name).toList = '!' :: name.toList := by simp
  have opens : Text.isBlank '!' = false := by decide
  have ends := (Text.trim_eq_self_iff.mp entry.trimmed).closes
  refine ⟨?_, ?_, Text.trim_eq_self_iff.mpr ⟨?_, ?_⟩⟩
  · intro empty
    rw [empty] at chars
    simp at chars
  · rw [chars, List.mem_cons, not_or]
    exact ⟨by decide, entry.single⟩
  · rw [chars]
    simpa using opens
  · rw [chars]
    cases rest : name.toList with
    | nil => simpa using opens
    | cons c more => simpa [rest] using ends

namespace Selection

/-- The lists of a selection hold names that can be entries, each once; and no name that is included
starts with a `!`. -/
structure WellFormed (s : Selection) : Prop where
  included : ∀ name ∈ s.includeSchemas, IsEntry name ∧ excluded? name = none
  excluded : ∀ name ∈ s.excludeSchemas, IsEntry name
  listed : ∀ name ∈ s.excludeTables, IsEntry name
  includedOnce : s.includeSchemas.Nodup
  excludedOnce : s.excludeSchemas.Nodup
  listedOnce : s.excludeTables.Nodup

theorem isEntry_defaultSchema : IsEntry defaultSchema := ⟨by decide, by decide, by decide⟩

theorem ofSpecs_wellFormed (schema exclude : ListSpec) : (ofSpecs schema exclude).WellFormed where
  included := by
    intro name member
    rcases mem_includeSchemas.mp member with ⟨-, rfl⟩ | ⟨entry, bare⟩
    · exact ⟨isEntry_defaultSchema, rfl⟩
    · exact ⟨ListSpec.isEntry_of_mem entry, excluded?_eq_none_iff.mpr bare⟩
  excluded := by
    intro name member
    obtain ⟨rest, entry, rfl, filled⟩ := mem_excludeSchemas.mp member
    have single := (ListSpec.isEntry_of_mem entry).single
    refine ⟨filled, ?_, ?_⟩
    · intro comma
      rw [Text.trim, String.toList_ofList] at comma
      exact single (by simp [Text.mem_of_mem_trimChars comma])
    · rw [Text.trim_eq_self_iff, Text.trim, String.toList_ofList]
      exact Text.trimmed_trimChars _
  listed name member := ListSpec.isEntry_of_mem (mem_excludeTables.mp member)
  includedOnce := by
    simp only [ofSpecs]
    split
    · exact List.nodup_singleton _
    · exact eraseDups_nodup _
  excludedOnce := eraseDups_nodup _
  listedOnce := eraseDups_nodup _

namespace WellFormed
variable {s : Selection} (formed : s.WellFormed)
include formed

theorem excluded?_excluding {name : String} (member : name ∈ s.excludeSchemas) :
    excluded? ("!" ++ name) = some name :=
  excluded?_eq_some_iff.mpr ⟨name, rfl, (formed.excluded name member).trimmed⟩

theorem entries_schemas : (ListSpec.list s.schemaEntries).entries = s.schemaEntries := by
  apply ListSpec.entries_list_of_isEntry
  intro entry member
  rcases List.mem_append.mp member with included | excluded
  · exact (formed.included entry included).1
  · obtain ⟨name, own, rfl⟩ := List.mem_map.mp excluded
    exact (formed.excluded name own).excluding

theorem entries_tables : (ListSpec.list s.excludeTables).entries = s.excludeTables :=
  ListSpec.entries_list_of_isEntry formed.listed

theorem filter_schemaEntries :
    s.schemaEntries.filter (fun entry => (excluded? entry).isNone) = s.includeSchemas := by
  have kept : s.includeSchemas.filter (fun entry => (excluded? entry).isNone) =
      s.includeSchemas := by
    rw [List.filter_eq_self]
    intro name member
    rw [(formed.included name member).2, Option.isNone_none]
  have dropped : (s.excludeSchemas.map ("!" ++ ·)).filter
      (fun entry => (excluded? entry).isNone) = [] := by
    rw [List.filter_eq_nil_iff, List.forall_mem_map]
    intro name member
    simp [formed.excluded?_excluding member]
  rw [schemaEntries, List.filter_append, kept, dropped, List.append_nil]

theorem filterMap_schemaEntries : s.schemaEntries.filterMap excluded? = s.excludeSchemas := by
  have dropped : s.includeSchemas.filterMap excluded? = [] := by
    rw [List.filterMap_eq_nil_iff]
    intro name member
    exact (formed.included name member).2
  have kept : (s.excludeSchemas.map ("!" ++ ·)).filterMap excluded? = s.excludeSchemas := by
    have read : ∀ name ∈ s.excludeSchemas, (excluded? ∘ ("!" ++ ·)) name = some name :=
      fun name member => formed.excluded?_excluding member
    rw [List.filterMap_map, List.filterMap_congr read, List.filterMap_some]
  rw [schemaEntries, List.filterMap_append, dropped, kept, List.nil_append]

theorem filter_filled : s.excludeSchemas.filter (· ≠ "") = s.excludeSchemas := by
  rw [List.filter_eq_self]
  intro name member
  exact decide_eq_true (formed.excluded name member).filled

/-- What is read from the entries of a selection: itself, or the default schema in place of none. -/
theorem ofSpecs_entries : ofSpecs (.list s.schemaEntries) (.list s.excludeTables) =
    if s.schemaEntries = [] then { s with includeSchemas := [defaultSchema] } else s := by
  rw [ofSpecs, formed.entries_schemas, formed.entries_tables, formed.filter_schemaEntries,
    formed.filterMap_schemaEntries, formed.filter_filled, eraseDups_of_nodup formed.includedOnce,
    eraseDups_of_nodup formed.excludedOnce, eraseDups_of_nodup formed.listedOnce]
  split <;> rfl

theorem ofSpecs_entries_eq_self_iff :
    ofSpecs (.list s.schemaEntries) (.list s.excludeTables) = s ↔
      s.includeSchemas ≠ [] ∨ s.excludeSchemas ≠ [] := by
  have named : s.schemaEntries = [] ↔ s.includeSchemas = [] ∧ s.excludeSchemas = [] := by
    simp [schemaEntries]
  rw [formed.ofSpecs_entries, ← not_and_or, ← named]
  split
  · next empty =>
    have other : [defaultSchema] ≠ s.includeSchemas := by simp [(named.mp empty).1]
    simp only [empty, not_true_eq_false, iff_false]
    exact fun same => other (congrArg includeSchemas same)
  · next filled => simp [filled]

end WellFormed

theorem ofSpecs_congr {schema schemas exclude tables : ListSpec}
    (sameSchemas : schema.entries = schemas.entries)
    (sameTables : exclude.entries = tables.entries) :
    ofSpecs schema exclude = ofSpecs schemas tables := by
  simp only [ofSpecs, sameSchemas, sameTables]

end Selection

/-- A selection that was made from two lists is made again, with all names in their order, from its
included schemas and its excluded ones behind `!`, and from its excluded tables, as lists of items
or joined with commas, if it names a schema at all, and only then. -/
theorem selection_restated_iff (schema exclude : ListSpec) :
    let s := Selection.ofSpecs schema exclude
    let named := s.includeSchemas ≠ [] ∨ s.excludeSchemas ≠ []
    (Selection.ofSpecs (.list s.schemaEntries) (.list s.excludeTables) = s ↔ named) ∧
    (Selection.ofSpecs (.joined (",".intercalate s.schemaEntries))
      (.joined (",".intercalate s.excludeTables)) = s ↔ named) := by
  intro s named
  have restated : Selection.ofSpecs (.list s.schemaEntries) (.list s.excludeTables) = s ↔ named :=
    (Selection.ofSpecs_wellFormed schema exclude).ofSpecs_entries_eq_self_iff
  refine ⟨restated, ?_⟩
  rwa [Selection.ofSpecs_congr (ListSpec.entries_joined _) (ListSpec.entries_joined _)]

/-- A lone `!` names no schema. -/
example : Selection.ofSpecs (.joined " ! ") (.list ["t"]) = ⟨[], [], ["t"]⟩ := by decide +kernel

end SchemaTypes
