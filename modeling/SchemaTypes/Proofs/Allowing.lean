import SchemaTypes.Proofs.Entries
import SchemaTypes.Proofs.Firsts
import SchemaTypes.Proofs.Selecting

/-! What a selection allows, said of the entries it was made from. It depends on which entries there
are, and neither on their order nor on how they are written; and an entry that excludes can only
take columns away. -/
namespace SchemaTypes

/-- The columns that entries for schemas and tables stand for: those of a schema that is an entry
without `!` (of the default schema where there is no entry at all), unless the schema follows a `!`
or the table is listed. -/
structure Selects (schemas tables : List String) (c : Column) : Prop where
  included : (schemas = [] ∧ c.schema = defaultSchema) ∨
    (c.schema ∈ schemas ∧ ∀ rest, c.schema ≠ "!" ++ rest)
  unexcluded : ∀ rest, "!" ++ rest ∈ schemas → Text.trim rest ≠ "" → c.schema ≠ Text.trim rest
  unlisted : c.table ∉ tables

namespace Selects
variable {schemas tables : List String} {c : Column}

theorem of_same {others more : List String} (selects : Selects schemas tables c)
    (sameSchemas : ∀ entry, entry ∈ others ↔ entry ∈ schemas)
    (sameTables : ∀ entry, entry ∈ more ↔ entry ∈ tables) : Selects others more c where
  included := by
    refine selects.included.imp ?_ ?_
    · rintro ⟨rfl, standard⟩
      refine ⟨List.eq_nil_iff_forall_not_mem.mpr ?_, standard⟩
      intro entry member
      exact List.not_mem_nil ((sameSchemas entry).mp member)
    · rintro ⟨member, bare⟩
      exact ⟨(sameSchemas _).mpr member, bare⟩
  unexcluded rest member := selects.unexcluded rest ((sameSchemas _).mp member)
  unlisted member := selects.unlisted ((sameTables _).mp member)

theorem congr {others more : List String} (sameSchemas : ∀ entry, entry ∈ others ↔ entry ∈ schemas)
    (sameTables : ∀ entry, entry ∈ more ↔ entry ∈ tables) :
    Selects others more c ↔ Selects schemas tables c := by
  constructor
  · intro selects
    exact selects.of_same (fun entry => (sameSchemas entry).symm)
      fun entry => (sameTables entry).symm
  · intro selects
    exact selects.of_same sameSchemas sameTables

/-- Without its last entry, which excludes, a list selects no less. Where nothing else is listed it
selects the default schema instead of none. -/
theorem of_excluding {rest : String} (selects : Selects (schemas ++ ["!" ++ rest]) tables c) :
    Selects schemas tables c where
  included := by
    rcases selects.included with ⟨inNone, -⟩ | ⟨member, bare⟩
    · simp at inNone
    · refine .inr ⟨?_, bare⟩
      rcases List.mem_append.mp member with before | last
      · exact before
      · exact absurd (List.mem_singleton.mp last) (bare rest)
  unexcluded other member := selects.unexcluded other (List.mem_append_left _ member)
  unlisted := selects.unlisted

theorem of_listing {more : List String} (selects : Selects schemas (tables ++ more) c) :
    Selects schemas tables c where
  included := selects.included
  unexcluded := selects.unexcluded
  unlisted member := selects.unlisted (List.mem_append_left more member)

end Selects

namespace Selection

theorem excluded?_eq_some_iff {entry name : String} :
    excluded? entry = some name ↔ ∃ rest, entry = "!" ++ rest ∧ Text.trim rest = name := by
  constructor
  · intro found
    unfold excluded? at found
    split at found
    · next rest chars =>
      refine ⟨String.ofList rest, ?_, ?_⟩
      · rw [← String.toList_inj, chars]
        simp
      · rw [Text.trim, String.toList_ofList]
        exact Option.some.inj found
    · simp at found
  · rintro ⟨rest, rfl, rfl⟩
    have chars : ("!" ++ rest).toList = '!' :: rest.toList := by simp
    rw [excluded?, chars]
    rfl

theorem excluded?_eq_none_iff {entry : String} :
    excluded? entry = none ↔ ∀ rest, entry ≠ "!" ++ rest := by
  rw [Option.eq_none_iff_forall_not_mem]
  constructor
  · intro plain rest same
    exact plain (Text.trim rest) (excluded?_eq_some_iff.mpr ⟨rest, same, rfl⟩)
  · intro bare name found
    obtain ⟨rest, same, -⟩ := excluded?_eq_some_iff.mp found
    exact bare rest same

section
variable {schema exclude : ListSpec} {name : String}

theorem mem_includeSchemas : name ∈ (ofSpecs schema exclude).includeSchemas ↔
    (schema.entries = [] ∧ name = defaultSchema) ∨
    (name ∈ schema.entries ∧ ∀ rest, name ≠ "!" ++ rest) := by
  rw [ofSpecs]
  by_cases empty : schema.entries = []
  · simp [empty]
  · simp [empty, ← excluded?_eq_none_iff]

theorem mem_excludeSchemas : name ∈ (ofSpecs schema exclude).excludeSchemas ↔
    ∃ rest, "!" ++ rest ∈ schema.entries ∧ Text.trim rest = name ∧ name ≠ "" := by
  simp only [ofSpecs, List.mem_eraseDups, List.mem_filter, List.mem_filterMap,
    excluded?_eq_some_iff, decide_eq_true_eq]
  constructor
  · rintro ⟨⟨entry, member, rest, rfl, same⟩, filled⟩
    exact ⟨rest, member, same, filled⟩
  · rintro ⟨rest, member, same, filled⟩
    exact ⟨⟨_, member, rest, rfl, same⟩, filled⟩

theorem mem_excludeTables :
    name ∈ (ofSpecs schema exclude).excludeTables ↔ name ∈ exclude.entries := List.mem_eraseDups

theorem allows_iff_selects {column : Column} : (ofSpecs schema exclude).allows column ↔
    Selects schema.entries exclude.entries column := by
  rw [allows_iff, mem_includeSchemas, mem_excludeSchemas, mem_excludeTables]
  constructor
  · rintro ⟨included, unexcluded, unlisted⟩
    refine ⟨included, ?_, unlisted⟩
    intro rest member filled same
    exact unexcluded ⟨rest, member, same.symm, same ▸ filled⟩
  · rintro ⟨included, unexcluded, unlisted⟩
    refine ⟨included, ?_, unlisted⟩
    rintro ⟨rest, member, same, filled⟩
    exact unexcluded rest member (same ▸ filled) same.symm

end
end Selection

namespace ListSpec

/-- The list with one more text at its end: one more item, or one more text behind a comma. -/
def append (spec : ListSpec) (text : String) : ListSpec :=
  match spec with
  | .joined front => .joined (front ++ "," ++ text)
  | .list items => .list (items ++ [text])

theorem entries_append (spec : ListSpec) (text : String) :
    (spec.append text).entries = spec.entries ++ parts text := by
  cases spec with
  | joined front => exact parts_append front text
  | list items => simp [append, entries]

theorem entries_groups (groups : List (List String)) :
    (list (groups.map (",".intercalate ·))).entries = (list groups.flatten).entries := by
  simp only [entries, List.flatMap_map, parts_intercalate, List.flatten_eq_flatMap,
    List.flatMap_assoc, id]

end ListSpec

/-- A selection allows the columns that its entries select. Its lists hold what the entries name,
each name once and in the order in which the names first appear. The same entries in another order,
repeated, or joined with commas otherwise allow the same columns, and with one more entry that
starts with `!`, or with more tables listed, no other columns are allowed than before. -/
theorem selection_follows_entries (schema exclude : ListSpec) (column : Column) :
    let s := Selection.ofSpecs schema exclude
    (s.allows column ↔ Selects schema.entries exclude.entries column) ∧
    (FirstsOf (if schema.entries = [] then [defaultSchema]
        else schema.entries.filter fun entry => (Selection.excluded? entry).isNone)
        s.includeSchemas ∧
      FirstsOf ((schema.entries.filterMap Selection.excluded?).filter (· ≠ "")) s.excludeSchemas ∧
      FirstsOf exclude.entries s.excludeTables) ∧
    (∀ schemas tables : ListSpec, (∀ entry, entry ∈ schemas.entries ↔ entry ∈ schema.entries) →
      (∀ entry, entry ∈ tables.entries ↔ entry ∈ exclude.entries) →
      (Selection.ofSpecs schemas tables).allows column = s.allows column) ∧
    (∀ groups : List (List String),
      (ListSpec.list (groups.map (",".intercalate ·))).entries =
        (ListSpec.list groups.flatten).entries ∧
      (ListSpec.joined (",".intercalate groups.flatten)).entries =
        (ListSpec.list groups.flatten).entries) ∧
    (∀ text rest, ListSpec.parts text = ["!" ++ rest] →
      (Selection.ofSpecs (schema.append text) exclude).allows column → s.allows column) ∧
    ∀ text, (Selection.ofSpecs schema (exclude.append text)).allows column → s.allows column := by
  intro s
  refine ⟨Selection.allows_iff_selects, ⟨?_, firstsOf_eraseDups _, firstsOf_eraseDups _⟩,
    ?_, ?_, ?_, ?_⟩
  · simp only [s, Selection.ofSpecs]
    split
    · exact firstsOf_eraseDups [defaultSchema]
    · exact firstsOf_eraseDups _
  · intro schemas tables sameSchemas sameTables
    rw [Bool.eq_iff_iff, Selection.allows_iff_selects, Selection.allows_iff_selects]
    exact Selects.congr sameSchemas sameTables
  · intro groups
    exact ⟨ListSpec.entries_groups groups, ListSpec.entries_joined groups.flatten⟩
  · intro text rest one allowed
    rw [Selection.allows_iff_selects, ListSpec.entries_append, one] at allowed
    exact Selection.allows_iff_selects.mpr allowed.of_excluding
  · intro text allowed
    rw [Selection.allows_iff_selects, ListSpec.entries_append] at allowed
    exact Selection.allows_iff_selects.mpr allowed.of_listing

/-- A lone `!`, blanks behind a `!`, two of them in a row and a repeated entry. -/
theorem selection_follows_corner_entries :
    let schema : ListSpec := .list ["public, ! log ", "!", "!!tmp,public"]
    let exclude : ListSpec := .joined "migrations,, knex"
    let others : ListSpec := .joined "!!tmp, ! log, !, public"
    let user : Column := ⟨"public", "user", "id", false, none, "integer", "int4"⟩
    let s := Selection.ofSpecs schema exclude
    s = ⟨["public"], ["log", "!tmp"], ["migrations", "knex"]⟩ ∧
      Selects schema.entries exclude.entries user ∧
      (∀ entry, entry ∈ others.entries ↔ entry ∈ schema.entries) ∧
      (Selection.ofSpecs others exclude).allows user = s.allows user ∧
      ListSpec.parts " ! audit " = ["!" ++ " audit"] ∧
      (Selection.ofSpecs (schema.append " ! audit ") exclude).allows user ∧ s.allows user := by
  intro schema exclude others user s
  have made : s = ⟨["public"], ["log", "!tmp"], ["migrations", "knex"]⟩ := by decide +kernel
  have listed : schema.entries = ["public", "! log", "!", "!!tmp", "public"] := by decide +kernel
  have relisted : others.entries = ["!!tmp", "! log", "!", "public"] := by decide +kernel
  have one : ListSpec.parts " ! audit " = ["!" ++ " audit"] := by decide +kernel
  have still : (Selection.ofSpecs (schema.append " ! audit ") exclude).allows user := by
    decide +kernel
  have same : ∀ entry, entry ∈ others.entries ↔ entry ∈ schema.entries := by
    intro entry
    simp only [listed, relisted, List.mem_cons, List.not_mem_nil, or_false]
    tauto
  obtain ⟨meaning, -, reordered, -, excluding, -⟩ := selection_follows_entries schema exclude user
  have allowed : s.allows user := excluding _ _ one still
  exact ⟨made, meaning.mp allowed, same, reordered others exclude same fun _ => Iff.rfl, one, still,
    allowed⟩

end SchemaTypes
