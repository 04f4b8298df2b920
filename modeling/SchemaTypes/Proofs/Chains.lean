import Mathlib
import SchemaTypes.Proofs.Questions

/-! What the overrides of a name or a type come to. The keys of a chain are gone through until one
has an opinion on the text that the catalog gives, and the wildcard has the last word on what came
out, suffixes included. The text and the calls are read off the map alone, so long as no resolver
that is called fails. -/
namespace SchemaTypes
namespace OverrideMap
variable (map : OverrideMap ρ) (say : String → ρ → Opinion) (call : String → String → Call)

def opinion? (current key : String) : Option String :=
  (map.get? key).bind (Entry.text? (say current))

def isResolver (key : String) : Bool := (map.get? key).any (·.literal?.isNone)

/-- The opinion of the first key that has one on a text, or this text. `*` is no key of a chain. -/
def firstText (keys : List String) (fallback : String) : String :=
  ((keys.filter (· ≠ wildcardKey)).findSome? (map.opinion? say fallback)).getD fallback

/-- The opinion of the wildcard on a text, or this text. -/
def lastText (text : String) : String := (map.opinion? say text wildcardKey).getD text

def firstCalls (keys : List String) (fallback : String) : List Call :=
  ((through (fun key => (map.opinion? say fallback key).isSome)
    (keys.filter (· ≠ wildcardKey))).filter map.isResolver).map (call fallback)

def lastCalls (text : String) : List Call :=
  if map.isResolver wildcardKey then [call text wildcardKey] else []

/-- No key of a chain is called in the place of the wildcard. -/
theorem filter_firstCalls (keyed : ∀ current key, (call current key).key = key)
    (keys : List String) (fallback : String) :
    (map.firstCalls say call keys fallback).filter (·.key = wildcardKey) = [] := by
  rw [List.filter_eq_nil_iff]
  intro made member
  obtain ⟨key, inside, rfl⟩ := List.mem_map.mp member
  have chained := mem_of_mem_through (List.mem_filter.mp inside).1
  have other : key ≠ wildcardKey := by simpa using (List.mem_filter.mp chained).2
  simpa [keyed] using other

theorem filter_lastCalls (keyed : ∀ current key, (call current key).key = key) (text : String) :
    (map.lastCalls call text).filter (·.key = wildcardKey) = map.lastCalls call text := by
  unfold lastCalls
  split <;> simp [keyed]

end OverrideMap

section
variable {o : Options} {map : OverrideMap ρ} {say : String → ρ → Opinion} {q : Question}

/-- What the options find for the lookups of a question is what a map says. -/
structure Question.Reads (q : Question) (o : Options) (map : OverrideMap ρ)
    (say : String → ρ → Opinion) : Prop where
  text : ∀ current key, o.text? (q.lookup current key) = map.opinion? say current key
  called : ∀ current key, o.isCalled (q.lookup current key) = map.isResolver key

namespace Question.Reads

theorem chosen (reads : q.Reads o map say) :
    q.chosen o = map.firstText say q.keys q.fallback ++ q.suffix := by
  have texts : o.text? ∘ q.lookup q.fallback = map.opinion? say q.fallback :=
    funext (reads.text q.fallback)
  rw [Question.chosen, Question.lookups, List.findSome?_map, texts]
  rfl

theorem calls (reads : q.Reads o map say) : q.calls o =
    map.firstCalls say q.lookup q.keys q.fallback ++ map.lastCalls q.lookup (q.chosen o) := by
  have called (current : String) : o.isCalled ∘ q.lookup current = map.isResolver :=
    funext (reads.called current)
  have first : o.callsAmong q.lookups = map.firstCalls say q.lookup q.keys q.fallback := by
    rw [Options.callsAmong, Question.lookups, through_map, List.filter_map, called]
    simp only [reads.text]
    rfl
  rw [Question.calls, first, Question.wildcard, Options.callsAmong_singleton, reads.called]
  rfl

theorem answer (reads : q.Reads o map say) : q.answer o = map.lastText say (q.chosen o) := by
  rw [Question.answer, Question.wildcard, reads.text]
  rfl

end Question.Reads

/-- No resolver that is called fails. -/
def Consult.Unfailing (answer : Call → Option Opinion) (x : Consult α) : Prop :=
  ∀ call ∈ x.calls, ∀ message, answer call ≠ some (.error message)

theorem Answered.unfailing_iff {answer : Call → Option Opinion} {x : Consult α}
    (answered : Answered answer x) : x.Unfailing answer ↔ ∃ a, x.result = .ok a := by
  cases answered with
  | ok calls a all =>
    refine ⟨fun _ => ⟨a, rfl⟩, fun _ call member message failed => ?_⟩
    obtain ⟨opinion, said⟩ := all call member
    simp [said] at failed
  | failed calls call message all last =>
    constructor
    · intro fine
      exact absurd last (fine call (List.mem_append_right calls List.mem_cons_self) message)
    · rintro ⟨a, inNone⟩
      simp at inNone

theorem Question.Reads.settled (reads : q.Reads o map say) {x : Consult String}
    (followed : x = .follow o.failure? (q.calls o) (q.answer o)) (fine : x.Unfailing o.answer?)
    {text : String} (first : map.firstText say q.keys q.fallback ++ q.suffix = text) :
    x = ⟨map.firstCalls say q.lookup q.keys q.fallback ++ map.lastCalls q.lookup text,
      .ok (map.lastText say text)⟩ := by
  rw [followed] at fine
  have made := Consult.follow_of_fine fun call member => by
    rw [Option.eq_none_iff_forall_ne_some]
    intro e failed
    obtain ⟨message, said, -⟩ := Options.failure?_eq_some.mp failed
    exact fine call member message said
  rw [followed, made, reads.calls, reads.answer, reads.chosen, first]

end

theorem OverrideMap.isSome_answer? (map : OverrideMap ρ) (key : String) (opinion : ρ → Opinion) :
    ((map.get? key).bind (Entry.answer? opinion)).isSome = map.isResolver key := by
  rw [isResolver]
  cases map.get? key with
  | none => rfl
  | some entry => cases entry <;> rfl

theorem Options.names_reads (o : Options) (column : Column) (category : NameCategory) :
    (column.question category).Reads o o.names
      fun current resolve => resolve column category current where
  text current key := by cases category <;> rfl
  called current key := by cases category <;> exact o.names.isSome_answer? key _

theorem Typing.question_reads {o : Options} {t : Typing} (types : o.types = t.overrides)
    (column : Column) : (t.question column).Reads o t.overrides
      fun current resolve => resolve column current where
  text current key := by
    rw [← types]
    rfl
  called current key := by
    rw [← types]
    exact o.types.isSome_answer? key _

open OverrideMap (wildcardKey)

/-- The type of a column, if no resolver that is called for it fails. Of the tiers that are on, the
first whose key has an opinion on the catalog's type replaces it. Arrays and nullable columns then
get their suffixes, and what the wildcard says to all of this is the type. The wildcard is called
once at most, with the text it is to replace and behind all others, and no key of a tier stands in
for it. -/
theorem typeOf_chain (t : Typing) (column : Column)
    (fine : (t.typeOf column).Unfailing (answer? .empty t.overrides)) :
    let say := fun current (resolve : TypeResolver) => resolve column current
    let call := fun current key => (⟨key, none, column, current⟩ : Call)
    let keys := (if t.tiers.tableColumn then [column.table ++ "." ++ column.name] else []) ++
      (if t.tiers.column then [column.name] else []) ++
      (if t.tiers.storageType then [column.storageType] else [])
    let base := t.baseType column
    let expr := t.overrides.firstText say keys base ++
      ((if column.dataType = "ARRAY" then "[]" else "") ++
        (if column.nullable then " | null" else ""))
    t.typeOf column = ⟨t.overrides.firstCalls say call keys base ++ t.overrides.lastCalls call expr,
      .ok (t.overrides.lastText say expr)⟩ ∧
    (t.typeOf column).calls.filter (·.key = wildcardKey) = t.overrides.lastCalls call expr := by
  intro say call keys base expr
  let o : Options := { types := t.overrides }
  have suffix : Typing.suffixes column = (if column.dataType = "ARRAY" then "[]" else "") ++
      (if column.nullable then " | null" else "") := by
    simp [Typing.suffixes, Column.isArray]
  have first : t.overrides.firstText say keys base ++ Typing.suffixes column = expr := by
    rw [suffix]
  have followed := Question.follow (t.question column) (o.types_finds column)
  have settled : t.typeOf column =
      ⟨t.overrides.firstCalls say call keys base ++ t.overrides.lastCalls call expr,
        .ok (t.overrides.lastText say expr)⟩ :=
    (Typing.question_reads (o := o) rfl column).settled followed fine first
  refine ⟨settled, ?_⟩
  rw [settled, List.filter_append, t.overrides.filter_firstCalls say call fun _ _ => rfl,
    t.overrides.filter_lastCalls call fun _ _ => rfl, List.nil_append]

/-- An array column that is called `*`. Its name is no key, though there is an entry for it; the
resolver for the stored type decides, and the wildcard adds to what came out. -/
theorem typeOf_chain_sizes :
    let t : Typing :=
      { enumNames := [("size", "Extent")]
        overrides := ((OverrideMap.empty.insert "shirt.*" (.resolver fun _ _ => .ok none)).insert
          "size" (.resolver fun _ current => .ok (some (current ++ "Id")))).insert
          "*" (.resolver fun _ current => .ok (some (current ++ " | undefined")))
        tiers := .all }
    let column : Column := ⟨"public", "shirt", "*", true, none, "ARRAY", "_size"⟩
    let wild : Call := ⟨"*", none, column, "ExtentId[] | null"⟩
    (t.typeOf column).Unfailing (answer? .empty t.overrides) ∧
      t.typeOf column = ⟨[⟨"shirt.*", none, column, "Extent"⟩, ⟨"size", none, column, "Extent"⟩,
        wild], .ok "ExtentId[] | null | undefined"⟩ ∧
      (t.typeOf column).calls.filter (·.key = wildcardKey) = [wild] := by
  intro t column wild
  have fine : (t.typeOf column).Unfailing (answer? .empty t.overrides) :=
    (t.typeOf_answered .empty column).unfailing_iff.mpr
      ⟨"ExtentId[] | null | undefined", by decide +kernel⟩
  obtain ⟨settled, last⟩ := typeOf_chain t column fine
  exact ⟨fine, settled.trans (congrArg₂ Consult.mk (by decide +kernel) (by decide +kernel)),
    last.trans (by decide +kernel)⟩

theorem isUnqualified_iff (raw resolved : String) : isUnqualified raw resolved ↔
    resolved = "public" ∨ raw = "public" ∧ resolved = "Public" := by
  have pascal : Text.pascalCase "public" = "Public" := by decide +kernel
  simp [isUnqualified, pascal, defaultSchema]

namespace NameOverrides
variable {names : NameOverrides} {column : Column}

theorem tableNames_of_resolve {ofTable ofSchema : List Call} {table schema : String}
    (first : names.resolve column .table = ⟨ofTable, .ok table⟩)
    (second : names.resolve column .schema = ⟨ofSchema, .ok schema⟩) :
    names.tableNames column = ⟨ofTable ++ ofSchema, .ok
      { typeName :=
          if schema = "public" ∨ column.schema = "public" ∧ schema = "Public" then table
          else Text.pascalCase schema ++ table
        runtime :=
          if column.schema = "public" then column.table
          else column.schema ++ "." ++ column.table }⟩ := by
  rw [tableNames, first, second, Consult.bind_of_ok rfl, Consult.bind_of_ok rfl]
  simp only [isUnqualified_iff, Consult.calls_pure, Consult.result_pure, List.append_nil]
  rfl

theorem unfailing_of_tableNames {types : TypeOverrides}
    (fine : (names.tableNames column).Unfailing (answer? names types)) :
    (names.resolve column .table).Unfailing (answer? names types) ∧
      (names.resolve column .schema).Unfailing (answer? names types) := by
  obtain ⟨n, named⟩ := (names.tableNames_answered types column).unfailing_iff.mp fine
  obtain ⟨table, ofTable, rest⟩ := Consult.bind_eq_ok.mp named
  obtain ⟨schema, ofSchema, -⟩ := Consult.bind_eq_ok.mp rest
  exact ⟨(names.resolve_answered types column .table).unfailing_iff.mpr ⟨table, ofTable⟩,
    (names.resolve_answered types column .schema).unfailing_iff.mpr ⟨schema, ofSchema⟩⟩

end NameOverrides

/-- The names of a table, its schema and a column, if no resolver that is called for them fails. The
first key with an opinion on the default name replaces it, and what the wildcard says to this is the
name. A record type is named after both the schema and the table, or after the table alone where the
schema is the default one by its resolved name, and the text for it at run time has the names of the
catalog, whatever the overrides are. -/
theorem names_chain (names : NameOverrides) (column : Column) :
    let say := fun category current (resolve : NameResolver) => resolve column category current
    let call := fun category current key => (⟨key, some category, column, current⟩ : Call)
    let keys : NameCategory → List String
      | .table => [column.table]
      | .schema => [column.schema]
      | .column => [column.table ++ "." ++ column.name, column.name]
    let fallback : NameCategory → String
      | .table => Text.pascalCase column.table
      | .schema => Text.pascalCase column.schema
      | .column => column.name
    let first := fun category => names.firstText (say category) (keys category) (fallback category)
    let last := fun category => names.lastText (say category) (first category)
    let calls := fun category =>
      names.firstCalls (say category) (call category) (keys category) (fallback category) ++
        names.lastCalls (call category) (first category)
    (∀ category, (names.resolve column category).Unfailing (answer? names .empty) →
      names.resolve column category = ⟨calls category, .ok (last category)⟩) ∧
    ((names.tableNames column).Unfailing (answer? names .empty) →
      names.tableNames column = ⟨calls .table ++ calls .schema, .ok
        { typeName :=
            if last .schema = "public" ∨ column.schema = "public" ∧ last .schema = "Public" then
              last .table
            else Text.pascalCase (last .schema) ++ last .table
          runtime :=
            if column.schema = "public" then column.table
            else column.schema ++ "." ++ column.table }⟩) := by
  intro say call keys fallback first last calls
  let o : Options := { names := names }
  have settled (category : NameCategory)
      (fine : (names.resolve column category).Unfailing (answer? names .empty)) :
      names.resolve column category = ⟨calls category, .ok (last category)⟩ := by
    have followed := NameOverrides.resolve_follow o column category
    have reads := o.names_reads column category
    have bare : names.firstText (say category) (column.question category).keys
        (column.question category).fallback ++ (column.question category).suffix =
        first category := by
      cases category <;> exact String.append_empty
    have chain := reads.settled followed fine bare
    cases category <;> exact chain
  refine ⟨settled, fun fine => ?_⟩
  obtain ⟨table, schema⟩ := NameOverrides.unfailing_of_tableNames fine
  exact NameOverrides.tableNames_of_resolve (settled .table table) (settled .schema schema)

/-- One entry for a table, a column of the same name and no schema, a resolver that only has an
opinion on schemas, and a wildcard that only has one on tables. -/
theorem names_chain_user :
    let ofSchema : NameResolver := fun _ category current =>
      .ok (if category = .schema then some (current ++ "s") else none)
    let ofTable : NameResolver := fun _ category current =>
      .ok (if category = .table then some (current ++ "Row") else none)
    let names : NameOverrides := ((OverrideMap.empty.withLiteral "user" "Account").insert
      "log" (.resolver ofSchema)).insert "*" (.resolver ofTable)
    let column : Column := ⟨"log", "user", "user", false, none, "text", "text"⟩
    let ofTableCalls : List Call := [⟨"*", some .table, column, "Account"⟩]
    let ofSchemaCalls : List Call :=
      [⟨"log", some .schema, column, "Log"⟩, ⟨"*", some .schema, column, "Logs"⟩]
    (∀ category, (names.resolve column category).Unfailing (answer? names .empty)) ∧
      (names.tableNames column).Unfailing (answer? names .empty) ∧
      names.resolve column .table = ⟨ofTableCalls, .ok "AccountRow"⟩ ∧
      names.resolve column .schema = ⟨ofSchemaCalls, .ok "Logs"⟩ ∧
      names.resolve column .column = ⟨[⟨"*", some .column, column, "Account"⟩], .ok "Account"⟩ ∧
      names.tableNames column =
        ⟨ofTableCalls ++ ofSchemaCalls, .ok ⟨"LogsAccountRow", "log.user"⟩⟩ := by
  intro ofSchema ofTable names column ofTableCalls ofSchemaCalls
  have fine (category : NameCategory) :
      (names.resolve column category).Unfailing (answer? names .empty) := by
    apply (names.resolve_answered .empty column category).unfailing_iff.mpr
    cases category with
    | table => exact ⟨"AccountRow", by decide +kernel⟩
    | schema => exact ⟨"Logs", by decide +kernel⟩
    | column => exact ⟨"Account", by decide +kernel⟩
  have both : (names.tableNames column).Unfailing (answer? names .empty) :=
    (names.tableNames_answered .empty column).unfailing_iff.mpr
      ⟨⟨"LogsAccountRow", "log.user"⟩, by decide +kernel⟩
  obtain ⟨settled, named⟩ := names_chain names column
  have table := settled .table (fine .table)
  have schema := settled .schema (fine .schema)
  have own := settled .column (fine .column)
  exact ⟨fine, both,
    table.trans (congrArg₂ Consult.mk (by decide +kernel) (by decide +kernel)),
    schema.trans (congrArg₂ Consult.mk (by decide +kernel) (by decide +kernel)),
    own.trans (congrArg₂ Consult.mk (by decide +kernel) (by decide +kernel)),
    (named both).trans (congrArg₂ Consult.mk (by decide +kernel) (by decide +kernel))⟩

end SchemaTypes
