import SchemaTypes.Effect
import SchemaTypes.Proofs.Answers
import SchemaTypes.Proofs.Following

/-! What the overrides are asked for. A name or a type is a question: under which keys it is looked
up, in which order, and what each resolver on the way is told. The answer and the calls are read off
the question and the maps. -/
namespace SchemaTypes

/-- What is asked for: under which keys, about which text, and what comes behind the answer before
the wildcard is asked about it. -/
structure Question where
  category : Option NameCategory
  column : Column
  keys : List String
  fallback : String
  suffix : String

def Column.question (c : Column) : NameCategory → Question
  | .table => ⟨some .table, c, [c.table], Text.pascalCase c.table, ""⟩
  | .schema => ⟨some .schema, c, [c.schema], Text.pascalCase c.schema, ""⟩
  | .column => ⟨some .column, c, [c.table ++ "." ++ c.name, c.name], c.name, ""⟩

def Typing.question (t : Typing) (c : Column) : Question where
  category := none
  column := c
  keys := (if t.tiers.tableColumn then [c.table ++ "." ++ c.name] else []) ++
    (if t.tiers.column then [c.name] else []) ++
    (if t.tiers.storageType then [c.storageType] else [])
  fallback := t.baseType c
  suffix := suffixes c

def Entry.text? (opinion : ρ → Opinion) : Entry ρ → Option String
  | .literal text => some text
  | .resolver resolve =>
    match opinion resolve with
    | .ok text => text
    | .error _ => none

namespace Options
variable (o : Options)

/-- The text found under the key of a call. -/
def text? (call : Call) : Option String :=
  match call.category with
  | some category =>
    (o.names.get? call.key).bind (Entry.text? (· call.column category call.current))
  | none => (o.types.get? call.key).bind (Entry.text? (· call.column call.current))

def isCalled (call : Call) : Bool := (o.answer? call).isSome

def failure? (call : Call) : Option Error :=
  match o.answer? call with
  | some (.error message) => some (.resolver call.key message)
  | _ => none

/-- The resolvers that are called for some lookups, of which the first with a text is the last. -/
def callsAmong (lookups : List Call) : List Call :=
  (through (fun call => (o.text? call).isSome) lookups).filter o.isCalled

end Options

namespace Question
variable (o : Options) (q : Question)

def lookup (current key : String) : Call := ⟨key, q.category, q.column, current⟩

/-- The lookups under the keys of a question. `*` is none of these. -/
def lookups : List Call := (q.keys.filter (· ≠ OverrideMap.wildcardKey)).map (q.lookup q.fallback)

/-- The text of the first key that has one, and what comes behind it. -/
def chosen : String := (q.lookups.findSome? o.text?).getD q.fallback ++ q.suffix

/-- The last lookup, whatever was found before. -/
def wildcard : Call := q.lookup (q.chosen o) OverrideMap.wildcardKey

/-- The resolvers that are called: those under the keys of the question up to the first with a text,
then that of the wildcard. -/
def calls : List Call := o.callsAmong q.lookups ++ o.callsAmong [q.wildcard o]

def answer : String := (o.text? (q.wildcard o)).getD (q.chosen o)

end Question

section
variable {o : Options} {call : Call}

theorem Options.failure?_eq_some {e : Error} : o.failure? call = some e ↔
    ∃ message, o.answer? call = some (.error message) ∧ e = .resolver call.key message := by
  unfold Options.failure?
  split
  · next message said => simp [said, eq_comm]
  · next fine => simpa using fun message said => absurd said (fine message)

theorem Options.callsAmong_cons_of_some (found : o.text? call = some text) (rest : List Call) :
    o.callsAmong (call :: rest) = o.callsAmong [call] := by
  simp [Options.callsAmong, through, found]

theorem Options.callsAmong_cons_of_none (missing : o.text? call = none) (rest : List Call) :
    o.callsAmong (call :: rest) = o.callsAmong [call] ++ o.callsAmong rest := by
  simp only [Options.callsAmong, through, missing, Option.isSome_none, Bool.false_eq_true, if_false,
    ← List.filter_append, List.singleton_append]

theorem Options.callsAmong_singleton (call : Call) :
    o.callsAmong [call] = if o.isCalled call then [call] else [] := by
  simp [Options.callsAmong, through, List.filter_cons]

theorem Consult.ask_follow {opinion : ρ → Opinion} {entry : Entry ρ}
    (said : o.answer? call = entry.answer? opinion) : Consult.ask call opinion entry =
      .follow o.failure? (o.callsAmong [call]) (entry.text? opinion) := by
  rw [Options.callsAmong_singleton]
  cases entry with
  | literal text =>
    have silent : o.isCalled call = false := by simp [Options.isCalled, said, Entry.answer?]
    rw [silent]
    rfl
  | resolver resolve =>
    have called : o.isCalled call = true := by simp [Options.isCalled, said, Entry.answer?]
    rw [called, if_pos rfl]
    cases result : opinion resolve with
    | ok text =>
      have fine : o.failure? call = none := by
        simp [Options.failure?, said, Entry.answer?, result]
      simp [Consult.ask, Consult.follow, through, Entry.text?, result, fine]
    | error message =>
      have failed : o.failure? call = some (.resolver call.key message) := by
        simp [Options.failure?, said, Entry.answer?, result]
      simp [Consult.ask, Consult.follow, through, result, failed]

variable {map : OverrideMap ρ} {ask : String → Entry ρ → Consult (Option String)}
  {lookup : String → Call}

/-- The lookups find what is in a map. -/
structure Finds (o : Options) (map : OverrideMap ρ)
    (ask : String → Entry ρ → Consult (Option String)) (lookup : String → Call) : Prop where
  missing : ∀ key, map.get? key = none →
    o.text? (lookup key) = none ∧ o.isCalled (lookup key) = false
  found : ∀ key entry, map.get? key = some entry →
    ask key entry = .follow o.failure? (o.callsAmong [lookup key]) (o.text? (lookup key))

theorem Finds.firstOpinion (finds : Finds o map ask lookup) (keys : List String) :
    map.firstOpinion ask keys = .follow o.failure?
      (o.callsAmong ((keys.filter (· ≠ OverrideMap.wildcardKey)).map lookup))
      (((keys.filter (· ≠ OverrideMap.wildcardKey)).map lookup).findSome? o.text?) := by
  induction keys with
  | nil => rfl
  | cons key keys ih =>
    rw [OverrideMap.firstOpinion]
    -- A thing that is named like the wildcard has no key of its own.
    by_cases wild : key = OverrideMap.wildcardKey
    · rw [if_pos wild, List.filter_cons_of_neg (by simpa using wild)]
      exact ih
    rw [if_neg wild, List.filter_cons_of_pos (by simpa using wild), List.map_cons,
      List.findSome?_cons]
    cases entry? : map.get? key with
    | none =>
      obtain ⟨noText, silent⟩ := finds.missing key entry?
      rw [Options.callsAmong_cons_of_none noText, noText, Options.callsAmong_singleton, silent]
      exact ih
    | some entry =>
      simp only [finds.found key entry entry?]
      rcases Option.eq_none_or_eq_some (o.text? (lookup key)) with noText | ⟨text, hasText⟩
      · rw [Options.callsAmong_cons_of_none noText (List.map lookup _), noText]
        exact Consult.follow_bind ih
      · rw [Options.callsAmong_cons_of_some hasText (List.map lookup _), hasText]
        exact Consult.follow_bind_pure rfl

theorem Finds.lastOpinion (finds : Finds o map ask lookup) (text : String) :
    map.lastOpinion ask text = .follow o.failure?
      (o.callsAmong [lookup OverrideMap.wildcardKey])
      ((o.text? (lookup OverrideMap.wildcardKey)).getD text) := by
  rw [OverrideMap.lastOpinion, OverrideMap.wildcard?]
  cases entry? : map.get? OverrideMap.wildcardKey with
  | none =>
    obtain ⟨noText, silent⟩ := finds.missing _ entry?
    rw [noText, Options.callsAmong_singleton, silent]
    rfl
  | some entry =>
    simp only [finds.found _ entry entry?]
    exact Consult.follow_bind_pure rfl

/-- A question is asked under its keys first and under the wildcard then. -/
theorem Question.follow (q : Question) {ask : String → String → Entry ρ → Consult (Option String)}
    (finds : ∀ current, Finds o map (ask current) (q.lookup current)) :
    (map.firstOpinion (ask q.fallback) q.keys >>= fun opinion =>
      map.lastOpinion (ask (opinion.getD q.fallback ++ q.suffix))
        (opinion.getD q.fallback ++ q.suffix)) = .follow o.failure? (q.calls o) (q.answer o) := by
  rw [(finds q.fallback).firstOpinion]
  exact Consult.follow_bind ((finds (q.chosen o)).lastOpinion (q.chosen o))

end

section
variable (o : Options) (enums : List EnumEntry)

theorem Options.names_finds (column : Column) (category : NameCategory) (current : String) :
    Finds o o.names (NameOverrides.ask column category current)
      (⟨·, some category, column, current⟩) where
  missing key none := by
    simp [Options.text?, Options.isCalled, Options.answer?, SchemaTypes.answer?, none]
  found key entry entry? := by
    have text : o.text? ⟨key, some category, column, current⟩ =
        entry.text? (· column category current) := by simp [Options.text?, entry?]
    rw [text]
    exact Consult.ask_follow (by simp [Options.answer?, SchemaTypes.answer?, entry?])

theorem Options.types_finds (column : Column) (current : String) :
    Finds o o.types (Typing.ask column current) (⟨·, none, column, current⟩) where
  missing key none := by
    simp [Options.text?, Options.isCalled, Options.answer?, SchemaTypes.answer?, none]
  found key entry entry? := by
    have text : o.text? ⟨key, none, column, current⟩ = entry.text? (· column current) := by
      simp [Options.text?, entry?]
    rw [text]
    exact Consult.ask_follow (by simp [Options.answer?, SchemaTypes.answer?, entry?])

theorem Column.question_eq (c : Column) (category : NameCategory) : c.question category =
    ⟨some category, c, NameOverrides.keysFor c category, NameOverrides.defaultName c category,
      ""⟩ := by
  cases category <;> rfl

theorem NameOverrides.resolve_follow (column : Column) (category : NameCategory) :
    o.names.resolve column category = .follow o.failure? ((column.question category).calls o)
      ((column.question category).answer o) := by
  rw [Column.question_eq, ← Question.follow _ (o.names_finds column category)]
  simp only [String.append_empty]
  rfl

theorem Typing.typeOf_follow (column : Column) :
    (o.typing enums).typeOf column = .follow o.failure?
      (((o.typing enums).question column).calls o) (((o.typing enums).question column).answer o) :=
  Question.follow ((o.typing enums).question column) (o.types_finds column)

theorem NameOverrides.resolve_follows (column : Column) (category : NameCategory) :
    Follows o.failure? ((column.question category).calls o) (fun _ => True)
      (o.names.resolve column category) := ⟨_, trivial, resolve_follow o column category⟩

theorem Typing.typeOf_follows (column : Column) :
    Follows o.failure? (((o.typing enums).question column).calls o) (fun _ => True)
      ((o.typing enums).typeOf column) := ⟨_, trivial, typeOf_follow o enums column⟩

end
end SchemaTypes
