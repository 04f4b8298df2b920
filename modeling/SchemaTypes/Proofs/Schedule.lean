import SchemaTypes.Proofs.Grouping
import SchemaTypes.Proofs.Questions
import SchemaTypes.Proofs.Relevance
import SchemaTypes.Settings

/-! The order in which resolvers are called. For every row of a catalog it is known beforehand what
the overrides will be asked for, under which keys and in which order: this is the schedule of the
rows. Building a document keeps to it until a call fails, and calls no resolver after that one. -/
namespace SchemaTypes

/-- The first row of a table asks for the names of the table and its schema. -/
def Column.tableQuestions (c : Column) (known : List TableKey) : List Question :=
  if c.tableKey ∈ known then [] else [c.question .table, c.question .schema]

/-- The questions of rows behind others with known tables. Every row asks for a name and a type. -/
def questionsAfter (typing : Typing) (known : List TableKey) : List Column → List Question
  | [] => []
  | c :: rest =>
    c.tableQuestions known ++ [c.question .column, typing.question c] ++
      questionsAfter typing (c.tableKey :: known) rest

/-- The calls for some rows, in their order, if none of them fails. A resolver that fails has no
opinion here. -/
def Options.schedule (o : Options) (enums : List EnumEntry) (columns : List Column) : List Call :=
  (questionsAfter (o.typing enums) [] columns).flatMap (Question.calls o)

section
variable (o : Options) (enums : List EnumEntry)

theorem NameOverrides.tableNames_follows (column : Column) :
    Follows o.failure?
      ([column.question .table, column.question .schema].flatMap (Question.calls o))
      (fun _ => True) (o.names.tableNames column) := by
  apply Follows.bind (resolve_follows o column .table)
  intro table _
  apply Follows.bind (resolve_follows o column .schema)
  intro schema _
  exact .pure trivial

namespace OpenTables

/-- The open tables are those that are known. -/
def HasKeys (known : List TableKey) (tables : OpenTables) : Prop :=
  ∀ key, key ∈ tables.map (·.1) ↔ key ∈ known

variable {known : List TableKey} {tables : OpenTables}

theorem openFor_follows (keys : HasKeys known tables) (column : Column) :
    Follows o.failure? ((column.tableQuestions known).flatMap (Question.calls o))
      (HasKeys (column.tableKey :: known)) (openFor o.names tables column) := by
  have found : tables.any (·.1 = column.tableKey) ↔ column.tableKey ∈ known := by
    rw [← keys]
    simp
  unfold openFor Column.tableQuestions
  by_cases old : column.tableKey ∈ known
  · rw [if_pos old, if_pos (found.mpr old)]
    refine .pure fun key => ?_
    rw [keys, List.mem_cons, or_iff_right_of_imp]
    rintro rfl
    exact old
  · rw [if_neg old, if_neg (mt found.mp old), ← List.append_nil (List.flatMap ..)]
    apply Follows.bind (NameOverrides.tableNames_follows o column)
    intro n _
    refine .pure fun key => ?_
    rw [List.map_append, List.mem_append, keys, List.map_singleton, List.mem_singleton,
      List.mem_cons, or_comm]

theorem add_follows (keys : HasKeys known tables) (column : Column) :
    Follows o.failure? ((column.tableQuestions known ++
        [column.question .column, (o.typing enums).question column]).flatMap (Question.calls o))
      (HasKeys (column.tableKey :: known)) (add o.names (o.typing enums) tables column) := by
  rw [List.flatMap_append]
  apply Follows.bind (openFor_follows o keys column)
  intro opened now
  apply Follows.bind (NameOverrides.resolve_follows o column .column)
  intro name _
  apply Follows.bind (Typing.typeOf_follows o enums column)
  intro expr _
  refine .pure fun key => ?_
  rw [keys_addField]
  exact now key

theorem addAll_follows (columns : List Column) (keys : HasKeys known tables) :
    Follows o.failure?
      ((questionsAfter (o.typing enums) known columns).flatMap (Question.calls o))
      (fun _ => True) (addAll o.names (o.typing enums) tables columns) := by
  -- Known tables are those that are open: this alone decides which rows ask for their table.
  induction columns generalizing known tables with
  | nil => exact .pure trivial
  | cons column rest ih =>
    rw [questionsAfter, List.flatMap_append]
    apply Follows.bind (add_follows o enums keys column)
    intro added now
    exact ih now

end OpenTables

theorem Document.build_follow (columns : List Column) :
    ∃ d, Document.build enums columns o = .follow o.failure? (o.schedule enums columns) d := by
  obtain ⟨tables, -, added⟩ := OpenTables.addAll_follows o enums columns
    (show OpenTables.HasKeys [] [] from fun _ => .rfl)
  rw [build, added]
  exact ⟨_, Consult.follow_bind_pure rfl⟩

end

namespace OverrideMap

/-- A map without resolvers. -/
def LiteralOnly (map : OverrideMap ρ) : Prop :=
  ∀ key resolve, map.get? key ≠ some (.resolver resolve)

theorem LiteralOnly.answer? {map : OverrideMap ρ} (literal : map.LiteralOnly) (key : String)
    (opinion : ρ → Opinion) : (map.get? key).bind (Entry.answer? opinion) = none := by
  cases entry? : map.get? key with
  | none => rfl
  | some entry =>
    cases entry with
    | literal text => rfl
    | resolver resolve => exact absurd entry? (literal key resolve)

theorem ofLiterals_literalOnly (pairs : List (String × String)) :
    (ofLiterals pairs : OverrideMap ρ).LiteralOnly := by
  have kept : ∀ map : OverrideMap ρ, map.LiteralOnly →
      (pairs.foldl (fun map pair => map.withLiteral pair.1 pair.2) map).LiteralOnly := by
    induction pairs with
    | nil => exact fun _ literal => literal
    | cons pair rest ih =>
      intro map literal
      apply ih
      intro key resolve
      simp only [withLiteral, get?_insert]
      split
      · simp
      · exact literal key resolve
  exact kept empty fun _ _ => by simp [get?, empty]

end OverrideMap

section
variable {o : Options}

theorem Options.isCalled_of_literalOnly (names : o.names.LiteralOnly)
    (types : o.types.LiteralOnly) (call : Call) : o.isCalled call = false := by
  rw [isCalled, answer?, SchemaTypes.answer?]
  cases call.category with
  | some category => simp [names.answer?]
  | none => simp [types.answer?]

variable (enums : List EnumEntry) (columns : List Column)

theorem Options.schedule_of_literalOnly (names : o.names.LiteralOnly)
    (types : o.types.LiteralOnly) : o.schedule enums columns = [] := by
  have silent : ∀ lookups, o.callsAmong lookups = [] := by
    simp [Options.callsAmong, Options.isCalled_of_literalOnly names types]
  rw [Options.schedule, List.flatMap_eq_nil_iff]
  intro question _
  rw [Question.calls, silent, silent, List.append_nil]

theorem Document.build_of_literalOnly (names : o.names.LiteralOnly) (types : o.types.LiteralOnly) :
    ∃ d, Document.build enums columns o = ⟨[], .ok d⟩ := by
  obtain ⟨d, followed⟩ := Document.build_follow o enums columns
  rw [Options.schedule_of_literalOnly enums columns names types] at followed
  exact ⟨d, followed⟩

end

theorem enumDecls_of_literals {names other : NameOverrides}
    (same : ∀ key, names.literal? key = other.literal? key) (enums : List EnumEntry) :
    enumDecls names enums = enumDecls other enums ∧
      enumNames names enums = enumNames other enums := by
  have name : names.enumName = other.enumName := by
    funext key
    rw [NameOverrides.enumName, same, NameOverrides.enumName]
  have member : names.enumMember = other.enumMember := by
    funext key label
    rw [NameOverrides.enumMember, same, NameOverrides.enumMember]
  have decl : enumDecl names enums = enumDecl other enums := by
    funext key
    rw [enumDecl, name, member, enumDecl]
  rw [enumDecls, enumNames, decl, name]
  exact ⟨rfl, rfl⟩

/-- The resolvers called for a document are those of the schedule of its rows, in this order, and
the first that fails is the last one called: the build fails under its key and with its message, and
for no other reason. Naming enums calls none. If the maps hold only texts, as those of a
configuration do, none is called at all and the build succeeds. -/
theorem build_keeps_to_schedule (enums : List EnumEntry) (columns : List Column) (o : Options) :
    let built := Document.build enums columns o
    let schedule := o.schedule enums columns
    built.calls = through (fun call => (o.failure? call).isSome) schedule ∧
    (∀ e, built.result = .error e ↔ ∃ earlier call later message,
      schedule = earlier ++ call :: later ∧ (∀ before ∈ earlier, o.failure? before = none) ∧
      o.answer? call = some (.error message) ∧ e = .resolver call.key message ∧
      built.calls = earlier ++ [call]) ∧
    ((∃ e, built.result = .error e) ↔
      ∃ call ∈ built.calls, ∃ message, o.answer? call = some (.error message)) ∧
    (Document.build enums [] o).calls = [] ∧
    (∀ names : NameOverrides, (∀ key, names.literal? key = o.names.literal? key) →
      enumDecls names enums = enumDecls o.names enums ∧
      enumNames names enums = enumNames o.names enums) ∧
    (o.names.LiteralOnly → o.types.LiteralOnly → ∃ d, built = ⟨[], .ok d⟩) ∧
    ∀ (settings : Settings) (flags : Flags),
      ∃ d, Document.build enums columns (settings.merge flags) = ⟨[], .ok d⟩ := by
  intro built schedule
  obtain ⟨d, followed⟩ := Document.build_follow o enums columns
  change built = _ at followed
  refine ⟨?_, fun e => ?_, ?_, ?_, fun names same => enumDecls_of_literals same enums,
    Document.build_of_literalOnly enums columns, ?_⟩
  · rw [followed]
    rfl
  · rw [followed, Consult.follow_stops]
    simp only [Options.failure?_eq_some]
    constructor
    · rintro ⟨earlier, call, later, split, fine, ⟨message, said, rfl⟩, calls⟩
      exact ⟨earlier, call, later, message, split, fine, said, rfl, calls⟩
    · rintro ⟨earlier, call, later, message, split, fine, said, rfl, calls⟩
      exact ⟨earlier, call, later, split, fine, ⟨message, said, rfl⟩, calls⟩
  · rw [followed, Consult.follow_fails]
    simp [Options.failure?_eq_some]
  · obtain ⟨d, followed⟩ := Document.build_follow o enums []
    rw [followed]
    rfl
  · intro settings flags
    exact Document.build_of_literalOnly enums columns (OverrideMap.ofLiterals_literalOnly _)
      (OverrideMap.ofLiterals_literalOnly _)

/-- Rows of two tables in turns. The resolver for the type of the second row fails, so the third
row, whose resolvers are on the schedule as well, is not looked at. -/
theorem build_keeps_to_interleaved_schedule :
    let silent : Entry NameResolver := .resolver fun _ _ _ => .ok none
    let down : Entry TypeResolver := .resolver fun _ _ => .error "down"
    let o : Options :=
      { names := (OverrideMap.empty.insert "user" silent).insert "*" silent
        types := OverrideMap.empty.insert "text" down }
    let fixed : Options := { names := .ofLiterals [("user", "Account"), ("*", "Any")] }
    let id : Column := ⟨"public", "user", "id", false, none, "integer", "int4"⟩
    let body : Column := ⟨"log", "messages", "body", true, none, "text", "text"⟩
    let tags : Column := ⟨"public", "user", "tags", false, none, "ARRAY", "_text"⟩
    let calls : List Call := [⟨"user", some .table, id, "User"⟩, ⟨"*", some .table, id, "User"⟩,
      ⟨"*", some .schema, id, "Public"⟩, ⟨"*", some .column, id, "id"⟩,
      ⟨"*", some .table, body, "Messages"⟩, ⟨"*", some .schema, body, "Log"⟩,
      ⟨"*", some .column, body, "body"⟩, ⟨"text", none, body, "string"⟩]
    o.schedule [] [id, body, tags] =
      calls ++ [⟨"*", some .column, tags, "tags"⟩, ⟨"text", none, tags, "string"⟩] ∧
    (Document.build [] [id, body, tags] o).calls = calls ∧
    (Document.build [] [id, body, tags] o).result = .error (.resolver "text" "down") ∧
    fixed.names.LiteralOnly ∧ fixed.types.LiteralOnly ∧
    ∃ d, Document.build [] [id, body, tags] fixed = ⟨[], .ok d⟩ := by
  intro silent down o fixed id body tags calls
  have schedule : o.schedule [] [id, body, tags] =
      calls ++ [⟨"*", some .column, tags, "tags"⟩, ⟨"text", none, tags, "string"⟩] := by
    decide +kernel
  obtain ⟨made, fails, -⟩ := build_keeps_to_schedule [] [id, body, tags] o
  have names : fixed.names.LiteralOnly := OverrideMap.ofLiterals_literalOnly _
  have types : fixed.types.LiteralOnly := OverrideMap.ofLiterals_literalOnly []
  have stops : (Document.build [] [id, body, tags] o).calls = calls := by
    rw [made, schedule]
    decide +kernel
  have failed : (Document.build [] [id, body, tags] o).result = .error (.resolver "text" "down") :=
    (fails _).mpr ⟨calls.dropLast, ⟨"text", none, body, "string"⟩, _, "down", schedule,
      by decide +kernel, by decide +kernel, rfl, stops⟩
  obtain ⟨-, -, -, -, -, literal, -⟩ := build_keeps_to_schedule [] [id, body, tags] fixed
  exact ⟨schedule, stops, failed, names, types, literal names types⟩

end SchemaTypes
