import SchemaTypes.Document.Build

/-! The answers behind a consultation. Every call that is recorded is a call of a resolver of the
override maps, all of them but the last one answered without a failure, and the result is a failure
exactly if the last one failed, under its key and with its message. -/
namespace SchemaTypes

/-- What a resolver says when it is called; an entry with a fixed text is not called. -/
def Entry.answer? (opinion : ρ → Opinion) : Entry ρ → Option Opinion
  | .literal _ => none
  | .resolver resolve => some (opinion resolve)

/-- What the resolver under the key of a call says to it, if there is one. -/
def answer? (names : NameOverrides) (types : TypeOverrides) (call : Call) : Option Opinion :=
  match call.category with
  | some category =>
    (names.get? call.key).bind (Entry.answer? (· call.column category call.current))
  | none => (types.get? call.key).bind (Entry.answer? (· call.column call.current))

def Options.answer? (o : Options) : Call → Option Opinion := SchemaTypes.answer? o.names o.types

/-- All calls were answered, with an opinion or with none. -/
def AllAnswered (answer : Call → Option Opinion) (calls : List Call) : Prop :=
  ∀ call ∈ calls, ∃ opinion, answer call = some (.ok opinion)

/-- A consultation that succeeds when all its calls do, and ends at the first one that fails. -/
inductive Answered (answer : Call → Option Opinion) : Consult α → Prop
  | ok (calls : List Call) (a : α) (all : AllAnswered answer calls) :
      Answered answer ⟨calls, .ok a⟩
  | failed (calls : List Call) (call : Call) (message : String) (all : AllAnswered answer calls)
      (last : answer call = some (.error message)) :
      Answered answer ⟨calls ++ [call], .error (.resolver call.key message)⟩

section
variable {answer : Call → Option Opinion}

theorem AllAnswered.append {first second : List Call} (left : AllAnswered answer first)
    (right : AllAnswered answer second) : AllAnswered answer (first ++ second) := by
  intro call member
  rcases List.mem_append.mp member with member | member
  · exact left call member
  · exact right call member

namespace Answered

theorem pure (a : α) : Answered answer (pure a : Consult α) := .ok [] a (by simp [AllAnswered])

theorem bind {x : Consult α} {f : α → Consult β} (first : Answered answer x)
    (later : ∀ a, Answered answer (f a)) : Answered answer (x >>= f) := by
  cases first with
  | failed calls call message all last =>
    rw [Consult.bind_of_error rfl]
    exact .failed calls call message all last
  | ok calls a all =>
    rw [Consult.bind_of_ok rfl]
    have next := later a
    generalize f a = rest at next ⊢
    cases next with
    | ok more b right => exact .ok _ b (all.append right)
    | failed more call message right last =>
      simp only [← List.append_assoc]
      exact .failed _ call message (all.append right) last

theorem ask {call : Call} {opinion : ρ → Opinion} {entry : Entry ρ}
    (found : ∀ resolve, entry = .resolver resolve → answer call = some (opinion resolve)) :
    Answered answer (Consult.ask call opinion entry) := by
  cases entry with
  | literal text => exact .pure _
  | resolver resolve =>
    have said := found resolve rfl
    simp only [Consult.ask]
    cases result : opinion resolve with
    | ok text => exact .ok [call] text (by simp [AllAnswered, said, result])
    | error message =>
      exact .failed [] call message (by simp [AllAnswered]) (said.trans (congrArg some result))

variable {map : OverrideMap ρ} {ask : String → Entry ρ → Consult (Option String)}

theorem firstOpinion (asks : ∀ key entry, map.get? key = some entry → Answered answer (ask key entry))
    (keys : List String) : Answered answer (map.firstOpinion ask keys) := by
  induction keys with
  | nil => exact .pure _
  | cons key keys ih =>
    simp only [OverrideMap.firstOpinion]
    split
    · exact ih
    · cases found : map.get? key with
      | none => exact ih
      | some entry =>
        apply bind (asks key entry found)
        rintro (_ | text)
        · exact ih
        · exact .pure _

theorem lastOpinion (asks : ∀ key entry, map.get? key = some entry → Answered answer (ask key entry))
    (text : String) : Answered answer (map.lastOpinion ask text) := by
  unfold OverrideMap.lastOpinion
  cases found : map.wildcard? with
  | none => exact .pure _
  | some entry =>
    apply bind (asks _ entry found)
    intro opinion
    exact .pure _

end Answered
end

section
variable (names : NameOverrides) (types : TypeOverrides)

theorem NameOverrides.ask_answered (column : Column) (category : NameCategory) (current key : String)
    (entry : Entry NameResolver) (found : names.get? key = some entry) :
    Answered (answer? names types) (ask column category current key entry) := by
  apply Answered.ask
  rintro resolve rfl
  simp [answer?, found, Entry.answer?]

theorem Typing.ask_answered (column : Column) (current key : String)
    (entry : Entry TypeResolver) (found : types.get? key = some entry) :
    Answered (answer? names types) (ask column current key entry) := by
  apply Answered.ask
  rintro resolve rfl
  simp [answer?, found, Entry.answer?]

theorem NameOverrides.resolve_answered (column : Column) (category : NameCategory) :
    Answered (answer? names types) (names.resolve column category) := by
  apply Answered.bind (Answered.firstOpinion (ask_answered names types column category _) _)
  intro chosen
  exact Answered.lastOpinion (ask_answered names types column category _) _

theorem NameOverrides.tableNames_answered (column : Column) :
    Answered (answer? names types) (names.tableNames column) := by
  apply Answered.bind (resolve_answered names types column .table)
  intro table
  apply Answered.bind (resolve_answered names types column .schema)
  intro schema
  exact .pure _

theorem Typing.typeOf_answered (t : Typing) (column : Column) :
    Answered (answer? names t.overrides) (t.typeOf column) := by
  apply Answered.bind (Answered.firstOpinion (ask_answered names t.overrides column _) _)
  intro chosen
  exact Answered.lastOpinion (ask_answered names t.overrides column _) _

namespace OpenTables

theorem openFor_answered (tables : OpenTables) (column : Column) :
    Answered (answer? names types) (openFor names tables column) := by
  unfold openFor
  split
  · exact .pure _
  · apply Answered.bind (names.tableNames_answered types column)
    intro n
    exact .pure _

theorem add_answered (typing : Typing) (tables : OpenTables) (column : Column) :
    Answered (answer? names typing.overrides) (add names typing tables column) := by
  apply Answered.bind (openFor_answered names typing.overrides tables column)
  intro opened
  apply Answered.bind (names.resolve_answered typing.overrides column .column)
  intro name
  apply Answered.bind (typing.typeOf_answered names column)
  intro expr
  exact .pure _

theorem addAll_answered (typing : Typing) (columns : List Column) (tables : OpenTables) :
    Answered (answer? names typing.overrides) (addAll names typing tables columns) := by
  induction columns generalizing tables with
  | nil => exact .pure _
  | cons column rest ih =>
    apply Answered.bind (add_answered names typing tables column)
    intro added
    exact ih added

end OpenTables
end

theorem Document.build_answered (enums : List EnumEntry) (columns : List Column) (o : Options) :
    Answered o.answer? (Document.build enums columns o) := by
  apply Answered.bind (OpenTables.addAll_answered o.names (o.typing enums) columns [])
  intro tables
  exact .pure _

end SchemaTypes
