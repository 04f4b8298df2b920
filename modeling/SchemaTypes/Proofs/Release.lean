import SchemaTypes.Generation
import SchemaTypes.Proofs.Answers
import SchemaTypes.Proofs.Writing

/-! The effects of a generation. Whatever fails on the way, the output is shut down once and the
catalog closed once, in this order and last, nothing is written before everything else succeeded,
and the failure that is reported is the first one. -/
namespace SchemaTypes
namespace Generation

/-- Everything before the first write succeeded: the options are valid, the catalog answered both
calls, every resolver that was consulted answered, and the declarations for the selected columns
are there. -/
structure Prepared (catalog : Catalog) (options : Options) (columns : List Column)
    (calls : List Call) (d : Document) : Prop where
  valid : options.validate = .ok ()
  built : ∃ enums rows, catalog.enums = .ok enums ∧
    catalog.columns options.selection = .ok rows ∧ columns = options.selection.apply rows ∧
    Document.build enums columns options = ⟨calls, .ok d⟩
  answered : AllAnswered options.answer? calls

def queries (options : Options) : List Effect := [.listEnums, .listColumns options.selection]

/-- How far a pass can come from a state of the output, with the effects it has until then, its
result and the state it leaves the output in. Up to the first write the output is as it was. A write
or a flush that the output refuses is the failure of the pass, with what the output says. -/
inductive PassTrace (catalog : Catalog) (sink : Sink σ) (options : Options) (s : σ) :
    List Effect → Except Error Report → σ → Prop
  | invalid (rejected : options.validate = .error fault) :
      PassTrace catalog sink options s [] (.error (.options fault)) s
  | enumsRefused (valid : options.validate = .ok ()) (refused : catalog.enums = .error e) :
      PassTrace catalog sink options s [.listEnums] (.error e) s
  | columnsRefused (valid : options.validate = .ok ()) (listed : catalog.enums = .ok enums)
      (refused : catalog.columns options.selection = .error e) :
      PassTrace catalog sink options s (queries options) (.error e) s
  | resolverFailed (valid : options.validate = .ok ()) (listed : catalog.enums = .ok enums)
      (selected : catalog.columns options.selection = .ok rows)
      (stopped : Document.build enums (options.selection.apply rows) options =
        ⟨calls ++ [call], .error (.resolver call.key message)⟩)
      (answered : AllAnswered options.answer? calls)
      (failed : options.answer? call = some (.error message)) :
      PassTrace catalog sink options s (queries options ++ (calls ++ [call]).map .consult)
        (.error (.resolver call.key message)) s
  | cutShort (ready : Prepared catalog options columns calls d)
      (sent : Transfer sink (utf8 d.text) s written (.error e) last) :
      PassTrace catalog sink options s (queries options ++ calls.map .consult ++ written)
        (.error e) last
  | flushRefused (ready : Prepared catalog options columns calls d)
      (sent : Transfer sink (utf8 d.text) s written (.ok ()) full)
      (refused : sink.flush full = (.error message, last)) :
      PassTrace catalog sink options s
        (queries options ++ calls.map .consult ++ (written ++ [.flush]))
        (.error (.output (.refused message))) last
  | finished (ready : Prepared catalog options columns calls d)
      (sent : Transfer sink (utf8 d.text) s written (.ok ()) full)
      (flushed : sink.flush full = (.ok (), last)) :
      PassTrace catalog sink options s
        (queries options ++ calls.map .consult ++ (written ++ [.flush]))
        (.ok ⟨d.enums.length, d.tables.length, columns.length⟩) last

/-- Of three results the first failure, and the report if there is none. -/
def firstFailure : Except Error Report → Except Error Unit → Except Error Unit →
    Except Error Report
  | .error e, _, _ => .error e
  | .ok _, .error e, _ => .error e
  | .ok _, .ok _, .error e => .error e
  | .ok report, .ok _, .ok _ => .ok report

variable {catalog : Catalog} {options : Options} {sink : Sink σ}

theorem emit_trace (ready : Prepared catalog options columns calls d) (s : σ) :
    PassTrace catalog sink options s
      (queries options ++ calls.map .consult ++ (emit sink d s).effects)
      ((emit sink d s).result.map fun _ => ⟨d.enums.length, d.tables.length, columns.length⟩)
      (emit sink d s).state := by
  have sent := Emitter.document_sends sink d s
  unfold Emitter.Sends at sent
  unfold emit
  -- A failed write is the last effect; after all writes the answer to the flush decides.
  cases result : (Emitter.allBlocks sink d.blocks (.start s)).result with
  | error e =>
    rw [result] at sent
    simp only [Emitter.document_of_error result, Outcome.effects_withState,
      Outcome.result_withState, Outcome.state_withState, result]
    exact .cutShort ready sent
  | ok =>
    rw [result] at sent
    rw [Emitter.document_of_ok result]
    rcases answer : sink.flush (Emitter.allBlocks sink d.blocks (.start s)).state.output with
      ⟨message | ⟨⟩, last⟩
    · simp only [Emitter.flush, answer]
      exact .flushRefused ready sent answer
    · simp only [Emitter.flush, answer]
      exact .finished ready sent answer

theorem pass_of_document (valid : options.validate = .ok ()) (listed : catalog.enums = .ok enums)
    (selected : catalog.columns options.selection = .ok rows)
    (built : Document.build enums (options.selection.apply rows) options = ⟨calls, .ok d⟩) (s : σ) :
    pass catalog sink options s =
      ((emit sink d s).map fun _ =>
        ⟨d.enums.length, d.tables.length, (options.selection.apply rows).length⟩).after
          (queries options ++ calls.map .consult) := by
  rw [pass, valid, mapError_ok, Action.ofExcept_ok_bind, listed, Action.perform_ok_bind,
    selected, Action.perform_ok_bind, built, Action.ofConsult_ok_bind, Action.bind_pure_apply,
    Outcome.after_after, Outcome.after_after]
  rfl

theorem pass_trace (catalog : Catalog) (sink : Sink σ) (options : Options) (s : σ) :
    PassTrace catalog sink options s (pass catalog sink options s).effects
      (pass catalog sink options s).result (pass catalog sink options s).state := by
  cases valid : options.validate with
  | error fault =>
    rw [pass, valid, mapError_error, Action.ofExcept_error_bind]
    exact .invalid valid
  | ok =>
  cases listed : catalog.enums with
  | error e =>
    rw [pass, valid, mapError_ok, Action.ofExcept_ok_bind, listed, Action.perform_error_bind]
    exact .enumsRefused valid listed
  | ok enums =>
  cases selected : catalog.columns options.selection with
  | error e =>
    rw [pass, valid, mapError_ok, Action.ofExcept_ok_bind, listed, Action.perform_ok_bind,
      selected, Action.perform_error_bind]
    exact .columnsRefused valid listed selected
  | ok rows =>
    have answered := Document.build_answered enums (options.selection.apply rows) options
    generalize built : Document.build enums (options.selection.apply rows) options = consulted
      at answered
    cases answered with
    | failed calls call message all last =>
      rw [pass, valid, mapError_ok, Action.ofExcept_ok_bind, listed, Action.perform_ok_bind,
        selected, Action.perform_ok_bind, built, Action.ofConsult_error_bind]
      exact .resolverFailed valid listed selected built all last
    | ok calls d all =>
      rw [pass_of_document valid listed selected built, Outcome.effects_after, Outcome.effects_map,
        Outcome.result_after, Outcome.result_map, Outcome.state_after, Outcome.state_map]
      exact emit_trace ⟨valid, ⟨enums, rows, listed, selected, rfl, built⟩, all⟩ s

namespace PassTrace

theorem not_released (trace : PassTrace catalog sink options s effects result last) :
    Effect.shutdown ∉ effects ∧ Effect.close ∉ effects := by
  cases trace with
  | invalid => simp
  | enumsRefused => simp
  | columnsRefused => simp [queries]
  | resolverFailed => simp [queries]
  | cutShort ready sent => simp [queries, sent.writes.not_mem]
  | flushRefused ready sent => simp [queries, sent.writes.not_mem]
  | finished ready sent => simp [queries, sent.writes.not_mem]

theorem prepared (trace : PassTrace catalog sink options s effects result last)
    (wrote : acceptedBytes effects ≠ []) :
    ∃ columns d, Prepared catalog options columns (consultedCalls effects) d := by
  have queried : consultedCalls (queries options) = [] := rfl
  have flushed : consultedCalls [.flush] = [] := rfl
  cases trace with
  | invalid => simp at wrote
  | enumsRefused => simp [Effect.accepted] at wrote
  | columnsRefused => simp [queries, Effect.accepted] at wrote
  | resolverFailed => simp [queries, Effect.accepted] at wrote
  | cutShort ready sent =>
    exact ⟨_, _, by simpa [queried, sent.writes.consultedCalls] using ready⟩
  | flushRefused ready sent =>
    exact ⟨_, _, by simpa [queried, flushed, sent.writes.consultedCalls] using ready⟩
  | finished ready sent =>
    exact ⟨_, _, by simpa [queried, flushed, sent.writes.consultedCalls] using ready⟩

end PassTrace
end Generation

variable (catalog : Catalog) (sink : Sink σ) (options : Options) (s : σ)

theorem generate_effects : (generate catalog sink options s).effects =
    (Generation.pass catalog sink options s).effects ++ [.shutdown, .close] := rfl

theorem generate_state : (generate catalog sink options s).state =
    (sink.shutdown (Generation.pass catalog sink options s).state).2 := rfl

theorem generate_result : (generate catalog sink options s).result =
    Generation.firstFailure (Generation.pass catalog sink options s).result
      ((sink.shutdown (Generation.pass catalog sink options s).state).1.mapError
        fun m => .output (.refused m))
      catalog.close := by
  cases passed : Generation.pass catalog sink options s with | mk result effects state =>
  cases shut : sink.shutdown state with | mk answer next =>
  simp only [generate, passed, shut]
  cases result with
  | error e => rfl
  | ok report =>
    cases answer with
    | error message => rfl
    | ok => cases catalog.close <;> rfl

/-- A pass comes as far as the options, the catalog, the resolvers and the output let it; what the
output answers to a write or to the flush decides how it ends. Whatever happens in it, the output is
then shut down and the catalog closed, and they were not before. Bytes are only written once the
options are valid, the catalog has answered and every resolver that was consulted has. The result is
the failure of the pass, of the shutdown or of the close, the first of those there are. -/
theorem generate_releases (catalog : Catalog) (sink : Sink σ) (options : Options) (s : σ) :
    let passed := Generation.pass catalog sink options s
    let shut := sink.shutdown passed.state
    let o := generate catalog sink options s
    Generation.PassTrace catalog sink options s passed.effects passed.result passed.state ∧
    o.effects = passed.effects ++ [.shutdown, .close] ∧
    Effect.shutdown ∉ passed.effects ∧ Effect.close ∉ passed.effects ∧
    (acceptedBytes o.effects ≠ [] → ∃ columns d,
      Generation.Prepared catalog options columns (consultedCalls o.effects) d) ∧
    o.result = Generation.firstFailure passed.result
      (shut.1.mapError fun m => .output (.refused m)) catalog.close ∧
    o.state = shut.2 := by
  intro passed shut o
  have trace := Generation.pass_trace catalog sink options s
  have released := trace.not_released
  refine ⟨trace, generate_effects .., released.1, released.2, ?_, generate_result .., generate_state ..⟩
  intro wrote
  have calls : consultedCalls o.effects = consultedCalls passed.effects := by
    simp [o, passed, generate_effects, consultedCalls, Effect.call?]
  rw [calls]
  apply trace.prepared
  simpa [o, generate_effects, Effect.accepted] using wrote

end SchemaTypes
