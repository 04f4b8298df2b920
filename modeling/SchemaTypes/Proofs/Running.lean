import SchemaTypes.Proofs.Completion
import SchemaTypes.Proofs.Places
import SchemaTypes.Run

/-! The order of a run. The output is touched last: everything that can be checked beforehand has
been checked by then, and the server has been reached. From then on the connections are closed once,
whatever happens, and a run that succeeds leaves the whole text where it was told to. -/
namespace SchemaTypes

theorem bind_eq_ok_iff {x : Except ε α} {f : α → Except ε β} {b : β} :
    (x >>= f) = .ok b ↔ ∃ a, x = .ok a ∧ f a = .ok b := by
  cases x with
  | error e => exact ⟨nofun, nofun⟩
  | ok a => exact ⟨fun ok => ⟨a, rfl, ok⟩, by rintro ⟨_, ⟨⟩, ok⟩; exact ok⟩

theorem mapError_eq_ok_iff {x : Except ε α} {f : ε → δ} {a : α} :
    x.mapError f = .ok a ↔ x = .ok a := by
  cases x <;> simp

def RunEffect.closes : RunEffect → Bool
  | .closePool | .generation .close => true
  | _ => false

namespace Run
open CommandLine (Arguments)

/-- There is a connection string for a known engine, the settings and the texts around the
declarations are read and decoded, and the options that come out are valid. -/
structure Checked (env : Environment) (a : Arguments) (p : Plan) : Prop where
  connection : connectionString env a = .ok p.connection
  engine : Connection.isPostgres p.connection
  inputs : ∃ settings prefixText suffixText, loadSettings env a.config = .ok settings ∧
    readOptional env a.prefixFile = .ok prefixText ∧
    readOptional env a.suffixFile = .ok suffixText ∧
    p.options = (settings.getD {}).merge (flags a prefixText suffixText) ∧
    p.target = (settings.getD {}).target (flags a prefixText suffixText)
  valid : p.options.validate = .ok ()

/-- Besides, the server is reached. -/
structure Ready (env : Environment) (a : Arguments) (p : Plan) (server : Postgres.Server) : Prop
    extends Checked env a p where
  connected : env.connect p.connection = .ok server

variable {env : Environment} {a : Arguments} {p : Plan} {server : Postgres.Server}

theorem checkEngine_eq_ok_iff {connection : String} {u : Unit} :
    checkEngine connection = .ok u ↔ Connection.isPostgres connection := by
  unfold checkEngine
  split
  · next known => simp [known]
  · next unknown => simp [unknown]

theorem plan_eq_ok_iff : plan env a = .ok p ↔ Checked env a p := by
  simp only [plan, bind_eq_ok_iff, mapError_eq_ok_iff, checkEngine_eq_ok_iff]
  constructor
  · rintro ⟨connection, found, _, engine, settings, loaded, prefixText, before, suffixText, behind,
      _, valid, made⟩
    obtain rfl := Except.ok.inj made
    exact ⟨found, engine, ⟨settings, prefixText, suffixText, loaded, before, behind, rfl, rfl⟩, valid⟩
  · rintro ⟨found, engine, ⟨settings, prefixText, suffixText, loaded, before, behind, merged, output⟩,
      valid⟩
    rw [merged] at valid
    refine ⟨p.connection, found, (), engine, settings, loaded, prefixText, before, suffixText, behind,
      (), valid, ?_⟩
    rw [← merged, ← output]
    rfl

theorem run_of_not_ready (unready : ¬ ∃ p server, Ready env a p server) (device : Sink σ)
    (start : σ) : ∃ e effects, run env device start a = ⟨.error e, effects, env.files, []⟩ ∧
      ∀ effect ∈ effects, ∃ connection, effect = .connect connection := by
  cases planned : plan env a with
  | error e =>
    refine ⟨e, [], ?_, by simp⟩
    simp only [run, planned]
  | ok p =>
    have checked := plan_eq_ok_iff.mp planned
    cases reached : env.connect p.connection with
    | ok server => exact absurd ⟨p, server, checked, reached⟩ unready
    | error message =>
      refine ⟨.database message, [.connect p.connection], ?_, by simp⟩
      simp only [run, planned, reached]

theorem run_of_ready (ready : Ready env a p server) (device : Sink σ) (start : σ) :
    run env device start a = execute env.files device start p server := by
  have planned := plan_eq_ok_iff.mpr ready.toChecked
  simp only [run, planned, ready.connected]

end Run

namespace RunOutcome

/-- What is found at a target after a run. -/
def Holds (o : RunOutcome) (text : Bytes) : Target → Prop
  | .stdout => o.stdout = text
  | .file path => o.files.read path = some text

/-- Nothing but the target has changed, and directories above it that were not there. -/
def TouchesOnly (o : RunOutcome) (before : FileTree) : Target → Prop
  | .stdout => o.files = before
  | .file path => o.stdout = [] ∧ ∀ place node, before.node? place = some node →
      o.files.locate path ≠ some place → o.files.node? place = some node

end RunOutcome

namespace Run

theorem openTarget_cases {files made : FileTree} {target : Target} {opened : Option Opened}
    (opening : openTarget files target = (made, opened)) :
    (target = .stdout ∧ made = files ∧ opened = some .stdout) ∨
    ∃ path place?, target = .file path ∧ files.create path = (made, place?) ∧
      opened = place?.map .file := by
  cases target with
  | stdout =>
    obtain ⟨rfl, rfl⟩ := Prod.mk.inj opening
    exact .inl ⟨rfl, rfl, rfl⟩
  | file path =>
    cases created : files.create path with
    | mk tree place? =>
      simp only [openTarget, created] at opening
      obtain ⟨rfl, rfl⟩ := Prod.mk.inj opening
      exact .inr ⟨path, place?, rfl, created, rfl⟩

/-- What is written to an output that was opened is found at its target, and nowhere else. -/
theorem holds_of_opened {files made : FileTree} {target : Target} {opened : Opened}
    (opening : openTarget files target = (made, some opened)) (result : Except RunError Report)
    (effects : List RunEffect) (bytes : Bytes) :
    let o : RunOutcome := ⟨result, effects, opened.filesWith made bytes, opened.stdoutWith bytes⟩
    o.Holds bytes target ∧ o.TouchesOnly files target := by
  obtain ⟨rfl, rfl, same⟩ | ⟨path, place?, rfl, created, opens⟩ := openTarget_cases opening
  · obtain rfl := Option.some.inj same
    exact ⟨rfl, rfl⟩
  · obtain ⟨goal, rfl, rfl⟩ := Option.map_eq_some_iff.mp opens.symm
    refine ⟨FileTree.read_put_of_create created bytes, rfl, ?_⟩
    intro place node there elsewhere
    have apart : place ≠ goal := by
      rintro rfl
      exact elsewhere (FileTree.locate_put_of_create created bytes).2
    have kept := FileTree.create_keeps created there fun same => apart (Option.some.inj same).symm
    exact (FileTree.node?_put_of_ne made apart _).trans kept

section
variable (files : FileTree) (device : Sink σ) (start : σ) (p : Plan) (server : Postgres.Server)

theorem execute_of_unopened {made : FileTree} (failed : openTarget files p.target = (made, none)) :
    execute files device start p server = ⟨.error (.file p.target.text),
      [.connect p.connection, .openOutput p.target, .closePool], made, []⟩ := by
  simp only [execute, failed]

theorem execute_of_opened {made : FileTree} {opened : Opened}
    (opening : openTarget files p.target = (made, some opened)) {o : Outcome σ Report}
    (generated : generate (Postgres.Pool.catalog ⟨server, false⟩) device p.options start = o) :
    execute files device start p server = ⟨o.result.mapError .core,
      .connect p.connection :: .openOutput p.target :: o.effects.map .generation,
      opened.filesWith made (acceptedBytes o.effects),
      opened.stdoutWith (acceptedBytes o.effects)⟩ := by
  simp only [execute, opening, generated]

/-- The connections are closed once, by the run or by the generation that it starts. -/
theorem execute_closes : ∃ later last, (execute files device start p server).effects =
      .connect p.connection :: .openOutput p.target :: (later ++ [last]) ∧
    last.closes ∧ ∀ effect ∈ later, effect.closes = false ∧ ∀ target, effect ≠ .openOutput target := by
  -- An output that is not opened leaves closing to the run; a generation closes on every path.
  rcases opening : openTarget files p.target with ⟨made, _ | opened⟩
  · rw [execute_of_unopened files device start p server opening]
    exact ⟨[], .closePool, rfl, rfl, by simp⟩
  · have unclosed := (Generation.pass_trace (Postgres.Pool.catalog ⟨server, false⟩) device p.options
      start).not_released.2
    have effects := generate_effects (Postgres.Pool.catalog ⟨server, false⟩) device p.options start
    rw [execute_of_opened files device start p server opening rfl, effects]
    generalize (Generation.pass _ device p.options start).effects = passed at unclosed
    refine ⟨(passed ++ [Effect.shutdown]).map .generation, .generation .close, by simp, rfl, ?_⟩
    intro effect member
    obtain ⟨inner, inside, rfl⟩ := List.mem_map.mp member
    refine ⟨?_, nofun⟩
    have other : inner ≠ .close := by
      rintro rfl
      simp [unclosed] at inside
    cases inner <;> first | rfl | exact absurd rfl other

theorem execute_touches : (execute files device start p server).TouchesOnly files p.target := by
  rcases opening : openTarget files p.target with ⟨made, _ | opened⟩
  · rw [execute_of_unopened files device start p server opening]
    obtain ⟨_, _, ⟨⟩⟩ | ⟨path, place?, target, created, nowhere⟩ := openTarget_cases opening
    obtain rfl := Option.map_eq_none_iff.mp nowhere.symm
    rw [target]
    refine ⟨rfl, ?_⟩
    intro place node there _
    exact FileTree.create_keeps created there nofun
  · rw [execute_of_opened files device start p server opening rfl]
    exact (holds_of_opened opening _ _ _).2

theorem execute_holds {report : Report}
    (ok : (execute files device start p server).result = .ok report) :
    ∃ columns calls d, Generation.Prepared (Postgres.Pool.catalog ⟨server, false⟩) p.options
        columns calls d ∧
      acceptedBytes (generate (Postgres.Pool.catalog ⟨server, false⟩) device p.options
        start).effects = utf8 d.text ∧
      (execute files device start p server).Holds (utf8 d.text) p.target := by
  rcases opening : openTarget files p.target with ⟨made, _ | opened⟩
  · rw [execute_of_unopened files device start p server opening] at ok
    exact nomatch ok
  · rw [execute_of_opened files device start p server opening rfl] at ok ⊢
    obtain ⟨columns, calls, d, ready, written, -⟩ := generate_reported (mapError_eq_ok_iff.mp ok)
    refine ⟨columns, calls, d, ready, written, ?_⟩
    rw [written]
    exact (holds_of_opened opening _ _ _).1

end
end Run

/-- A run that is not ready, because something cannot be read, is not valid or the server is not
reached, leaves the files and the standard output as they were and sends no query. One that is ready
connects, opens the output, and closes the connections once and last; it changes no file but its
target. If it succeeds, the target holds what the generation wrote, which is the text of the
document for the selected columns. -/
theorem run_touches_output_last (env : Environment) (device : Sink σ) (start : σ)
    (a : CommandLine.Arguments) :
    let o := run env device start a
    ((¬ ∃ p server, Run.Ready env a p server) →
      (∃ e, o.result = .error e) ∧ o.files = env.files ∧ o.stdout = [] ∧
      sentQueries o.effects = [] ∧
      ∀ effect ∈ o.effects, ∃ connection, effect = .connect connection) ∧
    ∀ p server, Run.Ready env a p server →
      (∃ later last,
        o.effects = .connect p.connection :: .openOutput p.target :: (later ++ [last]) ∧
        last.closes ∧
        ∀ effect ∈ later, effect.closes = false ∧ ∀ target, effect ≠ .openOutput target) ∧
      o.TouchesOnly env.files p.target ∧
      ∀ report, o.result = .ok report → ∃ columns calls d,
        Generation.Prepared (Postgres.Pool.catalog ⟨server, false⟩) p.options columns calls d ∧
        acceptedBytes (generate (Postgres.Pool.catalog ⟨server, false⟩) device p.options
          start).effects = utf8 d.text ∧
        o.Holds (utf8 d.text) p.target := by
  intro o
  constructor
  · intro unready
    obtain ⟨e, effects, same, connects⟩ := Run.run_of_not_ready unready device start
    have silent : sentQueries effects = [] := by
      refine List.filterMap_eq_nil_iff.mpr fun effect member => ?_
      obtain ⟨connection, rfl⟩ := connects effect member
      rfl
    have same : o = ⟨.error e, effects, env.files, []⟩ := same
    rw [same]
    exact ⟨⟨e, rfl⟩, rfl, rfl, silent, connects⟩
  · intro p server ready
    simp only [o, Run.run_of_ready ready]
    refine ⟨Run.execute_closes .., Run.execute_touches .., ?_⟩
    intro report ok
    exact Run.execute_holds _ _ _ _ _ ok

/-- A file that is there is written anew, beside one that stays. -/
theorem run_touches_types_file :
    let row : Postgres.ColumnRow := ⟨"public", "user", "id", false, none, "integer", "int4"⟩
    let server : Postgres.Server := ⟨.ok [], fun _ => .ok [row]⟩
    let env : Environment := ⟨some "postgres://localhost/app",
      .ofFiles [("src/types.ts", "old"), ("src/notes", "kept")], fun _ => .ok server⟩
    let a : CommandLine.Arguments := { output := some "src/types.ts" }
    let p : Run.Plan := ⟨"postgres://localhost/app", Settings.merge {} (Run.flags a none none),
      .file "src/types.ts"⟩
    let o := run env .reliable () a
    Run.Ready env a p server ∧ o.result = .ok ⟨0, 1, 1⟩ ∧
      (∃ columns calls d,
        Generation.Prepared (Postgres.Pool.catalog ⟨server, false⟩) p.options columns calls d ∧
        o.files.read "src/types.ts" = some (utf8 d.text)) ∧
      (∃ later last, o.effects =
        .connect p.connection :: .openOutput p.target :: (later ++ [last]) ∧ last.closes) := by
  intro row server env a p o
  have ready : Run.Ready env a p server := by
    have absent : env.files.contains defaultSettingsFile = false := by decide +kernel
    have loaded : Run.loadSettings env none = .ok none := by simp [Run.loadSettings, absent]
    exact ⟨⟨rfl, by decide, ⟨none, none, none, loaded, rfl, rfl, rfl, rfl⟩, by decide +kernel⟩, rfl⟩
  obtain ⟨ended, -, holds⟩ := (run_touches_output_last env .reliable () a).2 p server ready
  have ok : o.result = .ok ⟨0, 1, 1⟩ := by decide +kernel
  obtain ⟨later, last, effects, closed, -⟩ := ended
  obtain ⟨columns, calls, d, prepared, -, held⟩ := holds _ ok
  exact ⟨ready, ok, ⟨columns, calls, d, prepared, held⟩, later, last, effects, closed⟩

end SchemaTypes
