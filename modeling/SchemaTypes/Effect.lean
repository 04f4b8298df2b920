import SchemaTypes.Override.Consult
import SchemaTypes.Selection

/-! Effects of a generation, and computations that perform them. A computation acts on the state of
an output; it stops at its first failure and keeps the effects it had until then. -/
namespace SchemaTypes

/-- What happens to the catalog and the output, and which resolvers are called. A write shows the
bytes that the output accepted, none if it failed. -/
inductive Effect
  | listEnums
  | listColumns (selection : Selection)
  | consult (call : Call)
  | write (accepted : Bytes)
  | flush
  | shutdown
  | close
  deriving DecidableEq, Repr

def Effect.accepted : Effect → Bytes
  | .write bytes => bytes
  | _ => []

def Effect.call? : Effect → Option Call
  | .consult call => some call
  | _ => none

def acceptedBytes (effects : List Effect) : Bytes := effects.flatMap Effect.accepted

def consultedCalls (effects : List Effect) : List Call := effects.filterMap Effect.call?

@[simp] theorem acceptedBytes_nil : acceptedBytes [] = [] := rfl

@[simp] theorem acceptedBytes_cons (effect : Effect) (effects : List Effect) :
    acceptedBytes (effect :: effects) = effect.accepted ++ acceptedBytes effects := rfl

@[simp] theorem acceptedBytes_append (first second : List Effect) :
    acceptedBytes (first ++ second) = acceptedBytes first ++ acceptedBytes second := by
  simp [acceptedBytes]

@[simp] theorem acceptedBytes_consults (calls : List Call) :
    acceptedBytes (calls.map .consult) = [] := by
  induction calls with
  | nil => rfl
  | cons call calls ih => simpa [Effect.accepted] using ih

@[simp] theorem consultedCalls_nil : consultedCalls [] = [] := rfl

@[simp] theorem consultedCalls_append (first second : List Effect) :
    consultedCalls (first ++ second) = consultedCalls first ++ consultedCalls second := by
  simp [consultedCalls]

@[simp] theorem consultedCalls_consults (calls : List Call) :
    consultedCalls (calls.map .consult) = calls := by
  induction calls with
  | nil => rfl
  | cons call calls ih => simpa [consultedCalls, Effect.call?] using ih

@[simp] theorem mapError_ok (f : ε → δ) (a : α) : (Except.ok a).mapError f = .ok a := rfl

@[simp] theorem mapError_error (f : ε → δ) (e : ε) :
    (Except.error e : Except ε α).mapError f = .error (f e) := rfl

structure Outcome (σ α : Type) where
  result : Except Error α
  effects : List Effect
  state : σ

namespace Outcome
variable (o : Outcome σ α)

/-- The outcome with some effects in front. -/
def after (earlier : List Effect) : Outcome σ α := ⟨o.result, earlier ++ o.effects, o.state⟩

def map (f : α → β) : Outcome σ β := ⟨o.result.map f, o.effects, o.state⟩

/-- The outcome seen by someone who keeps another state. -/
def withState (state : τ) : Outcome τ α := ⟨o.result, o.effects, state⟩

@[simp] theorem result_after (earlier : List Effect) : (o.after earlier).result = o.result := rfl

@[simp] theorem effects_after (earlier : List Effect) :
    (o.after earlier).effects = earlier ++ o.effects := rfl

@[simp] theorem state_after (earlier : List Effect) : (o.after earlier).state = o.state := rfl

@[simp] theorem after_after (first second : List Effect) :
    (o.after second).after first = o.after (first ++ second) := by simp [after]

@[simp] theorem result_map (f : α → β) : (o.map f).result = o.result.map f := rfl

@[simp] theorem effects_map (f : α → β) : (o.map f).effects = o.effects := rfl

@[simp] theorem state_map (f : α → β) : (o.map f).state = o.state := rfl

@[simp] theorem result_withState (state : τ) : (o.withState state).result = o.result := rfl

@[simp] theorem effects_withState (state : τ) : (o.withState state).effects = o.effects := rfl

@[simp] theorem state_withState (state : τ) : (o.withState state).state = state := rfl

end Outcome

def Action (σ α : Type) : Type := σ → Outcome σ α

namespace Action

protected def pure (a : α) : Action σ α := fun s => ⟨.ok a, [], s⟩

protected def bind (x : Action σ α) (f : α → Action σ β) : Action σ β := fun s =>
  let first := x s
  match first.result with
  | .ok a => (f a first.state).after first.effects
  | .error e => ⟨.error e, first.effects, first.state⟩

instance : Monad (Action σ) where
  pure := Action.pure
  bind := Action.bind

theorem bind_of_ok {x : Action σ α} {s : σ} (h : (x s).result = .ok a) (f : α → Action σ β) :
    (x >>= f) s = (f a (x s).state).after (x s).effects := by
  show Action.bind x f s = _
  simp only [Action.bind, h]

theorem bind_of_error {x : Action σ α} {s : σ} (h : (x s).result = .error e)
    (f : α → Action σ β) : (x >>= f) s = ⟨.error e, (x s).effects, (x s).state⟩ := by
  show Action.bind x f s = _
  simp only [Action.bind, h]

theorem bind_pure_apply (x : Action σ α) (f : α → β) (s : σ) :
    (x >>= fun a => pure (f a)) s = (x s).map f := by
  cases result : (x s).result with
  | error e => rw [bind_of_error result, Outcome.map, result, Except.map]
  | ok a =>
    rw [bind_of_ok result, Outcome.map, result]
    show Outcome.mk (.ok (f a)) ((x s).effects ++ []) (x s).state = _
    rw [List.append_nil, Except.map]

def ofExcept (x : Except Error α) : Action σ α := fun s => ⟨x, [], s⟩

def perform (effect : Effect) (x : Except Error α) : Action σ α := fun s => ⟨x, [effect], s⟩

def ofConsult (x : Consult α) : Action σ α := fun s =>
  ⟨x.result, x.calls.map .consult, s⟩

section
variable (s : σ) (f : α → Action σ β)

theorem ofExcept_ok_bind (a : α) : (ofExcept (.ok a) >>= f) s = f a s := rfl

theorem ofExcept_error_bind (e : Error) : (ofExcept (.error e) >>= f) s = ⟨.error e, [], s⟩ := rfl

theorem perform_ok_bind (effect : Effect) (a : α) :
    (perform effect (.ok a) >>= f) s = (f a s).after [effect] := rfl

theorem perform_error_bind (effect : Effect) (e : Error) :
    (perform effect (.error e) >>= f) s = ⟨.error e, [effect], s⟩ := rfl

theorem ofConsult_ok_bind (calls : List Call) (a : α) :
    (ofConsult ⟨calls, .ok a⟩ >>= f) s = (f a s).after (calls.map .consult) := rfl

theorem ofConsult_error_bind (calls : List Call) (e : Error) :
    (ofConsult ⟨calls, .error e⟩ >>= f) s = ⟨.error e, calls.map .consult, s⟩ := rfl

end
end Action
end SchemaTypes
