import SchemaTypes.Error
import SchemaTypes.Override

/-! Asking overrides. A computation that consults resolvers records each call, also the one that
fails, and ends at the first failure. -/
namespace SchemaTypes

/-- One call of a resolver: the key it stands under, what it was asked about and the text so far.
A type resolver is asked about no category. -/
structure Call where
  key : String
  category : Option NameCategory
  column : Column
  current : String
  deriving DecidableEq, Repr

structure Consult (α : Type) where
  calls : List Call
  result : Except Error α

namespace Consult

protected def pure (a : α) : Consult α := ⟨[], .ok a⟩

protected def bind (x : Consult α) (f : α → Consult β) : Consult β :=
  match x.result with
  | .ok a => ⟨x.calls ++ (f a).calls, (f a).result⟩
  | .error e => ⟨x.calls, .error e⟩

instance : Monad Consult where
  pure := Consult.pure
  bind := Consult.bind

@[simp] theorem calls_pure (a : α) : (pure a : Consult α).calls = [] := rfl
@[simp] theorem result_pure (a : α) : (pure a : Consult α).result = .ok a := rfl

theorem bind_of_ok {x : Consult α} (h : x.result = .ok a) (f : α → Consult β) :
    x >>= f = ⟨x.calls ++ (f a).calls, (f a).result⟩ := by
  show Consult.bind x f = _
  simp [Consult.bind, h]

theorem bind_of_error {x : Consult α} (h : x.result = .error e) (f : α → Consult β) :
    x >>= f = ⟨x.calls, .error e⟩ := by
  show Consult.bind x f = _
  simp [Consult.bind, h]

theorem bind_eq_ok {x : Consult α} {f : α → Consult β} :
    (x >>= f).result = .ok b ↔ ∃ a, x.result = .ok a ∧ (f a).result = .ok b := by
  cases first : x.result with
  | error e => simp [bind_of_error first]
  | ok a => simp [bind_of_ok first]

def ask (call : Call) (opinion : ρ → Opinion) : Entry ρ → Consult (Option String)
  | .literal text => pure (some text)
  | .resolver resolve => ⟨[call], (opinion resolve).mapError (.resolver call.key)⟩

end Consult

namespace OverrideMap

/-- The opinion of the first key that has one. `*` is not a key here, even if a table or a column
is named so. -/
def firstOpinion (map : OverrideMap ρ) (ask : String → Entry ρ → Consult (Option String)) :
    List String → Consult (Option String)
  | [] => pure none
  | key :: keys =>
    if key = wildcardKey then map.firstOpinion ask keys
    else
      match map.get? key with
      | none => map.firstOpinion ask keys
      | some entry => do
        match ← ask key entry with
        | some text => pure (some text)
        | none => map.firstOpinion ask keys

/-- The opinion of the wildcard on a text, or the text. -/
def lastOpinion (map : OverrideMap ρ) (ask : String → Entry ρ → Consult (Option String))
    (text : String) : Consult String :=
  match map.wildcard? with
  | none => pure text
  | some entry => do return (← ask wildcardKey entry).getD text

end OverrideMap
end SchemaTypes
