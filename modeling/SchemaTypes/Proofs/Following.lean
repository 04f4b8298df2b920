import SchemaTypes.Override.Consult

/-! Computations that make the calls of a list one after another, until one of them fails. -/
namespace SchemaTypes

/-- The first part of a list, up to an element that ends it. -/
def through (ends : α → Bool) : List α → List α
  | [] => []
  | a :: rest => if ends a then [a] else a :: through ends rest

section
variable {ends : α → Bool} {first : List α}

theorem through_of_none (goesOn : ∀ a ∈ first, ends a = false) : through ends first = first := by
  induction first with
  | nil => rfl
  | cons a rest ih =>
    rw [through, goesOn a List.mem_cons_self, if_neg Bool.false_ne_true,
      ih fun b member => goesOn b (List.mem_cons_of_mem a member)]

theorem through_append_of_none (goesOn : ∀ a ∈ first, ends a = false) (later : List α) :
    through ends (first ++ later) = first ++ through ends later := by
  induction first with
  | nil => rfl
  | cons a rest ih =>
    rw [List.cons_append, through, goesOn a List.mem_cons_self, if_neg Bool.false_ne_true,
      ih fun b member => goesOn b (List.mem_cons_of_mem a member), List.cons_append]

theorem through_append_of_some (stops : ∃ a ∈ first, ends a) (later : List α) :
    through ends (first ++ later) = through ends first := by
  induction first with
  | nil => simp at stops
  | cons a rest ih =>
    rw [List.cons_append, through, through]
    split
    · rfl
    · next goesOn =>
      have behind : ∃ b ∈ rest, ends b := by
        obtain ⟨b, member, here⟩ := stops
        rcases List.mem_cons.mp member with rfl | member
        · exact absurd here goesOn
        · exact ⟨b, member, here⟩
      rw [ih behind]

theorem through_map (f : β → α) (l : List β) :
    through ends (l.map f) = (through (fun b => ends (f b)) l).map f := by
  induction l with
  | nil => rfl
  | cons b rest ih =>
    rw [List.map_cons, through, through, ih]
    split <;> rfl

theorem mem_of_mem_through {l : List α} (member : a ∈ through ends l) : a ∈ l := by
  induction l with
  | nil => exact member
  | cons b rest ih =>
    rw [through] at member
    split at member
    · exact List.mem_singleton.mp member ▸ List.mem_cons_self
    · rcases List.mem_cons.mp member with rfl | later
      · exact List.mem_cons_self
      · exact List.mem_cons_of_mem b (ih later)

end

namespace Consult

/-- The calls of a schedule are made one after another until one of them fails. -/
def follow (failure? : Call → Option Error) (schedule : List Call) (a : α) : Consult α where
  calls := through (fun call => (failure? call).isSome) schedule
  result :=
    match schedule.findSome? failure? with
    | some e => .error e
    | none => .ok a

variable {failure? : Call → Option Error}

theorem follow_bind {first later : List Call} {a : α} {b : β} {f : α → Consult β}
    (next : f a = follow failure? later b) :
    (follow failure? first a >>= f) = follow failure? (first ++ later) b := by
  cases failed : first.findSome? failure? with
  | some e =>
    have result : (follow failure? first a).result = .error e := by simp only [follow, failed]
    obtain ⟨call, member, failure⟩ := List.exists_of_findSome?_eq_some failed
    have ended : ∃ call ∈ first, (failure? call).isSome := ⟨call, member, by simp [failure]⟩
    rw [bind_of_error result]
    simp only [follow, List.findSome?_append, failed, Option.some_or, through_append_of_some ended]
  | none =>
    have result : (follow failure? first a).result = .ok a := by simp only [follow, failed]
    have goesOn : ∀ call ∈ first, (failure? call).isSome = false := by
      simpa [List.findSome?_eq_none_iff] using failed
    rw [bind_of_ok result, next]
    simp only [follow, List.findSome?_append, failed, Option.none_or,
      through_append_of_none goesOn, through_of_none goesOn]

theorem follow_bind_pure {schedule : List Call} {a : α} {b : β} {f : α → Consult β}
    (next : f a = pure b) : (follow failure? schedule a >>= f) = follow failure? schedule b := by
  have unfollowed : f a = follow failure? [] b := next
  have all : (follow failure? schedule a >>= f) = follow failure? (schedule ++ []) b :=
    follow_bind unfollowed
  rwa [List.append_nil] at all

theorem follow_eq_error {schedule : List Call} {a : α} {e : Error} :
    (follow failure? schedule a).result = .error e ↔ schedule.findSome? failure? = some e := by
  unfold follow
  cases schedule.findSome? failure? <;> simp

/-- A failure is that of the last call, and those before did not fail. -/
theorem follow_stops {schedule : List Call} {a : α} {e : Error} :
    (follow failure? schedule a).result = .error e ↔ ∃ earlier call later,
      schedule = earlier ++ call :: later ∧ (∀ before ∈ earlier, failure? before = none) ∧
      failure? call = some e ∧ (follow failure? schedule a).calls = earlier ++ [call] := by
  rw [follow_eq_error, List.findSome?_eq_some_iff]
  constructor
  · rintro ⟨earlier, call, later, rfl, failure, fine⟩
    have goesOn : ∀ before ∈ earlier, (failure? before).isSome = false := by simpa using fine
    refine ⟨earlier, call, later, rfl, fine, failure, ?_⟩
    rw [follow, through_append_of_none goesOn, through, failure, Option.isSome_some, if_pos rfl]
  · rintro ⟨earlier, call, later, same, fine, failure, -⟩
    exact ⟨earlier, call, later, same, failure, fine⟩

theorem follow_fails {schedule : List Call} {a : α} :
    (∃ e, (follow failure? schedule a).result = .error e) ↔
      ∃ call ∈ (follow failure? schedule a).calls, ∃ e, failure? call = some e := by
  constructor
  · rintro ⟨e, failed⟩
    obtain ⟨earlier, call, later, -, -, failure, calls⟩ := follow_stops.mp failed
    exact ⟨call, by simp [calls], e, failure⟩
  · rintro ⟨call, called, e, failure⟩
    have first : schedule.findSome? failure? ≠ none := fun unfailed => by
      have fine := List.findSome?_eq_none_iff.mp unfailed call (mem_of_mem_through called)
      simp [fine] at failure
    obtain ⟨e, found⟩ := Option.ne_none_iff_exists'.mp first
    exact ⟨e, follow_eq_error.mpr found⟩

theorem follow_of_fine {schedule : List Call} {a : α}
    (fine : ∀ call ∈ (follow failure? schedule a).calls, failure? call = none) :
    follow failure? schedule a = ⟨schedule, .ok a⟩ := by
  have unfailed : schedule.findSome? failure? = none := by
    rw [Option.eq_none_iff_forall_ne_some]
    intro e found
    have stops : (follow failure? schedule a).result = .error e := follow_eq_error.mpr found
    obtain ⟨call, made, failure, failed⟩ := follow_fails.mp ⟨e, stops⟩
    simp [fine call made] at failed
  have goesOn : ∀ call ∈ schedule, (failure? call).isSome = false := by
    simpa [List.findSome?_eq_none_iff] using unfailed
  simp only [follow, unfailed, through_of_none goesOn]

end Consult

/-- A computation that makes the calls of a schedule until one fails. Its value, if none fails, has
some property. -/
def Follows (failure? : Call → Option Error) (schedule : List Call) (post : α → Prop)
    (x : Consult α) : Prop := ∃ a, post a ∧ x = .follow failure? schedule a

namespace Follows
variable {failure? : Call → Option Error} {first later : List Call} {post : α → Prop}
  {goal : β → Prop} {x : Consult α}

theorem pure (here : post a) : Follows failure? [] post (pure a) := ⟨a, here, rfl⟩

theorem bind {f : α → Consult β} (start : Follows failure? first post x)
    (next : ∀ a, post a → Follows failure? later goal (f a)) :
    Follows failure? (first ++ later) goal (x >>= f) := by
  obtain ⟨a, here, rfl⟩ := start
  obtain ⟨b, there, same⟩ := next a here
  exact ⟨b, there, Consult.follow_bind same⟩

end Follows

end SchemaTypes
