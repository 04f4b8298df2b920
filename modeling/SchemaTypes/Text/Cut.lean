/-! A text cut in two at one of its separators. -/
namespace SchemaTypes.Text

/-- What stands before and after the first `sep`, if there is one. -/
def cutFirst (sep : Char) (s : List Char) : Option (List Char × List Char) :=
  match s.dropWhile (· != sep) with
  | [] => none
  | _ :: after => some (s.takeWhile (· != sep), after)

def cutLast (sep : Char) (s : List Char) : Option (List Char × List Char) :=
  (cutFirst sep s.reverse).map fun (after, before) => (before.reverse, after.reverse)

def cutAtMark (mark : List Char) : List Char → Option (List Char × List Char)
  | [] => if mark = [] then some ([], []) else none
  | c :: rest =>
    if mark.isPrefixOf (c :: rest) then some ([], (c :: rest).drop mark.length)
    else (cutAtMark mark rest).map fun (before, after) => (c :: before, after)

section
variable {sep : Char} {s before after : List Char}

theorem bne_of_not_mem (absent : sep ∉ s) : ∀ c ∈ s, (c != sep) = true := by
  intro c member
  exact bne_iff_ne.mpr fun same => absent (same ▸ member)

theorem cutFirst_append (absent : sep ∉ before) (after : List Char) :
    cutFirst sep (before ++ sep :: after) = some (before, after) := by
  rw [cutFirst, List.dropWhile_append_of_pos (bne_of_not_mem absent),
    List.takeWhile_append_of_pos (bne_of_not_mem absent)]
  simp

theorem cutFirst_of_not_mem (absent : sep ∉ s) : cutFirst sep s = none := by
  have empty : s.dropWhile (· != sep) = [] := by
    rw [← List.append_nil s, List.dropWhile_append_of_pos (bne_of_not_mem absent),
      List.dropWhile_nil]
  rw [cutFirst, empty]

theorem cutFirst_eq_some_iff :
    cutFirst sep s = some (before, after) ↔ s = before ++ sep :: after ∧ sep ∉ before := by
  constructor
  · intro cut
    by_cases member : sep ∈ s
    · obtain ⟨front, back, rfl, absent⟩ := List.eq_append_cons_of_mem member
      rw [cutFirst_append absent] at cut
      obtain ⟨rfl, rfl⟩ := Prod.mk.inj (Option.some.inj cut)
      exact ⟨rfl, absent⟩
    · simp [cutFirst_of_not_mem member] at cut
  · rintro ⟨rfl, absent⟩
    exact cutFirst_append absent after

theorem cutLast_append (before : List Char) (absent : sep ∉ after) :
    cutLast sep (before ++ sep :: after) = some (before, after) := by
  have reversed : (before ++ sep :: after).reverse = after.reverse ++ sep :: before.reverse := by
    simp
  rw [cutLast, reversed, cutFirst_append (by simpa using absent)]
  simp

theorem cutLast_eq_some_iff :
    cutLast sep s = some (before, after) ↔ s = before ++ sep :: after ∧ sep ∉ after := by
  constructor
  · intro cut
    obtain ⟨⟨back, front⟩, found, same⟩ := Option.map_eq_some_iff.mp cut
    obtain ⟨rfl, rfl⟩ := Prod.mk.inj same
    obtain ⟨reversed, absent⟩ := cutFirst_eq_some_iff.mp found
    exact ⟨by simpa using congrArg List.reverse reversed, by simpa using absent⟩
  · rintro ⟨rfl, absent⟩
    exact cutLast_append before absent

end

/-- In `before ++ mark ++ after` no `mark` starts in front of the one between the two parts. -/
def EndsAtFirst (mark before after : List Char) : Prop :=
  ∀ front back, before ++ mark ++ after = front ++ mark ++ back → before.length ≤ front.length

theorem endsAtFirst_nil (mark after : List Char) : EndsAtFirst mark [] after :=
  fun _ _ _ => Nat.zero_le _

section
variable {mark before after : List Char}

theorem endsAtFirst_cons_iff {c : Char} : EndsAtFirst mark (c :: before) after ↔
    ¬ mark <+: c :: (before ++ mark ++ after) ∧ EndsAtFirst mark before after := by
  constructor
  · intro first
    constructor
    · rintro ⟨back, same⟩
      exact absurd (first [] back same.symm) (by simp)
    · intro front back same
      exact Nat.le_of_succ_le_succ (first (c :: front) back (congrArg (c :: ·) same))
  · rintro ⟨later, first⟩ front back same
    cases front with
    | nil => exact absurd ⟨back, same.symm⟩ later
    | cons d front => exact Nat.succ_le_succ (first front back (List.cons.inj same).2)

theorem endsAtFirst_of_not_mem {c : Char} (absent : c ∉ before) (mark after : List Char) :
    EndsAtFirst (c :: mark) before after := by
  induction before with
  | nil => exact endsAtFirst_nil _ after
  | cons d before ih =>
    have later := ih (List.not_mem_of_not_mem_cons absent)
    refine endsAtFirst_cons_iff.mpr ⟨fun here => ?_, later⟩
    exact absurd (List.cons_prefix_cons.mp here).1 (List.ne_of_not_mem_cons absent)

theorem EndsAtFirst.replace (first : EndsAtFirst mark before after) (other : List Char) :
    EndsAtFirst mark before other := by
  induction before with
  | nil => exact endsAtFirst_nil mark other
  | cons c before ih =>
    obtain ⟨later, first⟩ := endsAtFirst_cons_iff.mp first
    refine endsAtFirst_cons_iff.mpr ⟨fun here => later ?_, ih first⟩
    have short : mark.length ≤ (c :: (before ++ mark)).length := by simp; omega
    have within := List.prefix_of_prefix_length_le here (List.prefix_append _ other) short
    exact within.trans (List.prefix_append _ after)

theorem cutAtMark_eq_some_iff {s : List Char} : cutAtMark mark s = some (before, after) ↔
    s = before ++ mark ++ after ∧ EndsAtFirst mark before after := by
  induction s generalizing before with
  | nil =>
    rw [cutAtMark]
    split
    · next unmarked =>
      subst unmarked
      constructor
      · intro cut
        obtain ⟨rfl, rfl⟩ := Prod.mk.inj (Option.some.inj cut)
        exact ⟨rfl, endsAtFirst_nil _ _⟩
      · rintro ⟨parts, -⟩
        simp_all
    · next marked => simp [marked]
  | cons c rest ih =>
    rw [cutAtMark]
    split
    · next here =>
      obtain ⟨tail, same⟩ := List.isPrefixOf_iff_prefix.mp here
      rw [← same, List.drop_left]
      constructor
      · intro cut
        obtain ⟨rfl, rfl⟩ := Prod.mk.inj (Option.some.inj cut)
        exact ⟨rfl, endsAtFirst_nil _ _⟩
      · rintro ⟨parts, first⟩
        have empty : before = [] := List.eq_nil_of_length_eq_zero
          (Nat.le_zero.mp (first [] tail parts.symm))
        rw [empty, List.nil_append, List.append_cancel_left_eq] at parts
        rw [empty, parts]
    · next notHere =>
      rw [List.isPrefixOf_iff_prefix] at notHere
      constructor
      · intro cut
        obtain ⟨⟨front, back⟩, found, same⟩ := Option.map_eq_some_iff.mp cut
        obtain ⟨rfl, rfl⟩ := Prod.mk.inj same
        obtain ⟨rfl, first⟩ := ih.mp found
        exact ⟨rfl, endsAtFirst_cons_iff.mpr ⟨notHere, first⟩⟩
      · rintro ⟨parts, first⟩
        cases before with
        | nil => exact absurd ⟨after, parts.symm⟩ notHere
        | cons d front =>
          obtain ⟨rfl, rfl⟩ := List.cons.inj parts
          rw [ih.mpr ⟨rfl, (endsAtFirst_cons_iff.mp first).2⟩]
          rfl

end
end SchemaTypes.Text
