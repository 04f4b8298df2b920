import Mathlib
import SchemaTypes.Text.Letter

/-! Small and capital letters are apart. Both tables are lists of runs in the order of their members,
so one walk along the two compares every run with the few of the other table that it overlaps. Where
two runs overlap they take turns, one with even members and one with odd ones. -/
namespace SchemaTypes.Text
namespace CodeRange

/-- A run of every second code point, or of one only: its members are all even or all odd. -/
def KeepsParity (r : CodeRange) : Prop := r.step = 2 ∨ r.first = r.last

instance (r : CodeRange) : Decidable r.KeepsParity :=
  inferInstanceAs (Decidable (r.step = 2 ∨ r.first = r.last))

/-- Runs without a common member: one ends before the other starts, or one has even members and the
other odd ones. -/
def Apart (r q : CodeRange) : Prop :=
  r.last < q.first ∨ q.last < r.first ∨
    r.KeepsParity ∧ q.KeepsParity ∧ r.first % 2 ≠ q.first % 2

instance (r q : CodeRange) : Decidable (r.Apart q) :=
  inferInstanceAs (Decidable (r.last < q.first ∨ q.last < r.first ∨
    r.KeepsParity ∧ q.KeepsParity ∧ r.first % 2 ≠ q.first % 2))

theorem KeepsParity.mod_two {r : CodeRange} (keeps : r.KeepsParity) {code : Nat}
    (inside : r.contains code) : code % 2 = r.first % 2 := by
  simp only [contains, Bool.and_eq_true, decide_eq_true_eq, beq_iff_eq] at inside
  rcases keeps with two | single
  · rw [two] at inside
    omega
  · omega

theorem Apart.not_contains {r q : CodeRange} (apart : r.Apart q) {code : Nat}
    (inside : r.contains code) : ¬ q.contains code := by
  intro other
  rcases apart with before | behind | ⟨even, odd, different⟩
  · simp only [contains, Bool.and_eq_true, decide_eq_true_eq] at inside other
    omega
  · simp only [contains, Bool.and_eq_true, decide_eq_true_eq] at inside other
    omega
  · exact different ((even.mod_two inside).symm.trans (odd.mod_two other))

def InOrder (runs : List CodeRange) : Prop := runs.Pairwise (·.first ≤ ·.first)

theorem inOrder_of_isChain {runs : List CodeRange} (chain : runs.IsChain (·.first ≤ ·.first)) :
    InOrder runs := by
  have trans : IsTrans CodeRange (·.first ≤ ·.first) := ⟨fun _ _ _ => Nat.le_trans⟩
  exact List.isChain_iff_pairwise.mp chain

theorem InOrder.lt_of_mem_dropWhile {runs : List CodeRange} (order : InOrder runs) {bound : Nat}
    {q : CodeRange} (member : q ∈ runs.dropWhile (·.first ≤ bound)) : bound < q.first := by
  induction runs with
  | nil => simp at member
  | cons r rest ih =>
    obtain ⟨least, orderRest⟩ := List.pairwise_cons.mp order
    rw [List.dropWhile_cons] at member
    by_cases low : r.first ≤ bound
    · rw [if_pos (by simpa using low)] at member
      exact ih orderRest member
    · rw [if_neg (by simpa using low)] at member
      rcases List.mem_cons.mp member with rfl | later
      · omega
      · have above := least q later
        omega

/-- One walk along two lists. What ends before the run at hand is left behind, and the run is
compared with what starts before it ends. -/
def allApart : List CodeRange → List CodeRange → Bool
  | [], _ => true
  | r :: rest, others =>
    let ahead := others.dropWhile (·.last < r.first)
    (ahead.takeWhile (·.first ≤ r.last)).all (r.Apart ·) && allApart rest ahead

theorem apart_of_allApart {runs others : List CodeRange} (order : InOrder runs)
    (otherOrder : InOrder others) (walk : allApart runs others) :
    ∀ r ∈ runs, ∀ q ∈ others, r.Apart q := by
  induction runs generalizing others with
  | nil => simp
  | cons s rest ih =>
    rw [allApart, Bool.and_eq_true] at walk
    obtain ⟨near, later⟩ := walk
    obtain ⟨least, restOrder⟩ := List.pairwise_cons.mp order
    have aheadOrder := otherOrder.sublist (List.dropWhile_sublist (·.last < s.first))
    intro r listed q other
    rw [← List.takeWhile_append_dropWhile (p := (·.last < s.first)) (l := others),
      List.mem_append] at other
    rcases other with behind | front
    · -- What is left behind ends before the first run, and so before all of them.
      have ends : q.last < s.first := by simpa using List.mem_takeWhile_imp behind
      rcases List.mem_cons.mp listed with rfl | member
      · exact .inr (.inl ends)
      · exact .inr (.inl (ends.trans_le (least r member)))
    · rcases List.mem_cons.mp listed with rfl | member
      · have parts := front
        rw [← List.takeWhile_append_dropWhile (p := (·.first ≤ r.last))
          (l := others.dropWhile (·.last < r.first)), List.mem_append] at parts
        rcases parts with overlaps | beyond
        · simpa using List.all_eq_true.mp near q overlaps
        · exact .inl (InOrder.lt_of_mem_dropWhile aheadOrder beyond)
      · exact ih restOrder aheadOrder later r member q front

end CodeRange

theorem letterRanges_apart : ∀ r ∈ lowercaseRanges, ∀ q ∈ uppercaseRanges, r.Apart q :=
  CodeRange.apart_of_allApart (CodeRange.inOrder_of_isChain (by decide +kernel))
    (CodeRange.inOrder_of_isChain (by decide +kernel)) (by decide +kernel)

theorem isUppercase_of_isLowercase {c : Char} (small : isLowercase c) : isUppercase c = false := by
  unfold isLowercase at small
  unfold isUppercase
  split at small
  · next ascii =>
    rw [if_pos ascii, Bool.eq_false_iff]
    exact Char.not_isUpper_of_isLower small
  · next beyond =>
    rw [if_neg beyond, CodeRange.anyContains, List.any_eq_false]
    intro q listed
    obtain ⟨r, member, inside⟩ := List.any_eq_true.mp small
    exact (letterRanges_apart r member q listed).not_contains inside

theorem isLowercase_of_isUppercase {c : Char} (capital : isUppercase c) :
    isLowercase c = false := by
  rw [Bool.eq_false_iff]
  intro small
  rw [isUppercase_of_isLowercase small] at capital
  exact Bool.false_ne_true capital

end SchemaTypes.Text
