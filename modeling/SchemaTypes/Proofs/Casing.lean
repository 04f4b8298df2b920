import Mathlib
import SchemaTypes.Text.Quoted
import SchemaTypes.Text.Words

/-! Pascal case, letter by letter. Cutting a text into words moves no character, so the Pascal case
of an ASCII text has its letters and digits in their order, and nothing else. It is an identifier
exactly if the first of them is a letter. No text in Pascal case starts with a small letter. Which
separators a text has makes no difference to any of this. -/
namespace SchemaTypes.Text

def Ascii (s : List Char) : Prop := ∀ c ∈ s, c.toNat < 0x80

instance (s : List Char) : Decidable (Ascii s) :=
  List.decidableBAll (fun c : Char => c.toNat < 0x80) s

theorem flatten_extendFirst (c : Char) (list : List (List Char)) :
    (extendFirst c list).flatten = c :: list.flatten := by
  cases list <;> simp [extendFirst]

theorem words_cons_cons (case : LetterCase) (c next : Char) (rest : List Char) :
    (case.after c = .small ∧ isUppercase next ∧
      words case (c :: next :: rest) = [c] :: words .neutral (next :: rest)) ∨
    (case = .capital ∧ isUppercase c ∧ isLowercase next ∧
      words case (c :: next :: rest) = [] :: extendFirst c (words .neutral (next :: rest))) ∨
    ((case.after c = .small → isUppercase next = false) ∧
      (case = .capital → isUppercase c → isLowercase next = false) ∧
      words case (c :: next :: rest) = extendFirst c (words (case.after c) (next :: rest))) := by
  rw [words]
  split
  · next ends =>
    simp only [Bool.and_eq_true, decide_eq_true_eq] at ends
    exact .inl ⟨ends.1, ends.2, rfl⟩
  · next goesOn =>
    simp only [Bool.and_eq_true, decide_eq_true_eq, not_and, Bool.not_eq_true] at goesOn
    split
    · next last =>
      simp only [Bool.and_eq_true, decide_eq_true_eq] at last
      exact .inr (.inl ⟨last.1.1, last.1.2, last.2, rfl⟩)
    · next inside =>
      simp only [Bool.and_eq_true, decide_eq_true_eq, not_and, Bool.not_eq_true] at inside
      exact .inr (.inr ⟨goesOn, fun row capital => inside ⟨row, capital⟩, rfl⟩)

theorem flatten_words (case : LetterCase) (s : List Char) : (words case s).flatten = s := by
  induction s generalizing case with
  | nil => simp [words]
  | cons c rest ih =>
    cases rest with
    | nil => simp [words]
    | cons next rest =>
      rcases words_cons_cons case c next rest with ⟨-, -, cut⟩ | ⟨-, -, -, cut⟩ | ⟨-, -, cut⟩
      · rw [cut, List.flatten_cons, ih, List.singleton_append]
      · rw [cut, List.flatten_cons, flatten_extendFirst, ih, List.nil_append]
      · rw [cut, flatten_extendFirst, ih]

theorem flatten_pieces (s : List Char) : (pieces s).flatten = s.filter isAlphanumeric := by
  induction s with
  | nil => rfl
  | cons c s ih =>
    unfold pieces at ih ⊢
    rw [List.splitOnP_cons_eq_if_modifyHead]
    cases part : isAlphanumeric c with
    | false => simpa [part] using ih
    | true =>
      obtain ⟨first, rest, cut⟩ :=
        List.exists_cons_of_ne_nil (List.splitOnP_ne_nil (!isAlphanumeric ·) s)
      simp [part, cut, ← ih]

/-- The words that are capitalized and joined. -/
def pascalWords (s : List Char) : List (List Char) := (pieces s).flatMap (words .neutral)

theorem pascalChars_eq (s : List Char) : pascalChars s = (pascalWords s).flatMap capitalize := by
  rw [pascalWords, List.flatMap_assoc]
  rfl

theorem flatten_pascalWords (s : List Char) :
    (pascalWords s).flatten = s.filter isAlphanumeric := by
  rw [← flatten_pieces, pascalWords]
  induction pieces s with
  | nil => rfl
  | cons piece rest ih => simp [flatten_words, ih]

/-- Two characters between which words see no difference: one and the same, or separators both. -/
def Interchangeable (c d : Char) : Prop :=
  c = d ∨ isAlphanumeric c = false ∧ isAlphanumeric d = false

instance (c d : Char) : Decidable (Interchangeable c d) :=
  inferInstanceAs (Decidable (c = d ∨ isAlphanumeric c = false ∧ isAlphanumeric d = false))

theorem pieces_congr {s t : List Char} (separators : List.Forall₂ Interchangeable s t) :
    pieces s = pieces t := by
  unfold pieces
  induction separators with
  | nil => rfl
  | cons first rest ih =>
    rw [List.splitOnP_cons_eq_if_modifyHead, List.splitOnP_cons_eq_if_modifyHead, ih]
    rcases first with rfl | ⟨left, right⟩
    · rfl
    · simp [left, right]

theorem pascalCase_congr {s t : String}
    (separators : List.Forall₂ Interchangeable s.toList t.toList) :
    pascalCase s = pascalCase t := by
  rw [pascalCase, pascalCase, pascalChars, pascalChars, pieces_congr separators]

/-- The punctuation that is replaced in labels separates words, and so does what replaces it. -/
theorem memberCase_eq_pascalCase (label : String) : memberCase label = pascalCase label := by
  refine pascalCase_congr ?_
  rw [String.toList_map, List.forall₂_map_left_iff, List.forall₂_same]
  intro c _
  split
  · next mark =>
    rw [Bool.or_eq_true, decide_eq_true_iff, decide_eq_true_iff] at mark
    rcases mark with rfl | rfl <;> exact .inr (by decide)
  · exact .inl rfl

theorem Ascii.filter_isAlphanumeric {s : List Char} (ascii : Ascii s) :
    s.filter isAlphanumeric = s.filter Char.isAlphanum :=
  List.filter_congr fun c member => isAlphanumeric_of_ascii (ascii c member)

theorem ascii_of_isAlphanum {c : Char} (part : c.isAlphanum) : c.toNat < 0x80 := by
  simp only [Char.isAlphanum, Char.isAlpha, Char.isUpper, Char.isLower, Char.isDigit,
    Bool.or_eq_true, Bool.and_eq_true, decide_eq_true_eq, UInt32.le_iff_toNat_le, ge_iff_le] at part
  have code : c.toNat = c.val.toNat := rfl
  have capital : 'Z'.val.toNat = 90 := rfl
  have small : 'z'.val.toNat = 122 := rfl
  have digit : '9'.val.toNat = 57 := rfl
  omega

theorem isAlphanum_toLower (c : Char) : c.toLower.isAlphanum = c.isAlphanum := by
  by_cases upper : c.isUpper
  · simp [Char.isAlphanum, Char.isAlpha, upper]
  · rw [Char.toLower_eq_of_not_isUpper upper]

theorem lowerTail_of_ascii {s : List Char} (ascii : Ascii s) :
    lowerTail s = s.map Char.toLower := by
  induction s using lowerTail.induct with
  | case1 => rfl
  | case2 => exact absurd (ascii 'Σ' List.mem_cons_self) (by decide)
  | case3 c rest other ih =>
    have later := ih fun d member => ascii d (List.mem_cons_of_mem c member)
    rw [lowerTail, toSmall_of_ascii (ascii c List.mem_cons_self), later]
    · rfl
    · exact other

theorem map_toLower_capitalize {word : List Char} (ascii : Ascii word) :
    (capitalize word).map Char.toLower = word.map Char.toLower := by
  cases word with
  | nil => rfl
  | cons c rest =>
    have tail := lowerTail_of_ascii fun d member => ascii d (List.mem_cons_of_mem c member)
    rw [capitalize, toCapital_of_ascii (ascii c List.mem_cons_self), tail]
    simp [Function.comp_def]

theorem map_toLower_flatMap_capitalize {list : List (List Char)} (ascii : Ascii list.flatten) :
    (list.flatMap capitalize).map Char.toLower = list.flatten.map Char.toLower := by
  induction list with
  | nil => rfl
  | cons word rest ih =>
    have first : Ascii word := fun c member => ascii c (by simp [member])
    have later : Ascii rest.flatten := fun c member => ascii c (by
      rw [List.flatten_cons]
      exact List.mem_append_right word member)
    rw [List.flatMap_cons, List.map_append, map_toLower_capitalize first, ih later,
      List.flatten_cons, List.map_append]

/-- The letters and digits of a text, in their order and nothing else, in whatever case. -/
def Spells (out s : List Char) : Prop :=
  out.map Char.toLower = (s.filter Char.isAlphanum).map Char.toLower

theorem spells_pascalChars {s : List Char} (ascii : Ascii s) : Spells (pascalChars s) s := by
  have part : Ascii (pascalWords s).flatten := by
    rw [flatten_pascalWords]
    exact fun c member => ascii c (List.mem_of_mem_filter member)
  rw [Spells, pascalChars_eq, map_toLower_flatMap_capitalize part, flatten_pascalWords,
    ascii.filter_isAlphanumeric]

namespace Spells
variable {out s : List Char}

theorem isAlphanum (spells : Spells out s) {c : Char} (member : c ∈ out) : c.isAlphanum := by
  have small : c.toLower ∈ (s.filter Char.isAlphanum).map Char.toLower :=
    spells ▸ List.mem_map_of_mem member
  obtain ⟨d, inside, same⟩ := List.mem_map.mp small
  rw [← isAlphanum_toLower, ← same, isAlphanum_toLower]
  exact (List.mem_filter.mp inside).2

theorem ascii (spells : Spells out s) : Ascii out :=
  fun _ member => ascii_of_isAlphanum (spells.isAlphanum member)

theorem trans {next : List Char} (second : Spells next out) (first : Spells out s) :
    Spells next s := by
  have all : out.filter Char.isAlphanum = out :=
    List.filter_eq_self.mpr fun _ member => first.isAlphanum member
  rw [Spells, second, all, first]

theorem append {more t : List Char} (first : Spells out s) (second : Spells more t) :
    Spells (out ++ more) (s ++ t) := by
  rw [Spells, List.map_append, first, second, List.filter_append, List.map_append]

end Spells

/-- The first letter or digit of a text is there, and it is a letter. -/
def LeadsWithLetter (s : List Char) : Prop := ∃ c, s.find? Char.isAlphanum = some c ∧ c.isAlpha

instance (s : List Char) : Decidable (LeadsWithLetter s) :=
  decidable_of_iff ((s.find? Char.isAlphanum).any Char.isAlpha) (by
    unfold LeadsWithLetter
    cases s.find? Char.isAlphanum <;> simp)

theorem isIdentifierChars_iff {s : List Char} (parts : ∀ c ∈ s, c.isAlphanum) :
    isIdentifierChars s ↔ ∃ c, s.head? = some c ∧ c.isAlpha := by
  cases s with
  | nil => simp [isIdentifierChars]
  | cons c rest =>
    have noLow : c ≠ '_' := by
      rintro rfl
      exact absurd (parts '_' List.mem_cons_self) (by decide)
    have noDollar : c ≠ '$' := by
      rintro rfl
      exact absurd (parts '$' List.mem_cons_self) (by decide)
    have later : rest.all isIdentifierPart := by
      rw [List.all_eq_true]
      intro d member
      simp [isIdentifierPart, parts d (List.mem_cons_of_mem c member)]
    simp [isIdentifierChars, isIdentifierStart, noLow, noDollar, later]

theorem Spells.isIdentifierChars_iff {out s : List Char} (spells : Spells out s) :
    isIdentifierChars out ↔ LeadsWithLetter s := by
  have heads := congrArg List.head? spells
  rw [List.head?_map, List.head?_map, List.head?_filter] at heads
  rw [Text.isIdentifierChars_iff fun c member => spells.isAlphanum member, LeadsWithLetter]
  cases first : out.head? with
  | none =>
    rw [first, Option.map_none] at heads
    have empty := Option.map_eq_none_iff.mp heads.symm
    simp [empty]
  | some c =>
    rw [first, Option.map_some] at heads
    obtain ⟨d, found, same⟩ := Option.map_eq_some_iff.mp heads.symm
    have letters : c.isAlpha = d.isAlpha := by
      rw [← Char.isAlpha_toLower_eq_isAlpha, ← same, Char.isAlpha_toLower_eq_isAlpha]
    simp [found, letters]

theorem isLower_iff {c : Char} : c.isLower ↔ 97 ≤ c.toNat ∧ c.toNat ≤ 122 := by
  simp only [Char.isLower, Bool.and_eq_true, decide_eq_true_eq, ge_iff_le, UInt32.le_iff_toNat_le]
  rfl

theorem isLower_ofNat {n : Nat} (other : n < 97 ∨ 122 < n) : (Char.ofNat n).isLower = false := by
  rw [Bool.eq_false_iff]
  intro small
  obtain ⟨above, below⟩ := isLower_iff.mp small
  rw [Char.toNat_ofNat] at above below
  by_cases valid : n.isValidChar
  · rw [if_pos valid] at above below
    omega
  · rw [if_neg valid] at above
    omega

theorem capitalExpansions_heads : ∀ form ∈ capitalExpansions,
    ∃ code ∈ form.2.head?, code < 97 ∨ 122 < code := by
  decide +kernel

theorem capitalShifts_apart : ∀ shift ∈ capitalShifts,
    shift.range.last + shift.offset < 97 ∨ 122 < shift.range.first + shift.offset := by
  decide +kernel

theorem toCapital_head (c : Char) : ∃ d rest, toCapital c = d :: rest ∧ d.isLower = false := by
  unfold toCapital
  split
  · exact ⟨c.toUpper, [], rfl, Char.isLower_toUpper_eq_false c⟩
  · next beyond =>
    unfold mapCase
    split
    · next codes found =>
      obtain ⟨before, behind, table, _⟩ := List.lookup_eq_some_iff.mp found
      obtain ⟨code, first, other⟩ := capitalExpansions_heads (c.toNat, codes) (by simp [table])
      obtain ⟨rest, rfl⟩ := List.head?_eq_some_iff.mp first
      exact ⟨Char.ofNat code, rest.map Char.ofNat, rfl, isLower_ofNat other⟩
    · split
      · next shift found =>
        have range := List.find?_some found
        have apart := capitalShifts_apart shift (List.mem_of_find?_eq_some found)
        simp only [CodeRange.contains, Bool.and_eq_true, decide_eq_true_eq] at range
        exact ⟨_, [], rfl, isLower_ofNat (by omega)⟩
      · refine ⟨c, [], rfl, Bool.eq_false_iff.mpr fun small => ?_⟩
        have below := (isLower_iff.mp small).2
        omega

theorem capitalize_head {word : List Char} {c : Char} (first : (capitalize word).head? = some c) :
    c.isLower = false := by
  cases word with
  | nil => simp [capitalize] at first
  | cons d rest =>
    obtain ⟨capital, more, form, other⟩ := toCapital_head d
    have same : capital = c := by simpa [capitalize, form] using first
    exact same ▸ other

theorem pascalChars_head {s : List Char} {c : Char} (first : (pascalChars s).head? = some c) :
    c.isLower = false := by
  rw [pascalChars_eq, List.head?_flatMap] at first
  obtain ⟨word, _, found⟩ := List.exists_of_findSome?_eq_some first
  exact capitalize_head found

theorem pascalCase_ne {s name : String} {c : Char} {rest : List Char}
    (chars : name.toList = c :: rest) (small : c.isLower) : pascalCase s ≠ name := by
  intro same
  have first : (pascalChars s.toList).head? = some c := by
    rw [← String.toList_ofList (l := pascalChars s.toList), ← pascalCase, same, chars]
    rfl
  simp [pascalChars_head first] at small

end SchemaTypes.Text
