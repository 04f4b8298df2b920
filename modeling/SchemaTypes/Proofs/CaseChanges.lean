import SchemaTypes.Proofs.Recasing

/-! Where a text is cut into words. A row of letters and digits is cut where its case changes and
nowhere else: in front of a capital behind a small letter, and in front of the last capital of a row
of capitals that a small letter follows. This says what the words are without the scan that finds
them, and no other words fit it. Since they join to the row again, no letter or digit is lost,
repeated or moved. -/
namespace SchemaTypes.Text

/-- The last letter that is small or capital. Digits, and letters without case, are passed over. -/
def lastCased? (s : List Char) : Option Char :=
  s.reverse.find? fun c => isLowercase c || isUppercase c

/-- The case changes between two parts of a row. -/
inductive CaseChange : List Char → List Char → Prop
  /-- As between `log` and `Messages`. -/
  | capital {before after : List Char} {d c : Char} (behind : lastCased? before = some d)
      (small : isLowercase d) (capital : isUppercase c) : CaseChange before (c :: after)
  /-- As between `HTTP` and `Server`. -/
  | lastCapital {before after : List Char} {d c e : Char} (behind : lastCased? before = some d)
      (row : isUppercase d) (capital : isUppercase c) (small : isLowercase e) :
      CaseChange before (c :: e :: after)

/-- Some words at the front of a list join to `before`. -/
def EndsWord (list : List (List Char)) (before : List Char) : Prop :=
  ∃ front, front <+: list ∧ front.flatten = before

/-- The words of a row: none is empty, and one ends inside the row just where the case changes. -/
structure CutAtCaseChanges (row : List Char) (list : List (List Char)) : Prop where
  joined : list.flatten = row
  filled : [] ∉ list
  cuts : ∀ before after, before ++ after = row → before ≠ [] → after ≠ [] →
    (EndsWord list before ↔ CaseChange before after)

section
variable {list : List (List Char)} {word before : List Char} {c : Char}

theorem endsWord_nil : EndsWord list [] := ⟨[], List.nil_prefix, rfl⟩

theorem endsWord_flatten : EndsWord list list.flatten := ⟨list, List.prefix_rfl, rfl⟩

theorem endsWord_of_nil : EndsWord [] before ↔ before = [] := by
  simp [EndsWord, eq_comm]

theorem endsWord_cons : EndsWord (word :: list) before ↔
    before = [] ∨ ∃ rest, before = word ++ rest ∧ EndsWord list rest := by
  constructor
  · rintro ⟨front, start, rfl⟩
    rcases List.prefix_cons_iff.mp start with rfl | ⟨more, rfl, inside⟩
    · exact .inl rfl
    · exact .inr ⟨more.flatten, List.flatten_cons, more, inside, rfl⟩
  · rintro (rfl | ⟨rest, rfl, front, start, rfl⟩)
    · exact endsWord_nil
    · exact ⟨word :: front, (List.prefix_cons_inj word).mpr start, List.flatten_cons⟩

theorem endsWord_empty_cons : EndsWord ([] :: list) before ↔ EndsWord list before := by
  rw [endsWord_cons]
  constructor
  · rintro (rfl | ⟨rest, rfl, ends⟩)
    · exact endsWord_nil
    · exact ends
  · exact fun ends => .inr ⟨before, rfl, ends⟩

theorem endsWord_append (filled : word ≠ []) :
    EndsWord (word :: list) (word ++ before) ↔ EndsWord list before := by
  rw [endsWord_cons]
  simp [filled]

theorem endsWord_first : EndsWord (word :: list) word :=
  endsWord_cons.mpr (.inr ⟨[], (List.append_nil word).symm, endsWord_nil⟩)

theorem EndsWord.startsWithFirst (ends : EndsWord (word :: list) before) (filled : before ≠ []) :
    word <+: before := by
  rcases endsWord_cons.mp ends with empty | ⟨rest, rfl, -⟩
  · exact absurd empty filled
  · exact List.prefix_append word rest

theorem EndsWord.isPrefix (ends : EndsWord list before) : before <+: list.flatten := by
  obtain ⟨front, ⟨back, rfl⟩, rfl⟩ := ends
  rw [List.flatten_append]
  exact List.prefix_append front.flatten back.flatten

theorem endsWord_extendFirst (filled : before ≠ []) :
    EndsWord (extendFirst c list) (c :: before) ↔ EndsWord list before := by
  cases list with
  | nil =>
    rw [extendFirst, endsWord_cons]
    simp [endsWord_of_nil, filled]
  | cons word list =>
    rw [extendFirst, endsWord_cons, endsWord_cons]
    simp [filled]

theorem endsWord_extendFirst_singleton :
    EndsWord (extendFirst c list) [c] ↔ list.headD [] = [] := by
  cases list with
  | nil => exact iff_of_true endsWord_flatten rfl
  | cons word list =>
    rw [extendFirst, endsWord_cons]
    cases word <;> simp [endsWord_nil]

end

theorem eq_of_endsWord {list other : List (List Char)} (filled : [] ∉ list)
    (otherFilled : [] ∉ other) (same : ∀ before, EndsWord list before ↔ EndsWord other before) :
    list = other := by
  induction list generalizing other with
  | nil =>
    cases other with
    | nil => rfl
    | cons word rest =>
      have empty := endsWord_of_nil.mp ((same word).mpr endsWord_first)
      exact absurd (empty ▸ List.mem_cons_self) otherFilled
  | cons word list ih =>
    simp only [List.mem_cons, not_or] at filled
    cases other with
    | nil => exact absurd (endsWord_of_nil.mp ((same word).mp endsWord_first)).symm filled.1
    | cons first rest =>
      simp only [List.mem_cons, not_or] at otherFilled
      -- Each first word ends in the other list too, so neither is the longer one.
      have shorter := ((same word).mp endsWord_first).startsWithFirst (Ne.symm filled.1)
      have longer := ((same first).mpr endsWord_first).startsWithFirst (Ne.symm otherFilled.1)
      obtain rfl : word = first := longer.sublist.antisymm shorter.sublist
      have later : list = rest := ih filled.2 otherFilled.2 fun before => by
        rw [← endsWord_append (Ne.symm filled.1), same, endsWord_append (Ne.symm filled.1)]
      rw [later]

theorem lastCased?_concat (s : List Char) (c : Char) :
    lastCased? (s ++ [c]) = if isLowercase c || isUppercase c then some c else lastCased? s := by
  simp only [lastCased?, List.reverse_append, List.reverse_singleton, List.singleton_append,
    List.find?_cons]
  cases isLowercase c || isUppercase c <;> rfl

theorem foldl_after (s : List Char) :
    s.foldl LetterCase.after .neutral = (lastCased? s).elim .neutral LetterCase.neutral.after := by
  induction s using List.reverseRecOn with
  | nil => rfl
  | append_singleton s c ih =>
    rw [List.foldl_concat, lastCased?_concat, ih, LetterCase.after]
    by_cases small : isLowercase c
    · simp [small, LetterCase.after]
    · by_cases capital : isUppercase c <;> simp [small, capital, LetterCase.after]

namespace LetterCase
variable {c : Char} {after : List Char}

theorem isUppercase_of_after_eq_capital (capital : neutral.after c = .capital) : isUppercase c := by
  by_contra other
  rw [LetterCase.after, if_neg other] at capital
  split at capital <;> exact LetterCase.noConfusion capital

theorem not_starts_neutral : ¬ neutral.Starts after := by
  rintro (small | ⟨capital, -⟩)
  · exact LetterCase.noConfusion small
  · exact LetterCase.noConfusion capital

end LetterCase

theorem caseChange_iff {before after : List Char} {c : Char} :
    CaseChange before (c :: after) ↔
      isUppercase c ∧ (before.foldl LetterCase.after .neutral).Starts after := by
  rw [foldl_after]
  constructor
  · rintro (⟨behind, small, capital⟩ | ⟨behind, row, capital, small⟩) <;> rw [behind]
    · exact ⟨capital, .inl (LetterCase.after_of_isLowercase small)⟩
    · exact ⟨capital, .inr ⟨LetterCase.after_of_isUppercase row, _, rfl, small⟩⟩
  · rintro ⟨capital, starts⟩
    cases behind : lastCased? before with
    | none =>
      rw [behind] at starts
      exact absurd starts LetterCase.not_starts_neutral
    | some d =>
      rw [behind] at starts
      rcases starts with small | ⟨row, e, next, low⟩
      · exact .capital behind (LetterCase.isLowercase_of_after small) capital
      · obtain ⟨rest, rfl⟩ := List.head?_eq_some_iff.mp next
        exact .lastCapital behind (LetterCase.isUppercase_of_after_eq_capital row) capital low

theorem headD_extendFirst_ne_nil (c : Char) (list : List (List Char)) :
    (extendFirst c list).headD [] ≠ [] := by
  cases list <;> simp [extendFirst]

theorem tail_extendFirst (c : Char) (list : List (List Char)) :
    (extendFirst c list).tail = list.tail := by
  cases list <;> rfl

theorem nil_not_mem_of_tail {list : List (List Char)} (first : list.headD [] ≠ [])
    (rest : [] ∉ list.tail) : [] ∉ list := by
  cases list with
  | nil => exact rest
  | cons word list => exact fun member => (List.mem_cons.mp member).elim (first ·.symm) rest

/-- A word starts at once if the last letter read is a capital, the next one is a capital too, and
a small one follows. -/
theorem headD_words_eq_nil_iff (case : LetterCase) (c : Char) (rest : List Char) :
    (words case (c :: rest)).headD [] = [] ↔
      case = .capital ∧ isUppercase c ∧ ∃ e ∈ rest.head?, isLowercase e := by
  cases rest with
  | nil => simp [words]
  | cons next rest =>
    rcases words_cons_cons case c next rest with
      ⟨-, high, cut⟩ | ⟨row, capital, low, cut⟩ | ⟨-, inside, cut⟩
    · have notLow := isLowercase_of_isUppercase high
      rw [cut]
      simp [notLow]
    · rw [cut]
      simp [row, capital, low]
    · rw [cut]
      refine iff_of_false (headD_extendFirst_ne_nil c _) ?_
      rintro ⟨row, capital, e, found, low⟩
      obtain rfl : next = e := by simpa using found
      exact Bool.eq_false_iff.mp (inside row capital) low

theorem headD_words_neutral (c : Char) (rest : List Char) :
    (words .neutral (c :: rest)).headD [] ≠ [] := by
  rw [Ne, headD_words_eq_nil_iff]
  simp

theorem nil_not_mem_tail_words (case : LetterCase) (s : List Char) : [] ∉ (words case s).tail := by
  induction s generalizing case with
  | nil => simp [words]
  | cons c rest ih =>
    cases rest with
    | nil => simp [words]
    | cons next rest =>
      rcases words_cons_cons case c next rest with ⟨-, -, cut⟩ | ⟨-, -, -, cut⟩ | ⟨-, -, cut⟩
      · rw [cut, List.tail_cons]
        exact nil_not_mem_of_tail (headD_words_neutral next rest) (ih .neutral)
      · rw [cut, List.tail_cons]
        refine nil_not_mem_of_tail (headD_extendFirst_ne_nil c _) ?_
        rw [tail_extendFirst]
        exact ih .neutral
      · rw [cut, tail_extendFirst]
        exact ih (case.after c)

/-- Behind its first letter a text is cut if the next one is a capital that starts a word there. -/
theorem words_cut_first (case : LetterCase) (c next : Char) (rest : List Char) :
    EndsWord (words case (c :: next :: rest)) [c] ↔
      isUppercase next ∧ (case.after c).Starts rest := by
  rcases words_cons_cons case c next rest with
    ⟨small, capital, cut⟩ | ⟨-, -, low, cut⟩ | ⟨goesOn, -, cut⟩
  · rw [cut]
    exact iff_of_true endsWord_first ⟨capital, .inl small⟩
  · -- The word that starts with this letter goes on behind it, since a small one follows.
    have notHigh := isUppercase_of_isLowercase low
    rw [cut, endsWord_empty_cons, endsWord_extendFirst_singleton, headD_words_eq_nil_iff]
    simp [notHigh]
  · rw [cut, endsWord_extendFirst_singleton, headD_words_eq_nil_iff]
    constructor
    · rintro ⟨row, capital, small⟩
      exact ⟨capital, .inr ⟨row, small⟩⟩
    · rintro ⟨capital, small | ⟨row, low⟩⟩
      · exact absurd capital (Bool.eq_false_iff.mp (goesOn small))
      · exact ⟨row, capital, low⟩

/-- Further on it is cut like what is left of it, but perhaps read in another case: at a cut the scan
forgets what it has read, though only in front of a letter with a case of its own. -/
theorem words_cut_later (case : LetterCase) (c next : Char) (rest : List Char) :
    ∃ later : LetterCase, later.after next = (case.after c).after next ∧
      ∀ before, before ≠ [] → (EndsWord (words case (c :: next :: rest)) (c :: before) ↔
        EndsWord (words later (next :: rest)) before) := by
  rcases words_cons_cons case c next rest with
    ⟨-, capital, cut⟩ | ⟨-, -, low, cut⟩ | ⟨-, -, cut⟩
  · refine ⟨.neutral, ?_, fun before _ => ?_⟩
    · rw [LetterCase.after_of_isUppercase capital, LetterCase.after_of_isUppercase capital]
    · rw [cut]
      exact endsWord_append (List.cons_ne_nil c [])
  · refine ⟨.neutral, ?_, fun before filled => ?_⟩
    · rw [LetterCase.after_of_isLowercase low, LetterCase.after_of_isLowercase low]
    · rw [cut, endsWord_empty_cons, endsWord_extendFirst filled]
  · refine ⟨case.after c, rfl, fun before filled => ?_⟩
    rw [cut, endsWord_extendFirst filled]

/-- What is left of a row is cut where the case changes, as long as the scan takes its next letter
as if it knew everything in front of it. -/
theorem words_cuts {case : LetterCase} {read s before after : List Char}
    (alike : ∀ c ∈ s.head?, case.after c = (read ++ [c]).foldl LetterCase.after .neutral)
    (parts : before ++ after = s) (front : before ≠ []) (back : after ≠ []) :
    EndsWord (words case s) before ↔ CaseChange (read ++ before) after := by
  induction s generalizing case read before with
  | nil => exact absurd (List.append_eq_nil_iff.mp parts).1 front
  | cons c s ih =>
    obtain ⟨d, before, rfl⟩ := List.exists_cons_of_ne_nil front
    rw [List.cons_append, List.cons.injEq] at parts
    obtain ⟨rfl, joined⟩ := parts
    obtain ⟨next, rest, rfl⟩ : ∃ next rest, s = next :: rest :=
      List.exists_cons_of_ne_nil fun empty => back (List.append_eq_nil_iff.mp (joined.trans empty)).2
    have known := alike d rfl
    -- The first cut is read off the scan, and the others are cuts of what is left.
    by_cases first : before = []
    · subst first
      obtain rfl : after = next :: rest := joined
      rw [words_cut_first, caseChange_iff, known]
    · obtain ⟨later, same, goesOn⟩ := words_cut_later case d next rest
      rw [goesOn before first, List.append_cons]
      refine ih (fun e found => ?_) joined first
      obtain rfl : next = e := by simpa using found
      rw [same, known, List.foldl_concat _ _ _ (read ++ [d])]

theorem cutAtCaseChanges_words (row : List Char) :
    CutAtCaseChanges row (words .neutral row) where
  joined := flatten_words .neutral row
  filled := by
    cases row with
    | nil => simp [words]
    | cons c rest =>
      exact nil_not_mem_of_tail (headD_words_neutral c rest) (nil_not_mem_tail_words .neutral _)
  cuts before after parts front back := by
    have nothing : ∀ c ∈ row.head?,
        LetterCase.neutral.after c = ([] ++ [c]).foldl LetterCase.after .neutral := fun _ _ => rfl
    exact words_cuts nothing parts front back

theorem CutAtCaseChanges.endsWord_iff {row before : List Char} {list : List (List Char)}
    (cut : CutAtCaseChanges row list) : EndsWord list before ↔
      ∃ after, before ++ after = row ∧ (before = [] ∨ after = [] ∨ CaseChange before after) := by
  constructor
  · intro ends
    obtain ⟨after, parts⟩ := cut.joined ▸ ends.isPrefix
    refine ⟨after, parts, ?_⟩
    by_cases front : before = []
    · exact .inl front
    · by_cases back : after = []
      · exact .inr (.inl back)
      · exact .inr (.inr ((cut.cuts before after parts front back).mp ends))
  · rintro ⟨after, rfl, rfl | rfl | changes⟩
    · exact endsWord_nil
    · rw [← List.append_nil before, ← cut.joined]
      exact endsWord_flatten
    · by_cases front : before = []
      · exact front ▸ endsWord_nil
      · have back : after ≠ [] := by
          rintro rfl
          cases changes
        exact (cut.cuts before after rfl front back).mpr changes

theorem cutAtCaseChanges_iff {row : List Char} {list : List (List Char)} :
    CutAtCaseChanges row list ↔ words .neutral row = list := by
  have found := cutAtCaseChanges_words row
  constructor
  · intro cut
    refine eq_of_endsWord found.filled cut.filled fun before => ?_
    rw [found.endsWord_iff, cut.endsWord_iff]
  · rintro rfl
    exact found

theorem forall₂_cutAtCaseChanges_iff {rows : List (List Char)} {lists : List (List (List Char))} :
    List.Forall₂ CutAtCaseChanges rows lists ↔ rows.map (words .neutral) = lists := by
  rw [← congrFun₂ List.forall₂_eq_eq_eq, List.forall₂_map_left_iff]
  constructor
  · exact fun cut => cut.imp fun _ _ => cutAtCaseChanges_iff.mp
  · exact fun found => found.imp fun _ _ => cutAtCaseChanges_iff.mpr

/-- Cut into rows of letters and digits, and these into words where their case changes. The words
follow each other in their order, each with a capital in front and small letters behind. -/
def PascalCased (s out : List Char) : Prop :=
  ∃ lists, List.Forall₂ CutAtCaseChanges (s.splitOnP (!isAlphanumeric ·)) lists ∧
    out = lists.flatten.flatMap capitalize

theorem pascalCased_iff {s out : List Char} : PascalCased s out ↔ pascalChars s = out := by
  have joined : pascalChars s = ((pieces s).map (words .neutral)).flatten.flatMap capitalize := by
    rw [pascalChars_eq, pascalWords, ← List.flatMap_def]
  simp only [PascalCased, forall₂_cutAtCaseChanges_iff, exists_eq_left']
  rw [joined, eq_comm]
  rfl

/-- Pascal case keeps every letter and digit. It is made of the words that a text has where its case
changes, and of an ASCII text nothing else is left: its letters and digits, in their order and in
whatever case. What separates the words is left out, so any separator does for another, and it makes
no difference that some are replaced in the labels of enums. -/
theorem pascalCase_keeps_letters (s : String) :
    (∀ out : String, pascalCase s = out ↔ PascalCased s.toList out.toList) ∧
    (Ascii s.toList → (∀ c ∈ (pascalCase s).toList, c.isAlphanum) ∧
      (pascalCase s).toList.map Char.toLower =
        (s.toList.filter Char.isAlphanum).map Char.toLower) ∧
    (∀ t : String, List.Forall₂ Interchangeable s.toList t.toList →
      pascalCase t = pascalCase s) ∧
    memberCase s = pascalCase s := by
  refine ⟨fun out => ?_, fun ascii => ?_, fun t separators => ?_, memberCase_eq_pascalCase s⟩
  · rw [pascalCased_iff, pascalCase, ← String.toList_inj, String.toList_ofList]
  · have spells := spells_pascalChars ascii
    rw [pascalCase, String.toList_ofList]
    exact ⟨fun c member => spells.isAlphanum member, spells⟩
  · exact (pascalCase_congr separators).symm

/-- A digit among capitals, a last capital, a change of case at a separator, and separators replaced
by others that are not ASCII. -/
theorem pascalCase_keeps_letters_http2_server :
    let s := "HTTP2Server_v1.0-RC"
    let t := "HTTP2Server—v1 0…RC"
    let out := "Http2ServerV10Rc"
    Ascii s.toList ∧ List.Forall₂ Interchangeable s.toList t.toList ∧
      PascalCased s.toList out.toList ∧ (∀ c ∈ out.toList, c.isAlphanum) ∧
      out.toList.map Char.toLower = (s.toList.filter Char.isAlphanum).map Char.toLower ∧
      pascalCase t = out ∧ memberCase s = out := by
  intro s t out
  have ascii : Ascii s.toList := by decide
  have separators : List.Forall₂ Interchangeable s.toList t.toList := by decide +kernel
  have cased : pascalCase s = out := by decide +kernel
  obtain ⟨only, keeps, ignores, label⟩ := pascalCase_keeps_letters s
  obtain ⟨parts, letters⟩ := keeps ascii
  rw [cased] at parts letters label
  exact ⟨ascii, separators, (only out).mp cased, parts, letters,
    (ignores t separators).trans cased, label⟩

end SchemaTypes.Text
