import SchemaTypes.Proofs.Defaults
import SchemaTypes.Proofs.LetterTables

/-! Pascal case of what is in Pascal case already. The schema in the name of a record type goes
through it twice. That changes nothing exactly if the words of the first time are found again, and
for this every capital has to start a word where it stands. A row of single letters is not found
again: `p_l` is brought to `PL` first, which is one word, and to `Pl` then. -/
namespace SchemaTypes
namespace Text

/-- Whether a capital starts a word between a letter of some case and what follows: behind a small
letter it always does, and behind another capital if a small letter follows. -/
def LetterCase.Starts (case : LetterCase) (after : List Char) : Prop :=
  case = .small ∨ case = .capital ∧ ∃ c ∈ after.head?, isLowercase c

/-- Behind a letter of some case, every capital of a text starts a word. Digits are passed over. -/
def CapitalsStart (case : LetterCase) (s : List Char) : Prop :=
  ∀ before c after, s = before ++ c :: after → isUppercase c →
    (before.foldl LetterCase.after case).Starts after

/-- Every capital of a text starts a word, if it does not start the text. -/
def CapitalsStartWords (s : List Char) : Prop :=
  ∀ before c after, s = before ++ c :: after → before ≠ [] → isUppercase c →
    (before.foldl LetterCase.after .neutral).Starts after

theorem capitalsStart_nil (case : LetterCase) : CapitalsStart case [] := by
  simp [CapitalsStart]

theorem capitalsStart_cons {case : LetterCase} {c : Char} {rest : List Char} :
    CapitalsStart case (c :: rest) ↔
      (isUppercase c → case.Starts rest) ∧ CapitalsStart (case.after c) rest := by
  constructor
  · intro all
    refine ⟨all [] c rest rfl, fun before d after split capital => ?_⟩
    exact all (c :: before) d after (by rw [split, List.cons_append]) capital
  · rintro ⟨first, later⟩ before d after split capital
    cases before with
    | nil =>
      obtain ⟨rfl, rfl⟩ := List.cons.inj split
      exact first capital
    | cons b before =>
      obtain ⟨rfl, tail⟩ := List.cons.inj split
      exact later before d after tail capital

theorem capitalsStartWords_cons {c : Char} {rest : List Char} :
    CapitalsStartWords (c :: rest) ↔ CapitalsStart (LetterCase.neutral.after c) rest := by
  constructor
  · intro all before d after split capital
    exact all (c :: before) d after (by rw [split, List.cons_append]) (List.cons_ne_nil c before)
      capital
  · intro later before d after split inside capital
    cases before with
    | nil => exact absurd rfl inside
    | cons b before =>
      obtain ⟨rfl, tail⟩ := List.cons.inj split
      exact later before d after tail capital

section
variable {c : Char} {rest : List Char}

theorem toUpper_eq_self_iff (ascii : c.toNat < 0x80) :
    c.toUpper = c ↔ isLowercase c = false := by
  rw [isLowercase_of_ascii ascii]
  constructor
  · intro same
    rw [← same]
    exact Char.isLower_toUpper_eq_false c
  · intro other
    exact Char.toUpper_eq_of_not_isLower (Bool.eq_false_iff.mp other)

theorem toLower_eq_self_iff (ascii : c.toNat < 0x80) :
    c.toLower = c ↔ isUppercase c = false := by
  rw [isUppercase_of_ascii ascii]
  constructor
  · intro same
    rw [← same]
    exact Char.isUpper_toLower_eq_false c
  · intro other
    exact Char.toLower_eq_of_not_isUpper (Bool.eq_false_iff.mp other)

theorem capitalize_eq_self_iff (ascii : Ascii (c :: rest)) :
    capitalize (c :: rest) = c :: rest ↔
      isLowercase c = false ∧ ∀ d ∈ rest, isUppercase d = false := by
  have first : c.toNat < 0x80 := ascii c List.mem_cons_self
  have later : Ascii rest := fun d member => ascii d (List.mem_cons_of_mem c member)
  have tail : rest.map Char.toLower = rest ↔ ∀ d ∈ rest, isUppercase d = false := by
    conv_lhs => rw [← List.map_id rest, List.map_map, List.map_inj_left]
    exact forall₂_congr fun d member => toLower_eq_self_iff (later d member)
  rw [capitalize, toCapital_of_ascii first, lowerTail_of_ascii later, List.singleton_append,
    List.cons.injEq, toUpper_eq_self_iff first, tail]

end

/-- The words with which a text goes on in the middle of one: no capital in what is left of this
one, and nothing to change in the others. -/
def GoesOn : List (List Char) → Prop
  | [] => True
  | word :: list => (∀ c ∈ word, isUppercase c = false) ∧ ∀ w ∈ list, capitalize w = w

theorem goesOn_extendFirst {c : Char} {list : List (List Char)} :
    GoesOn (extendFirst c list) ↔ isUppercase c = false ∧ GoesOn list := by
  cases list <;> simp [extendFirst, GoesOn, and_assoc]

theorem kept_extendFirst {c : Char} {list : List (List Char)} (ascii : Ascii (c :: list.flatten)) :
    (∀ w ∈ extendFirst c list, capitalize w = w) ↔ isLowercase c = false ∧ GoesOn list := by
  cases list with
  | nil =>
    have alone : Ascii [c] := ascii
    simp [extendFirst, GoesOn, capitalize_eq_self_iff alone]
  | cons word list =>
    have first : Ascii (c :: word) := fun d member => ascii d (by
      rw [List.flatten_cons, ← List.cons_append]
      exact List.mem_append_left _ member)
    rw [extendFirst, List.forall_mem_cons, capitalize_eq_self_iff first, GoesOn, and_assoc]

namespace LetterCase
variable {case : LetterCase} {c : Char} {after : List Char}

theorem after_of_isLowercase (small : isLowercase c) : case.after c = .small := by
  rw [LetterCase.after, if_pos small]

theorem after_of_isUppercase (capital : isUppercase c) : case.after c = .capital := by
  rw [LetterCase.after, isLowercase_of_isUppercase capital, if_neg Bool.false_ne_true,
    if_pos capital]

theorem isUppercase_of_after (small : case.after c = .small) : isUppercase c = false := by
  rw [Bool.eq_false_iff]
  intro capital
  rw [after_of_isUppercase capital] at small
  exact LetterCase.noConfusion small

theorem isLowercase_of_after (small : neutral.after c = .small) : isLowercase c := by
  by_contra high
  rw [LetterCase.after, if_neg high] at small
  split at small <;> exact LetterCase.noConfusion small

theorem starts_small : small.Starts after := .inl rfl

theorem starts_of_isLowercase {next : Char} (low : isLowercase next) :
    capital.Starts (next :: after) := .inr ⟨rfl, next, rfl, low⟩

/-- No word starts with a capital that is neither behind a small letter nor, behind another capital,
in front of one. -/
theorem not_starts (apart : case = .small → isUppercase c = false)
    (row : case = .capital → isUppercase c → ∀ d ∈ after.head?, isLowercase d = false)
    (capital : isUppercase c) : ¬ case.Starts after := by
  rintro (small | ⟨behind, d, next, low⟩)
  · rw [apart small] at capital
    exact Bool.false_ne_true capital
  · rw [row behind capital d next] at low
    exact Bool.false_ne_true low

theorem starts_only (never : isUppercase c → ¬ case.Starts after) :
    (isUppercase c → case.Starts after) ↔ isUppercase c = false := by
  rw [Bool.eq_false_iff]
  exact ⟨fun starts capital => never capital (starts capital),
    fun small capital => absurd capital small⟩

end LetterCase

/-- What the words of a text keep. The text may start in the middle of a word, but not with a
capital behind a small letter, since that would have ended the word. -/
theorem words_capitals (case : LetterCase) (s : List Char) (ascii : Ascii s) :
    ((case = .small → ∀ c ∈ s.head?, isUppercase c = false) →
      (GoesOn (words case s) ↔ CapitalsStart case s)) ∧
    (case = .neutral → ((∀ w ∈ words case s, capitalize w = w) ↔
      (∀ c ∈ s.head?, isLowercase c = false) ∧ CapitalsStartWords s)) := by
  induction s generalizing case with
  | nil => simp [words, GoesOn, CapitalsStart, CapitalsStartWords]
  | cons c rest ih =>
    have tail : Ascii rest := fun d member => ascii d (List.mem_cons_of_mem c member)
    have whole (case : LetterCase) : Ascii (c :: (words case rest).flatten) := by
      rw [flatten_words]
      exact ascii
    cases rest with
    | nil =>
      constructor
      · intro here
        have never : isUppercase c → ¬ case.Starts [] :=
          LetterCase.not_starts (here · c rfl) fun _ _ d past => by simp at past
        simp [words, GoesOn, capitalsStart_cons, capitalsStart_nil, LetterCase.starts_only never]
      · rintro rfl
        simp [words, capitalize_eq_self_iff ascii, capitalsStartWords_cons, capitalsStart_nil]
    | cons next rest =>
      rcases words_cons_cons case c next rest with
        ⟨small, capital, cut⟩ | ⟨rfl, capital, low, cut⟩ | ⟨goesOn, inside, cut⟩ <;> rw [cut]
      · -- The next letter starts a word, so it is the second statement that is used of the rest.
        have later := (ih .neutral tail).2 rfl
        constructor
        · intro _
          rw [GoesOn, later, capitalsStartWords_cons, capitalsStart_cons, capitalsStart_cons, small,
            LetterCase.after_of_isUppercase capital, LetterCase.after_of_isUppercase capital]
          simp [LetterCase.isUppercase_of_after small, isLowercase_of_isUppercase capital,
            LetterCase.starts_small]
        · rintro rfl
          have alone : Ascii [c] := fun d member =>
            (List.mem_singleton.mp member) ▸ ascii c List.mem_cons_self
          simp [capitalize_eq_self_iff alone, LetterCase.isLowercase_of_after small]
      · have later := (ih .neutral tail).1 (by simp)
        constructor
        · intro _
          rw [GoesOn, kept_extendFirst (whole .neutral), later, capitalsStart_cons,
            capitalsStart_cons, capitalsStart_cons, LetterCase.after_of_isLowercase low,
            LetterCase.after_of_isLowercase low]
          simp [isLowercase_of_isUppercase capital, isUppercase_of_isLowercase low,
            LetterCase.starts_of_isLowercase low]
        · rintro ⟨⟩
      · have after : GoesOn (words (case.after c) (next :: rest)) ↔
            CapitalsStart (case.after c) (next :: rest) :=
          (ih (case.after c) tail).1 fun small d member => by
            obtain rfl : next = d := by simpa using member
            exact goesOn small
        constructor
        · intro here
          have never : isUppercase c → ¬ case.Starts (next :: rest) :=
            LetterCase.not_starts (here · c rfl) fun behind capital d found => by
              obtain rfl : next = d := by simpa using found
              exact inside behind capital
          rw [goesOn_extendFirst, after, ← LetterCase.starts_only never]
          exact capitalsStart_cons.symm
        · rintro rfl
          rw [kept_extendFirst (whole _), after, capitalsStartWords_cons]
          simp

theorem length_capitalize {word : List Char} (ascii : Ascii word) :
    (capitalize word).length = word.length := by
  rw [← List.length_map Char.toLower, map_toLower_capitalize ascii, List.length_map]

theorem flatMap_capitalize_eq_flatten_iff {list : List (List Char)} (ascii : Ascii list.flatten) :
    list.flatMap capitalize = list.flatten ↔ ∀ w ∈ list, capitalize w = w := by
  induction list with
  | nil => simp
  | cons word rest ih =>
    have first : Ascii word := fun c member => ascii c (by simp [member])
    have later := ih fun c member => ascii c (by
      rw [List.flatten_cons]
      exact List.mem_append_right word member)
    rw [List.flatMap_cons, List.flatten_cons, List.forall_mem_cons, ← later]
    constructor
    · exact fun same => List.append_inj same (length_capitalize first)
    · rintro ⟨same, others⟩
      rw [same, others]

/-- A row of letters and digits is in Pascal case if it does not start with a small letter and every
capital behind the start begins a word. -/
theorem pascalChars_eq_self_iff {s : List Char} (ascii : Ascii s)
    (parts : ∀ c ∈ s, isAlphanumeric c) : pascalChars s = s ↔
      (∀ c ∈ s.head?, isLowercase c = false) ∧ CapitalsStartWords s := by
  have one : pieces s = [s] := List.splitOnP_eq_singleton fun c member => by simp [parts c member]
  have cut : pascalWords s = words .neutral s := by
    rw [pascalWords, one, List.flatMap_singleton]
  have whole : (words .neutral s).flatten = s := flatten_words .neutral s
  have fixed := flatMap_capitalize_eq_flatten_iff (whole.symm ▸ ascii)
  rw [whole] at fixed
  rw [pascalChars_eq, cut, fixed]
  exact (words_capitals .neutral s ascii).2 rfl

theorem pascalCase_pascalCase_iff {s : String} (ascii : Ascii s.toList) :
    pascalCase (pascalCase s) = pascalCase s ↔ CapitalsStartWords (pascalCase s).toList := by
  have spells := spells_pascalChars ascii
  have parts : ∀ c ∈ pascalChars s.toList, isAlphanumeric c := fun c member => by
    rw [isAlphanumeric_of_ascii (spells.ascii c member)]
    exact spells.isAlphanum member
  have head : ∀ c ∈ (pascalChars s.toList).head?, isLowercase c = false := fun c first => by
    rw [isLowercase_of_ascii (spells.ascii c (List.mem_of_mem_head? first))]
    exact pascalChars_head first
  simp only [pascalCase, String.toList_ofList, String.ofList_inj]
  rw [pascalChars_eq_self_iff spells.ascii parts]
  exact and_iff_right head

end Text
/-- Outside the default schema, the name of a record type is that of its schema and that of its
table, but the schema goes through Pascal case a second time in front of the table. So the record
type is named after the schema as it is resolved exactly if the second time changes nothing. In
ASCII this holds exactly if every capital behind the first character of the resolved name starts a
word there. -/
theorem record_keeps_schema_iff (column : Column) (outside : column.schema ≠ defaultSchema) :
    let schema := Text.pascalCase column.schema
    let table := Text.pascalCase column.table
    let runtime := column.schema ++ "." ++ column.table
    NameOverrides.resolve .empty column .schema = pure schema ∧
    NameOverrides.tableNames .empty column = pure ⟨Text.pascalCase schema ++ table, runtime⟩ ∧
    (NameOverrides.tableNames .empty column = pure ⟨schema ++ table, runtime⟩ ↔
      Text.pascalCase schema = schema) ∧
    (Text.Ascii column.schema.toList →
      (Text.pascalCase schema = schema ↔ Text.CapitalsStartWords schema.toList)) := by
  intro schema table runtime
  have named : NameOverrides.tableNames .empty column =
      pure ⟨Text.pascalCase schema ++ table, runtime⟩ := by
    rw [NameOverrides.tableNames_empty, TableKey.typeName, TableKey.runtime]
    rw [if_neg (show column.tableKey.schema ≠ defaultSchema from outside),
      if_neg (show column.tableKey.schema ≠ defaultSchema from outside)]
    rfl
  refine ⟨NameOverrides.resolve_empty column .schema, named, ?_, Text.pascalCase_pascalCase_iff⟩
  rw [named]
  constructor
  · intro same
    have names : TableNames.mk (Text.pascalCase schema ++ table) runtime =
        ⟨schema ++ table, runtime⟩ := Except.ok.inj (congrArg Consult.result same)
    exact (String.append_left_inj table).mp (TableNames.mk.inj names).1
  · intro same
    rw [same]

/-- A single letter, a word and a digit: `PLog2` is cut into the same words again. -/
theorem record_keeps_schema_p_log_2 :
    let column : Column := ⟨"p_log_2", "entry", "id", false, none, "integer", "int4"⟩
    column.schema ≠ defaultSchema ∧ Text.Ascii column.schema.toList ∧
      Text.CapitalsStartWords "PLog2".toList ∧
      NameOverrides.resolve .empty column .schema = pure "PLog2" ∧
      NameOverrides.tableNames .empty column = pure ⟨"PLog2Entry", "p_log_2.entry"⟩ := by
  intro column
  have outside : column.schema ≠ defaultSchema := by decide
  have ascii : Text.Ascii column.schema.toList := by decide
  obtain ⟨resolved, -, kept, found⟩ := record_keeps_schema_iff column outside
  have once : Text.pascalCase column.schema = "PLog2" := by decide +kernel
  have twice : Text.pascalCase "PLog2" = "PLog2" := by decide +kernel
  have table : Text.pascalCase column.table = "Entry" := by decide +kernel
  rw [once, table] at kept
  rw [once] at resolved found
  exact ⟨outside, ascii, (found ascii).mp twice, resolved, kept.mpr twice⟩

/-- Two single letters: the schema `p_l` is resolved to `PL`, and its record types are named like
those of the schema `pl`. -/
theorem record_of_p_l_named_like_pl :
    let column : Column := ⟨"p_l", "entry", "id", false, none, "integer", "int4"⟩
    let other : Column := ⟨"pl", "entry", "id", false, none, "integer", "int4"⟩
    column.schema ≠ defaultSchema ∧
      NameOverrides.resolve .empty column .schema = pure "PL" ∧
      Text.pascalCase column.schema ++ Text.pascalCase column.table = "PLEntry" ∧
      (NameOverrides.tableNames .empty column).result = .ok ⟨"PlEntry", "p_l.entry"⟩ ∧
      (NameOverrides.tableNames .empty other).result = .ok ⟨"PlEntry", "pl.entry"⟩ ∧
      Text.pascalCase column.schema ≠ Text.pascalCase other.schema ∧
      ∀ runtime, NameOverrides.tableNames .empty column ≠
        pure ⟨Text.pascalCase column.schema ++ Text.pascalCase column.table, runtime⟩ := by
  intro column other
  have once : Text.pascalCase column.schema = "PL" := by decide +kernel
  have claimed : Text.pascalCase column.schema ++ Text.pascalCase column.table = "PLEntry" := by
    decide +kernel
  have named : (NameOverrides.tableNames .empty column).result = .ok ⟨"PlEntry", "p_l.entry"⟩ := by
    decide +kernel
  refine ⟨by decide, ?_, claimed, named, by decide +kernel, by decide +kernel,
    fun runtime same => ?_⟩
  · rw [NameOverrides.resolve_empty, ← once]
    rfl
  · rw [claimed] at same
    rw [same] at named
    have names := (TableNames.mk.inj (Except.ok.inj named)).1
    exact absurd names (by decide)

end SchemaTypes
