import SchemaTypes.Text.Quoted

/-! Names and strings are read back as they were spelled, whatever follows them, and neither
spelling holds a line break. -/
namespace SchemaTypes.Text

theorem readLiteralBody_escapeChar (c : Char) (rest : List Char) :
    readLiteralBody (escapeChar c ++ rest) =
      (readLiteralBody rest).map fun (body, rest) => (c :: body, rest) := by
  by_cases backslash : c = '\\'
  · subst c
    cases read : readLiteralBody rest <;> simp [escapeChar, readLiteralBody, unescapeChar, read]
  by_cases mark : c = '\''
  · subst c
    cases read : readLiteralBody rest <;> simp [escapeChar, readLiteralBody, unescapeChar, read]
  by_cases feed : c = '\n'
  · subst c
    cases read : readLiteralBody rest <;> simp [escapeChar, readLiteralBody, unescapeChar, read]
  by_cases home : c = '\r'
  · subst c
    cases read : readLiteralBody rest <;> simp [escapeChar, readLiteralBody, unescapeChar, read]
  simp [escapeChar, readLiteralBody, backslash, mark, feed, home]

theorem readLiteralBody_escape (s rest : List Char) :
    readLiteralBody (s.flatMap escapeChar ++ '\'' :: rest) = some (s, rest) := by
  induction s with
  | nil => rfl
  | cons c s ih =>
    rw [List.flatMap_cons, List.append_assoc, readLiteralBody_escapeChar, ih]
    rfl

theorem readLiteral_quoteChars (s rest : List Char) :
    readLiteral (quoteChars s ++ rest) = some (s, rest) := by
  have body := readLiteralBody_escape s rest
  simpa [quoteChars, readLiteral] using body

theorem toList_quote (s : String) : (quote s).toList = quoteChars s.toList := by
  rw [quote, String.toList_ofList]

/-- A literal ends where it says, so two literals in front of anything are equal only if they
stand for one string. -/
theorem quote_append_inj {s t : String} {a b : List Char}
    (same : (quote s).toList ++ a = (quote t).toList ++ b) : s = t ∧ a = b := by
  rw [toList_quote, toList_quote] at same
  have read := congrArg readLiteral same
  rw [readLiteral_quoteChars, readLiteral_quoteChars] at read
  obtain ⟨chars, rest⟩ := Prod.mk.inj (Option.some.inj read)
  exact ⟨String.toList_inj.mp chars, rest⟩

theorem not_mem_escapeChar {d : Char} (control : d = '\n' ∨ d = '\r') (c : Char) :
    d ∉ escapeChar c := by
  unfold escapeChar
  rcases control with rfl | rfl
  all_goals
    split
    · decide
    split
    · decide
    split
    · decide
    split
    · decide
    simp_all [eq_comm]

theorem not_mem_quote {d : Char} (control : d = '\n' ∨ d = '\r') (s : String) :
    d ∉ (quote s).toList := by
  have other : d ≠ '\'' := by rcases control with rfl | rfl <;> decide
  have escaped : d ∉ s.toList.flatMap escapeChar := by
    intro member
    obtain ⟨c, _, inside⟩ := List.mem_flatMap.mp member
    exact not_mem_escapeChar control c inside
  simp only [toList_quote, quoteChars, List.cons_append, List.mem_cons, List.mem_append,
    List.not_mem_nil, or_false, not_or]
  exact ⟨other, escaped, other⟩

theorem isIdentifierPart_of_start {c : Char} (start : isIdentifierStart c = true) :
    isIdentifierPart c = true := by
  simp only [isIdentifierStart, isIdentifierPart, Char.isAlphanum, Bool.or_eq_true] at start ⊢
  rcases start with (letter | underscore) | dollar
  · exact .inl (.inl (.inl letter))
  · exact .inl (.inr underscore)
  · exact .inr dollar

theorem isIdentifierPart_of_mem {name : String} (valid : isIdentifier name = true) {c : Char}
    (member : c ∈ name.toList) : isIdentifierPart c = true := by
  unfold isIdentifier at valid
  cases chars : name.toList with
  | nil => simp [chars] at member
  | cons first rest =>
    simp only [chars, isIdentifierChars, Bool.and_eq_true, List.all_eq_true] at valid
    rw [chars] at member
    rcases List.mem_cons.mp member with rfl | later
    · exact isIdentifierPart_of_start valid.1
    · exact valid.2 c later

theorem not_mem_of_isIdentifier {name : String} (valid : isIdentifier name = true) {c : Char}
    (other : isIdentifierPart c = false) : c ∉ name.toList := by
  intro member
  simp [isIdentifierPart_of_mem valid member] at other

theorem readLiteral_of_isIdentifier {name : String} (valid : isIdentifier name = true)
    (rest : List Char) : readLiteral (name.toList ++ rest) = none := by
  unfold isIdentifier at valid
  cases chars : name.toList with
  | nil => simp [chars, isIdentifierChars] at valid
  | cons first tail =>
    have other : first ≠ '\'' := by
      rintro rfl
      simp [chars, isIdentifierChars, isIdentifierStart] at valid
    simp [readLiteral, other]

theorem readKey_propertyKey (name : String) (rest : List Char) :
    readKey ((propertyKey name).toList ++ ':' :: rest) = some (name.toList, ':' :: rest) := by
  unfold propertyKey
  split
  · next valid =>
    have parts : ∀ c ∈ name.toList, isIdentifierPart c = true :=
      fun c member => isIdentifierPart_of_mem valid member
    have stop : isIdentifierPart ':' = false := by decide
    rw [readKey, readLiteral_of_isIdentifier valid]
    simp only [List.takeWhile_append_of_pos parts, List.dropWhile_append_of_pos parts,
      List.takeWhile_cons, List.dropWhile_cons, stop, Bool.false_eq_true, if_false, List.append_nil]
    exact if_pos valid
  · rw [readKey, toList_quote, readLiteral_quoteChars]

theorem propertyKey_append_inj {name other : String} {a b : List Char}
    (same : (propertyKey name).toList ++ ':' :: a = (propertyKey other).toList ++ ':' :: b) :
    name = other ∧ a = b := by
  have read := congrArg readKey same
  rw [readKey_propertyKey, readKey_propertyKey] at read
  obtain ⟨chars, rest⟩ := Prod.mk.inj (Option.some.inj read)
  exact ⟨String.toList_inj.mp chars, (List.cons.inj rest).2⟩

theorem newline_not_mem_propertyKey (name : String) : '\n' ∉ (propertyKey name).toList := by
  unfold propertyKey
  split
  · next valid => exact not_mem_of_isIdentifier valid (by decide)
  · exact not_mem_quote (.inl rfl) name

def BareStart (c : Char) : Prop := ('A' ≤ c ∧ c ≤ 'Z') ∨ ('a' ≤ c ∧ c ≤ 'z') ∨ c = '_' ∨ c = '$'

/-- Some letter, `_` or `$`, and then these and digits, all of ASCII. -/
def Bare : List Char → Prop
  | [] => False
  | c :: rest => BareStart c ∧ ∀ d ∈ rest, BareStart d ∨ ('0' ≤ d ∧ d ≤ '9')

theorem isIdentifierStart_iff {c : Char} : isIdentifierStart c = true ↔ BareStart c := by
  have letter : c.isAlpha = (c.isUpper || c.isLower) := rfl
  have capital : c.isUpper = true ↔ 'A' ≤ c ∧ c ≤ 'Z' := decide_eq_true_iff
  have small : c.isLower = true ↔ 'a' ≤ c ∧ c ≤ 'z' := by
    show (decide ('a' ≤ c) && decide (c ≤ 'z')) = true ↔ _
    rw [Bool.and_eq_true, decide_eq_true_iff, decide_eq_true_iff]
  simp only [isIdentifierStart, BareStart, letter, Bool.or_eq_true, capital, small,
    decide_eq_true_iff, or_assoc]

theorem isIdentifierPart_iff {c : Char} :
    isIdentifierPart c = true ↔ BareStart c ∨ ('0' ≤ c ∧ c ≤ '9') := by
  have parts : isIdentifierPart c = (isIdentifierStart c || c.isDigit) := by
    simp only [isIdentifierPart, isIdentifierStart, Char.isAlphanum]
    cases c.isAlpha <;> cases c.isDigit <;> simp
  have digit : c.isDigit = true ↔ '0' ≤ c ∧ c ≤ '9' := by
    show (decide ('0' ≤ c) && decide (c ≤ '9')) = true ↔ _
    rw [Bool.and_eq_true, decide_eq_true_iff, decide_eq_true_iff]
  rw [parts, Bool.or_eq_true, isIdentifierStart_iff, digit]

theorem isIdentifier_iff {name : String} : isIdentifier name = true ↔ Bare name.toList := by
  unfold isIdentifier
  cases name.toList with
  | nil => simp [isIdentifierChars, Bare]
  | cons c rest =>
    simp only [isIdentifierChars, Bare, Bool.and_eq_true, List.all_eq_true, isIdentifierStart_iff,
      isIdentifierPart_iff]

theorem length_flatMap_escapeChar (s : List Char) : s.length ≤ (s.flatMap escapeChar).length := by
  have filled (c : Char) : 1 ≤ (escapeChar c).length := by
    unfold escapeChar
    repeat' split
    all_goals simp
  induction s with
  | nil => simp
  | cons c s ih =>
    have first := filled c
    simp only [List.flatMap_cons, List.length_append, List.length_cons]
    omega

theorem quote_ne (s : String) : quote s ≠ s := by
  intro same
  have chars := congrArg (fun t => t.toList.length) same
  have longer := length_flatMap_escapeChar s.toList
  simp only [toList_quote, quoteChars, List.length_append, List.length_cons] at chars
  omega

theorem propertyKey_eq_self_iff {name : String} : propertyKey name = name ↔ Bare name.toList := by
  rw [← isIdentifier_iff, propertyKey]
  split
  · next valid => simp [valid]
  · next other => simp [other, quote_ne]

theorem propertyKey_injective {name other : String} (same : propertyKey name = propertyKey other) :
    name = other :=
  (propertyKey_append_inj (a := []) (b := []) (congrArg (fun key => key.toList ++ [':']) same)).1

/-- A literal in front of any text is read back and leaves that text, and it has no line break in
it; a key in front of a colon is read back as well, so no two names have one key, and just the names
that are identifiers are their own keys. -/
theorem spellings_read_back (s : String) (rest : List Char) :
    readLiteral ((quote s).toList ++ rest) = some (s.toList, rest) ∧
    ('\n' ∉ (quote s).toList ∧ '\r' ∉ (quote s).toList) ∧
    readKey ((propertyKey s).toList ++ ':' :: rest) = some (s.toList, ':' :: rest) ∧
    (propertyKey s = s ↔ Bare s.toList) ∧
    ∀ other, propertyKey s = propertyKey other ↔ s = other := by
  refine ⟨?_, ⟨not_mem_quote (.inl rfl) s, not_mem_quote (.inr rfl) s⟩, readKey_propertyKey s rest,
    propertyKey_eq_self_iff, fun other => ⟨propertyKey_injective, congrArg propertyKey⟩⟩
  rw [toList_quote, readLiteral_quoteChars]

/-- A literal that ends in a backslash, and a text behind it that goes on like a literal. -/
example : readLiteral "'a\\\\'\\'b".toList = some ("a\\".toList, "\\'b".toList) := by decide

end SchemaTypes.Text
