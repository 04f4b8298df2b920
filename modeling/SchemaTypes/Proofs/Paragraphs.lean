import SchemaTypes.Proofs.Recovery

/-! The layout of a written text. A text is cut into paragraphs at its blank lines. Nothing that the
catalog supplies can put a blank line into a block, so the paragraphs of a document's text are the
bodies of its blocks, unless the text of the user brings blank lines of its own. -/
namespace SchemaTypes
namespace Text

/-- The parts between blank lines: the text is cut at the first two line breaks in a row, and so is
the rest behind them. -/
def paragraphChars : List Char → List (List Char)
  | [] => [[]]
  | '\n' :: '\n' :: rest => [] :: paragraphChars rest
  | c :: rest => (paragraphChars rest).modifyHead (c :: ·)

def paragraphs (text : String) : List String := (paragraphChars text.toList).map String.ofList

/-- Of five line breaks in a row, the fifth stays with the paragraph behind them. -/
example : paragraphs "a\nb\n\nc\n\n\n\n\nd" = ["a\nb", "c", "", "\nd"] := by decide

section
variable {body rest : List Char}

theorem paragraphChars_cons {c : Char} (apart : ¬ ['\n', '\n'] <+: c :: rest) :
    paragraphChars (c :: rest) = (paragraphChars rest).modifyHead (c :: ·) := by
  rw [paragraphChars]
  rintro more rfl rfl
  exact apart (List.prefix_append ['\n', '\n'] more)

theorem paragraphChars_of_unspaced (unspaced : ¬ ['\n', '\n'] <:+: body) :
    paragraphChars body = [body] := by
  induction body with
  | nil => rfl
  | cons c body ih =>
    rw [List.infix_cons_iff, not_or] at unspaced
    rw [paragraphChars_cons unspaced.1, ih unspaced.2, List.modifyHead_cons]

theorem prefix_cons_append {c : Char} :
    ['\n', '\n'] <+: c :: (body ++ '\n' :: rest) ↔ ['\n', '\n'] <+: c :: (body ++ ['\n']) := by
  cases body <;> simp [List.cons_prefix_cons]

theorem paragraphChars_append (unspaced : ¬ ['\n', '\n'] <:+: body ++ ['\n']) :
    paragraphChars (body ++ '\n' :: '\n' :: rest) = body :: paragraphChars rest := by
  induction body with
  | nil => rfl
  | cons c body ih =>
    rw [List.cons_append, List.infix_cons_iff, not_or] at unspaced
    have apart : ¬ ['\n', '\n'] <+: c :: (body ++ '\n' :: '\n' :: rest) :=
      mt prefix_cons_append.mp unspaced.1
    rw [List.cons_append, paragraphChars_cons apart, ih unspaced.2, List.modifyHead_cons]

theorem not_prefix_of_head? (opens : rest.head? ≠ some '\n') (row : List Char) :
    ¬ '\n' :: row <+: rest := by
  rintro ⟨more, rfl⟩
  simp at opens

theorem not_infix_three (unspaced : ¬ ['\n', '\n'] <:+: body ++ ['\n'])
    (opens : rest.head? ≠ some '\n') (spaced : ¬ ['\n', '\n', '\n'] <:+: rest) :
    ¬ ['\n', '\n', '\n'] <:+: body ++ '\n' :: '\n' :: rest := by
  induction body with
  | nil =>
    simp [List.infix_cons_iff, List.cons_prefix_cons, not_prefix_of_head? opens, spaced]
  | cons c body ih =>
    rw [List.cons_append, List.infix_cons_iff, not_or] at unspaced
    rw [List.cons_append, List.infix_cons_iff, not_or]
    refine ⟨?_, ih unspaced.2⟩
    intro three
    have two : ['\n', '\n'] <+: c :: (body ++ '\n' :: '\n' :: rest) :=
      (List.prefix_append ['\n', '\n'] ['\n']).trans three
    exact unspaced.1 (prefix_cons_append.mp two)

theorem not_infix_concat (row : List Char) (closes : body.getLast? ≠ some '\n')
    (free : ¬ row ++ ['\n', '\n'] <:+: body) : ¬ row ++ ['\n', '\n'] <:+: body ++ ['\n'] := by
  rw [List.infix_concat_iff, not_or]
  refine ⟨?_, free⟩
  rintro ⟨front, same⟩
  apply closes
  rw [List.getLast?_eq_some_iff]
  have cut : (front ++ row ++ ['\n']) ++ ['\n'] = body ++ ['\n'] := by simpa using same
  exact ⟨front ++ row, (List.append_cancel_right cut).symm⟩

end
end Text

/-- A text that is one paragraph, whatever stands in front of it and behind. -/
structure Paragraph (body : String) : Prop where
  filled : body ≠ ""
  opens : body.toList.head? ≠ some '\n'
  unspaced : ¬ ['\n', '\n'] <:+: body.toList

theorem blockBody_closes (text : String) : (blockBody text).toList.getLast? ≠ some '\n' := by
  intro last
  rw [blockBody, String.toList_ofList, Text.dropTrailing, List.getLast?_reverse] at last
  have other := List.head?_dropWhile_not isLineBreak text.toList.reverse
  rw [last] at other
  simp [isLineBreak] at other

theorem Paragraph.unspaced_concat {text : String} (paragraph : Paragraph (blockBody text)) :
    ¬ ['\n', '\n'] <:+: (blockBody text).toList ++ ['\n'] :=
  Text.not_infix_concat [] (blockBody_closes text) paragraph.unspaced

section
variable {lines : List (List Char)}

theorem head?_unlines (unbroken : ∀ l ∈ lines, '\n' ∉ l) (filled : [] ∉ lines) :
    (unlines lines).head? ≠ some '\n' := by
  cases lines with
  | nil => simp
  | cons line lines =>
    cases line with
    | nil => simp at filled
    | cons c line =>
      have other := unbroken (c :: line) List.mem_cons_self
      simp only [List.mem_cons, not_or] at other
      simpa using Ne.symm other.1

theorem not_infix_line {line rest : List Char} (own : '\n' ∉ line) (opens : rest.head? ≠ some '\n')
    (unspaced : ¬ ['\n', '\n'] <:+: rest) : ¬ ['\n', '\n'] <:+: line ++ '\n' :: rest := by
  induction line with
  | nil =>
    simp [List.infix_cons_iff, List.cons_prefix_cons, Text.not_prefix_of_head? opens, unspaced]
  | cons c line ih =>
    rw [List.mem_cons, not_or] at own
    rw [List.cons_append, List.infix_cons_iff, List.cons_prefix_cons, not_or, not_and]
    exact ⟨fun same => absurd same own.1, ih own.2⟩

theorem unspaced_unlines (unbroken : ∀ l ∈ lines, '\n' ∉ l) (filled : [] ∉ lines) :
    ¬ ['\n', '\n'] <:+: unlines lines := by
  induction lines with
  | nil => simp
  | cons line lines ih =>
    have unbrokenLater : ∀ l ∈ lines, '\n' ∉ l :=
      fun l member => unbroken l (List.mem_cons_of_mem line member)
    have filledLater : [] ∉ lines := fun member => filled (List.mem_cons_of_mem line member)
    have own := unbroken line List.mem_cons_self
    rw [unlines_cons]
    exact not_infix_line own (head?_unlines unbrokenLater filledLater)
      (ih unbrokenLater filledLater)

end

theorem Regular.paragraph {block : String} (regular : Regular block) :
    Paragraph (blockBody block) := by
  have text : (blockBody block).toList ++ ['\n'] = unlines (linesOf block) := by
    rw [regular.lines]
    simpa using congrArg String.toList regular.closed
  have opens := head?_unlines regular.unbroken regular.filled
  have unspaced := unspaced_unlines regular.unbroken regular.filled
  rw [← text] at opens unspaced
  refine ⟨?_, ?_, fun inside => unspaced (List.infix_append_of_infix_left inside)⟩
  · intro empty
    simp [empty] at opens
  · intro first
    simp [List.head?_append, first] at opens

/-- A text, up to its last line break, that is laid out as these parts. -/
structure LaidOut (body : List Char) (parts : List (List Char)) : Prop where
  filled : body ≠ []
  opens : body.head? ≠ some '\n'
  closes : body.getLast? ≠ some '\n'
  spaced : ¬ ['\n', '\n', '\n'] <:+: body
  parts : Text.paragraphChars body = parts

theorem Paragraph.laidOut {block : String} (paragraph : Paragraph (blockBody block)) :
    LaidOut (blockBody block).toList [(blockBody block).toList] where
  filled none := paragraph.filled (String.toList_eq_nil_iff.mp none)
  opens := paragraph.opens
  closes := blockBody_closes block
  spaced three := paragraph.unspaced ((List.prefix_append _ ['\n']).isInfix.trans three)
  parts := Text.paragraphChars_of_unspaced paragraph.unspaced

theorem Paragraph.laidOut_append {block : String} (paragraph : Paragraph (blockBody block))
    (later : LaidOut body parts) :
    LaidOut ((blockBody block).toList ++ '\n' :: '\n' :: body)
      ((blockBody block).toList :: parts) where
  filled := List.append_ne_nil_of_right_ne_nil _ (List.cons_ne_nil _ _)
  opens := by
    have opens := paragraph.opens
    obtain ⟨c, rest, chars⟩ := List.exists_cons_of_ne_nil paragraph.laidOut.filled
    rw [chars] at opens ⊢
    exact opens
  closes := by
    have last := List.getLast?_eq_some_getLast later.filled
    simpa [List.getLast?_append, List.getLast?_cons, last] using later.closes
  spaced := Text.not_infix_three paragraph.unspaced_concat later.opens later.spaced
  parts := by rw [Text.paragraphChars_append paragraph.unspaced_concat, later.parts]

theorem blocksText_laidOut {blocks : List String} (filled : blocks ≠ [])
    (each : ∀ block ∈ blocks, Paragraph (blockBody block)) :
    ∃ body, (blocksText blocks).toList = body ++ ['\n'] ∧
      LaidOut body (blocks.map fun block => (blockBody block).toList) := by
  induction blocks with
  | nil => contradiction
  | cons block rest ih =>
    have first := each block List.mem_cons_self
    cases rest with
    | nil => exact ⟨_, by simp [blocksText], first.laidOut⟩
    | cons next rest =>
      obtain ⟨body, text, later⟩ := ih (List.cons_ne_nil next rest)
        fun other member => each other (List.mem_cons_of_mem block member)
      refine ⟨_, ?_, first.laidOut_append later⟩
      rw [blocksText_cons_cons, String.toList_append, text]
      simp

namespace Document

/-- A document whose written names and field types keep to their lines, and whose texts of the user,
where they are written, are paragraphs. -/
structure Tidy (d : Document) : Prop where
  unbroken : d.Unbroken
  prefixText : ∀ block ∈ userBlock d.prefixText, Paragraph (blockBody block)
  suffixText : ∀ block ∈ userBlock d.suffixText, Paragraph (blockBody block)

theorem Tidy.paragraph {d : Document} (tidy : d.Tidy) :
    ∀ block ∈ d.blocks, Paragraph (blockBody block) := by
  intro block member
  rw [blocks_eq_declarations] at member
  simp only [List.cons_append, List.mem_cons, List.mem_append] at member
  rcases member with rfl | (before | declared) | behind
  · exact ⟨by decide +kernel, by decide +kernel, by decide +kernel⟩
  · exact tidy.prefixText block before
  · exact (tidy.unbroken.regular block declared).paragraph
  · exact tidy.suffixText block behind

end Document

/-- Whatever strings the catalog supplies, the text that reaches an output which never fails ends in
one line break and has nowhere three in a row. Its paragraphs are the banner, the text put in front
if there is one, the enums, the registry, the map if it is switched on and the record types if there
is a table, and the text put behind if there is one. -/
theorem Emitter.document_paragraphs (sink : Sink σ) (never : sink.NeverFails) (output : σ)
    {d : Document} (tidy : d.Tidy) :
    ∃ body : String,
      (document sink d (.start output)).result = .ok () ∧
      acceptedBytes (document sink d (.start output)).effects = utf8 (body ++ "\n") ∧
      body.toList.getLast? ≠ some '\n' ∧
      ¬ ['\n', '\n', '\n'] <:+: (body ++ "\n").toList ∧
      Text.paragraphs body =
        (banner :: Document.userBlock d.prefixText ++ d.enums.map EnumDecl.render ++
          (if d.tables = [] then [] else
            renderRegistry d.tablesEnumName d.tables ::
              (if d.emitTableMap then [renderTableMap d.tablesTypeName d.tables] else []) ++
              d.tables.map TableDecl.render) ++
          Document.userBlock d.suffixText).map blockBody := by
  have filled : d.blocks ≠ [] := List.cons_ne_nil _ _
  obtain ⟨body, text, laid⟩ := blocksText_laidOut filled tidy.paragraph
  have whole : d.text = String.ofList body ++ "\n" := by
    rw [← String.toList_inj, String.toList_append, String.toList_ofList]
    exact text
  refine ⟨String.ofList body, document_ok sink never d _, ?_, ?_, ?_, ?_⟩
  · rw [document_whole sink never, whole]
  · simpa using laid.closes
  · simpa using Text.not_infix_concat ['\n'] laid.closes laid.spaced
  · have parts : Text.paragraphs (String.ofList body) = d.blocks.map blockBody := by
      rw [Text.paragraphs, String.toList_ofList, laid.parts, List.map_map]
      exact List.map_congr_left fun block _ => String.ofList_toList
    rw [parts, Document.blocks, Document.tableBlocks]
    simp only [List.isEmpty_iff]

/-- Blank lines in a value, a field name and a run time text are escaped, and those at the end of
the text put in front are dropped. -/
theorem Emitter.document_paragraphs_blank_labels :
    let d : Document := ⟨some "import x from 'y';\n\n", [⟨"Mood", [⟨"Sad", "sad\n\n"⟩]⟩],
      "Table", "Tables", true, [⟨"User", "us\n\ners", [⟨"first\n\nname", "string"⟩]⟩], some ""⟩
    Sink.reliable.NeverFails ∧ d.Tidy ∧ ∃ body : String,
      (document Sink.reliable d (.start ())).result = .ok () ∧
      acceptedBytes (document Sink.reliable d (.start ())).effects = utf8 (body ++ "\n") ∧
      body.toList.getLast? ≠ some '\n' ∧
      ¬ ['\n', '\n', '\n'] <:+: (body ++ "\n").toList ∧
      Text.paragraphs body = [blockBody banner, "import x from 'y';",
        "export enum Mood \x7b\n  Sad = 'sad\\n\\n',\n\x7d",
        "export enum Table \x7b\n  User = 'us\\n\\ners',\n\x7d",
        "export type Tables = \x7b\n  'us\\n\\ners': User;\n\x7d;",
        "export type User = \x7b\n  'first\\n\\nname': string;\n\x7d;"] := by
  intro d
  have unbroken : d.Unbroken := by
    refine ⟨?_, ?_, fun _ => by decide, fun _ _ => by decide⟩
    · simp only [d, List.mem_singleton, forall_eq]
      exact ⟨by decide, by decide⟩
    · simp only [d, List.mem_singleton, forall_eq]
      exact ⟨by decide, by decide⟩
  have front : Paragraph (blockBody "import x from 'y';\n\n") :=
    ⟨by decide +kernel, by decide +kernel, by decide +kernel⟩
  have tidy : d.Tidy := ⟨unbroken, by simpa [d, Document.userBlock] using front,
    by simp [d, Document.userBlock]⟩
  obtain ⟨body, done, text, closes, spaced, parts⟩ :=
    document_paragraphs Sink.reliable Sink.reliable_neverFails () tidy
  refine ⟨Sink.reliable_neverFails, tidy, body, done, text, closes, spaced, parts.trans ?_⟩
  decide +kernel

end SchemaTypes
