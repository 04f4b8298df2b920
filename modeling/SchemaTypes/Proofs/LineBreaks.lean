import Mathlib.Data.List.TakeWhile
import SchemaTypes.Proofs.Paragraphs

/-! Texts of the user that hold nothing but line breaks. The line breaks at the end of a text are
dropped, but whether there is a text is asked before that. So a text of line breaks is written as a
block without lines, which adds two line breaks to those between the other blocks. -/
namespace SchemaTypes

/-- Nothing but line feeds and carriage returns. -/
def LineBreaksOnly (text : String) : Prop := ∀ c ∈ text.toList, c = '\n' ∨ c = '\r'

instance (text : String) : Decidable (LineBreaksOnly text) :=
  List.decidableBAll (fun c : Char => c = '\n' ∨ c = '\r') text.toList

theorem blockBody_of_lineBreaksOnly {text : String} (breaks : LineBreaksOnly text) :
    blockBody text = "" := by
  have stripped : text.toList.reverse.dropWhile isLineBreak = [] := by
    rw [List.dropWhile_eq_nil_iff]
    intro c member
    simpa [isLineBreak] using breaks c (List.mem_reverse.mp member)
  rw [blockBody, Text.dropTrailing, stripped]
  rfl

/-- What comes behind some blocks: nothing, or a blank line and the other blocks. -/
def behindText (blocks : List String) : String :=
  if blocks = [] then "" else "\n" ++ blocksText blocks

theorem blocksText_cons (block : String) (rest : List String) :
    blocksText (block :: rest) = blockBody block ++ "\n" ++ behindText rest := by
  cases rest with
  | nil => simp [blocksText, behindText]
  | cons next rest =>
    rw [blocksText_cons_cons, behindText, if_neg (List.cons_ne_nil next rest), String.append_assoc]

theorem blocksText_append {front : List String} (filled : front ≠ []) (rest : List String) :
    blocksText (front ++ rest) = blocksText front ++ behindText rest := by
  induction front with
  | nil => contradiction
  | cons block front ih =>
    cases front with
    | nil => simp [blocksText_cons, behindText]
    | cons next front =>
      have later := ih (List.cons_ne_nil next front)
      rw [List.cons_append, List.cons_append, blocksText_cons_cons, blocksText_cons_cons,
        ← List.cons_append, later, ← String.append_assoc]

theorem blocksText_last {front : List String} (filled : front ≠ []) :
    (blocksText front).toList.getLast? = .some '\n' := by
  induction front with
  | nil => contradiction
  | cons block front ih =>
    cases front with
    | nil => simp [blocksText]
    | cons next front =>
      have later := ih (List.cons_ne_nil next front)
      rw [blocksText_cons_cons, String.toList_append, List.getLast?_append, later]
      rfl

/-- The second text is the first with two more line breaks behind one that is there. -/
def WidenedTo (text wider : String) : Prop :=
  ∃ front behind : String, front.toList.getLast? = some '\n' ∧ text = front ++ behind ∧
    wider = front ++ "\n\n" ++ behind

/-- A block without lines widens the text wherever it stands behind others. -/
theorem widenedTo_of_blockBody {front : List String} (filled : front ≠ []) {block : String}
    (bodiless : blockBody block = "") (rest : List String) :
    WidenedTo (blocksText (front ++ rest)) (blocksText (front ++ block :: rest)) := by
  refine ⟨blocksText front, behindText rest, blocksText_last filled,
    blocksText_append filled rest, ?_⟩
  rw [blocksText_append filled, behindText, if_neg (List.cons_ne_nil block rest), blocksText_cons,
    bodiless]
  simp [← String.toList_inj]

namespace WidenedTo
variable {text wider : String}

theorem length (widened : WidenedTo text wider) : wider.length = text.length + 2 := by
  obtain ⟨front, behind, -, rfl, rfl⟩ := widened
  have two : "\n\n".length = 2 := rfl
  simp only [String.length_append, two]
  omega

theorem three (widened : WidenedTo text wider) : ['\n', '\n', '\n'] <:+: wider.toList := by
  obtain ⟨front, behind, last, -, rfl⟩ := widened
  obtain ⟨before, chars⟩ := List.getLast?_eq_some_iff.mp last
  exact ⟨before, behind.toList, by simp [chars]⟩

end WidenedTo

section
variable {text wider added : String}

theorem length_of_widened (unchanged : added = "" → wider = text)
    (widened : added ≠ "" → WidenedTo text wider) :
    wider.length = text.length + if added = "" then 0 else 2 := by
  by_cases unadded : added = ""
  · rw [unchanged unadded, if_pos unadded, Nat.add_zero]
  · rw [(widened unadded).length, if_neg unadded]

theorem eq_iff_of_widened (unchanged : added = "" → wider = text)
    (widened : added ≠ "" → WidenedTo text wider) : wider = text ↔ added = "" := by
  refine ⟨fun same => ?_, unchanged⟩
  by_contra filled
  have sizes := (widened filled).length
  rw [same] at sizes
  omega

end

namespace Document
variable {d : Document} {front behind : String}

theorem userBlock_of_ne (filled : front ≠ "") : userBlock (some front) = [front] := by
  simp [userBlock, filled]

theorem text_eq (d : Document) : d.text =
    blocksText (banner :: userBlock d.prefixText ++ d.declarations ++ userBlock d.suffixText) := by
  rw [← blocks_eq_declarations]
  rfl

theorem text_widened_in_front (breaks : LineBreaksOnly front) (filled : front ≠ "") :
    WidenedTo { d with prefixText := none }.text { d with prefixText := some front }.text := by
  rw [text_eq, text_eq, userBlock_of_ne filled]
  exact widenedTo_of_blockBody (List.cons_ne_nil banner []) (blockBody_of_lineBreaksOnly breaks) _

theorem text_widened_behind (breaks : LineBreaksOnly behind) (filled : behind ≠ "") :
    WidenedTo { d with suffixText := none }.text { d with suffixText := some behind }.text := by
  rw [text_eq, text_eq, userBlock_of_ne filled]
  exact widenedTo_of_blockBody (List.cons_ne_nil banner _) (blockBody_of_lineBreaksOnly breaks) []

theorem length_in_front (breaks : LineBreaksOnly front) :
    { d with prefixText := some front }.text.length =
      { d with prefixText := none }.text.length + if front = "" then 0 else 2 := by
  apply length_of_widened
  · rintro rfl
    rfl
  · exact text_widened_in_front breaks

theorem length_behind (breaks : LineBreaksOnly behind) :
    { d with suffixText := some behind }.text.length =
      { d with suffixText := none }.text.length + if behind = "" then 0 else 2 := by
  apply length_of_widened
  · rintro rfl
    rfl
  · exact text_widened_behind breaks

theorem text_in_front_eq_iff (breaks : LineBreaksOnly front) :
    { d with prefixText := some front }.text = { d with prefixText := none }.text ↔
      front = "" := by
  apply eq_iff_of_widened
  · rintro rfl
    rfl
  · exact text_widened_in_front breaks

theorem text_behind_eq_iff (breaks : LineBreaksOnly behind) :
    { d with suffixText := some behind }.text = { d with suffixText := none }.text ↔
      behind = "" := by
  apply eq_iff_of_widened
  · rintro rfl
    rfl
  · exact text_widened_behind breaks

theorem text_around_eq_iff (inFront : LineBreaksOnly front) (isBehind : LineBreaksOnly behind) :
    { d with prefixText := some front, suffixText := some behind }.text =
        { d with prefixText := none, suffixText := none }.text ↔ front = "" ∧ behind = "" := by
  constructor
  · intro same
    have first := length_in_front (d := { d with suffixText := some behind }) inFront
    have second := length_behind (d := { d with prefixText := none }) isBehind
    simp only [same, second] at first
    -- The lengths add up, so neither text makes up for what the other writes.
    refine ⟨?_, ?_⟩
    all_goals
      by_contra filled
      rw [if_neg filled] at first
      omega
  · rintro ⟨rfl, rfl⟩
    rfl

end Document

/-- A text that ends in one line break and has no two blank lines next to each other. -/
structure SinglySpaced (text : String) : Prop where
  ended : ∃ body : String, text = body ++ "\n" ∧ body.toList.getLast? ≠ some '\n'
  spaced : ¬ ['\n', '\n', '\n'] <:+: text.toList

namespace Document
variable {d : Document} {front behind : String}

theorem Tidy.singlySpaced (tidy : d.Tidy) : SinglySpaced d.text := by
  have filled : d.blocks ≠ [] := List.cons_ne_nil _ _
  obtain ⟨body, text, laid⟩ := blocksText_laidOut filled tidy.paragraph
  have chars : d.text.toList = body ++ ['\n'] := text
  refine ⟨⟨String.ofList body, ?_, by simpa using laid.closes⟩, ?_⟩
  · simp [← String.toList_inj, chars]
  · rw [chars]
    exact Text.not_infix_concat ['\n'] laid.closes laid.spaced

theorem singlySpaced_around_iff (unbroken : d.Unbroken) (inFront : LineBreaksOnly front)
    (isBehind : LineBreaksOnly behind) :
    SinglySpaced { d with prefixText := some front, suffixText := some behind }.text ↔
      front = "" ∧ behind = "" := by
  constructor
  · intro single
    -- Each of the two widens the text in which the other one stands already.
    refine ⟨?_, ?_⟩
    · by_contra filled
      exact single.spaced
        (text_widened_in_front (d := { d with suffixText := some behind }) inFront filled).three
    · by_contra filled
      exact single.spaced
        (text_widened_behind (d := { d with prefixText := some front }) isBehind filled).three
  · rintro ⟨rfl, rfl⟩
    have tidy : Tidy { d with prefixText := some "", suffixText := some "" } :=
      ⟨⟨unbroken.enums, unbroken.tables, unbroken.registryName, unbroken.mapName⟩,
        by simp [userBlock], by simp [userBlock]⟩
    exact tidy.singlySpaced

end Document

/-- Of the texts that hold nothing but line breaks, those and only those without any write nothing:
in front, behind, and both, the bytes that reach an output which never fails are those for the
document without the text. Whatever the catalog supplies, the text written is singly spaced exactly
then. -/
theorem Emitter.line_breaks_unwritten_iff (sink : Sink σ) (never : sink.NeverFails) (output : σ)
    (d : Document) {front behind : String} (inFront : LineBreaksOnly front)
    (isBehind : LineBreaksOnly behind) :
    let written := fun d : Document => acceptedBytes (document sink d (.start output)).effects
    let around := { d with prefixText := some front, suffixText := some behind }
    (written { d with prefixText := some front } = written { d with prefixText := none } ↔
      front = "") ∧
    (written { d with suffixText := some behind } = written { d with suffixText := none } ↔
      behind = "") ∧
    (written around = written { d with prefixText := none, suffixText := none } ↔
      front = "" ∧ behind = "") ∧
    (d.Unbroken → ∃ text, written around = utf8 text ∧
      (SinglySpaced text ↔ front = "" ∧ behind = "")) := by
  intro written around
  have alike (e f : Document) : written e = written f ↔ e.text = f.text := by
    simp only [written, document_whole sink never]
    exact ⟨utf8_injective, congrArg utf8⟩
  refine ⟨?_, ?_, ?_, fun unbroken => ⟨around.text, document_whole sink never _ output, ?_⟩⟩
  · exact (alike _ _).trans (Document.text_in_front_eq_iff inFront)
  · exact (alike _ _).trans (Document.text_behind_eq_iff isBehind)
  · exact (alike _ _).trans (Document.text_around_eq_iff inFront isBehind)
  · exact Document.singlySpaced_around_iff unbroken inFront isBehind

/-- An output that takes byte by byte what it is offered. Line breaks in front are written and an
empty text behind is not, and the blank lines in front are two too many. -/
theorem Emitter.line_breaks_unwritten_front :
    let slow : Sink Unit := { Sink.reliable with write := fun s _ => (.ok 1, s) }
    let written := fun d : Document => acceptedBytes (document slow d (.start ())).effects
    let d : Document := ⟨none, [⟨"Mood", [⟨"Sad", "sad\n\n"⟩]⟩], "Table", "Tables", true,
      [⟨"User", "user", [⟨"id", "number"⟩]⟩], some "export \x7b\x7d;\n"⟩
    slow.NeverFails ∧ LineBreaksOnly "\n\r\n" ∧ LineBreaksOnly "" ∧ d.Unbroken ∧
    written { d with prefixText := some "\n\r\n" } ≠ written { d with prefixText := none } ∧
    written { d with suffixText := some "" } = written { d with suffixText := none } ∧
    ∃ text, written { d with prefixText := some "\n\r\n", suffixText := some "" } = utf8 text ∧
      ¬ SinglySpaced text := by
  intro slow written d
  have never : slow.NeverFails := ⟨fun s bytes offered => ⟨0, s, rfl⟩, fun s => rfl⟩
  have inFront : LineBreaksOnly "\n\r\n" := by decide
  have isBehind : LineBreaksOnly "" := by decide
  have unbroken : d.Unbroken := by
    refine ⟨?_, ?_, fun _ => by decide, fun _ _ => by decide⟩
    · simp only [d, List.mem_singleton, forall_eq]
      exact ⟨by decide, by decide⟩
    · simp only [d, List.mem_singleton, forall_eq]
      exact ⟨by decide, by decide⟩
  obtain ⟨before, after, -, layout⟩ :=
    line_breaks_unwritten_iff slow never () d inFront isBehind
  obtain ⟨text, bytes, single⟩ := layout unbroken
  exact ⟨never, inFront, isBehind, unbroken, mt before.mp (by decide), after.mpr rfl, text, bytes,
    mt single.mp (by decide)⟩

/-- One line break in front of an enum: three blank lines where there is one without it. -/
theorem Emitter.line_break_in_front_written :
    let enum := "export enum Mood \x7b\n  Sad = 'sad',\n\x7d\n"
    let d : Document := ⟨some "\n", [⟨"Mood", [⟨"Sad", "sad"⟩]⟩], "Table", "Tables", true, [], none⟩
    let written := fun d : Document =>
      acceptedBytes (document Sink.reliable d (.start ())).effects
    LineBreaksOnly "\n" ∧ written d = utf8 (banner ++ "\n\n\n" ++ enum) ∧
      written { d with prefixText := none } = utf8 (banner ++ "\n" ++ enum) ∧
      written d ≠ written { d with prefixText := none } := by
  intro enum d written
  have whole (e : Document) : written e = utf8 e.text :=
    document_whole Sink.reliable Sink.reliable_neverFails e ()
  have wide : d.text = banner ++ "\n\n\n" ++ enum := by decide +kernel
  have single : { d with prefixText := none }.text = banner ++ "\n" ++ enum := by decide +kernel
  refine ⟨by decide, by rw [whole, wide], by rw [whole, single], ?_⟩
  rw [whole, whole, wide, single]
  intro same
  exact absurd (utf8_injective same) (by decide +kernel)

end SchemaTypes
