import SchemaTypes.Proofs.Spelling
import SchemaTypes.Proofs.Writing

/-! The lines of a written text. A declaration is a block of lines none of which is empty, and
blocks are told apart by the empty lines between them, so a text of such blocks has no other
blocks than those it was written from. -/
namespace SchemaTypes

def unlines (lines : List (List Char)) : List Char := lines.flatMap (· ++ ['\n'])

def linesOf (text : String) : List (List Char) := (text.toList.splitOn '\n').dropLast

@[simp] theorem unlines_nil : unlines [] = [] := rfl

@[simp] theorem unlines_cons (line : List Char) (lines : List (List Char)) :
    unlines (line :: lines) = line ++ '\n' :: unlines lines := by
  simp [unlines]

@[simp] theorem unlines_append (first second : List (List Char)) :
    unlines (first ++ second) = unlines first ++ unlines second := by
  simp [unlines]

theorem unlines_eq_intercalate (lines : List (List Char)) :
    unlines lines = ['\n'].intercalate (lines ++ [[]]) := by
  induction lines with
  | nil => rfl
  | cons line lines ih =>
    rw [unlines_cons, ih, List.cons_append, List.intercalate_cons_of_ne_nil (by simp)]
    simp

theorem splitOn_unlines {lines : List (List Char)} (unbroken : ∀ l ∈ lines, '\n' ∉ l) :
    (unlines lines).splitOn '\n' = lines ++ [[]] := by
  rw [unlines_eq_intercalate]
  apply List.splitOn_intercalate
  · intro l member
    rcases List.mem_append.mp member with member | last
    · exact unbroken l member
    · simp [List.mem_singleton.mp last]
  · simp

theorem linesOf_of_unlines {text : String} {lines : List (List Char)}
    (same : text.toList = unlines lines) (unbroken : ∀ l ∈ lines, '\n' ∉ l) :
    linesOf text = lines := by
  rw [linesOf, same, splitOn_unlines unbroken, List.dropLast_concat]

/-- The lines of blocks, with an empty line between two. -/
def spaced (blocks : List (List (List Char))) : List (List Char) := [[]].intercalate blocks

theorem spaced_inj {a b : List (List (List Char))} (someA : a ≠ []) (someB : b ≠ [])
    (filledA : ∀ block ∈ a, [] ∉ block) (filledB : ∀ block ∈ b, [] ∉ block)
    (same : spaced a = spaced b) : a = b := by
  have split := congrArg (List.splitOn []) same
  rwa [spaced, spaced, List.splitOn_intercalate _ filledA someA,
    List.splitOn_intercalate _ filledB someB] at split

theorem spaced_cons_cons (block next : List (List Char)) (rest : List (List (List Char))) :
    spaced (block :: next :: rest) = block ++ [] :: spaced (next :: rest) := by
  rw [spaced, List.intercalate_cons_cons, List.append_assoc, List.singleton_append, spaced]

theorem unlines_spaced (blocks : List (List (List Char))) :
    unlines (spaced blocks) = ['\n'].intercalate (blocks.map unlines) := by
  induction blocks with
  | nil => rfl
  | cons block rest ih =>
    cases rest with
    | nil => simp [spaced]
    | cons next rest =>
      rw [spaced_cons_cons, unlines_append, unlines_cons, ih, List.map_cons, List.map_cons,
        List.map_cons, List.intercalate_cons_cons]
      simp

/-- A block of lines none of which is empty, and whose last one ends in its line break only. -/
structure Regular (block : String) : Prop where
  lines : unlines (linesOf block) = block.toList
  unbroken : ∀ l ∈ linesOf block, '\n' ∉ l
  filled : [] ∉ linesOf block
  closed : blockBody block ++ "\n" = block

theorem blockBody_of_closed {block : String} {body : List Char} {c : Char}
    (text : block.toList = body ++ [c, '\n']) (plain : isLineBreak c = false) :
    blockBody block ++ "\n" = block := by
  have feed : isLineBreak '\n' = true := rfl
  rw [← String.toList_inj]
  simp [blockBody, text, Text.dropTrailing, plain, feed]

theorem Regular.of_lines {block : String} (front : List (List Char)) (last : List Char) (c : Char)
    (text : block.toList = unlines (front ++ [last ++ [c]]))
    (unbroken : ∀ l ∈ front ++ [last ++ [c]], '\n' ∉ l) (filled : [] ∉ front)
    (plain : isLineBreak c = false) : Regular block := by
  have same := linesOf_of_unlines text unbroken
  have closed : block.toList = (unlines front ++ last) ++ [c, '\n'] := by simp [text]
  refine ⟨?_, ?_, ?_, blockBody_of_closed closed plain⟩
  · rw [same, text]
  · rwa [same]
  · simpa [same] using filled

theorem blocksText_of_regular {blocks : List String} (regular : ∀ block ∈ blocks, Regular block) :
    (blocksText blocks).toList = unlines (spaced (blocks.map linesOf)) := by
  have bodies : (blocks.map fun block => blockBody block ++ "\n") = blocks := by
    rw [List.map_congr_left fun block member => (regular block member).closed, List.map_id']
  have texts : blocks.map String.toList = (blocks.map linesOf).map unlines := by
    rw [List.map_map]
    exact List.map_congr_left fun block member => (regular block member).lines.symm
  rw [blocksText, bodies, String.toList_intercalate, texts, unlines_spaced]
  rfl

theorem unbroken_spaced {blocks : List String} (regular : ∀ block ∈ blocks, Regular block) :
    ∀ l ∈ spaced (blocks.map linesOf), '\n' ∉ l := by
  induction blocks with
  | nil => simp [spaced]
  | cons block rest ih =>
    have first := (regular block List.mem_cons_self).unbroken
    have later := ih fun other member => regular other (List.mem_cons_of_mem block member)
    cases rest with
    | nil => simpa [spaced] using first
    | cons next rest =>
      rw [List.map_cons, List.map_cons, spaced_cons_cons]
      intro l member
      rw [List.mem_append, List.mem_cons] at member
      rcases member with member | rfl | member
      · exact first l member
      · simp
      · exact later l member

theorem blocksText_cons_inj {block : String} {a b : List String}
    (same : blocksText (block :: a) = blocksText (block :: b)) :
    (a = [] ∧ b = []) ∨ (a ≠ [] ∧ b ≠ [] ∧ blocksText a = blocksText b) := by
  have alone : blocksText [block] = blockBody block ++ "\n" := by simp [blocksText]
  cases a with
  | nil =>
    cases b with
    | nil => exact .inl ⟨rfl, rfl⟩
    | cons other rest => simp [alone, blocksText_cons_cons, ← String.toList_inj] at same
  | cons next more =>
    cases b with
    | nil => simp [alone, blocksText_cons_cons, ← String.toList_inj] at same
    | cons other rest =>
      rw [blocksText_cons_cons, blocksText_cons_cons] at same
      exact .inr ⟨by simp, by simp, (String.append_right_inj _).mp same⟩

theorem blocksText_inj {a b : List String} (someA : a ≠ []) (someB : b ≠ [])
    (regularA : ∀ block ∈ a, Regular block) (regularB : ∀ block ∈ b, Regular block)
    (same : blocksText a = blocksText b) : a = b := by
  have chars := congrArg String.toList same
  rw [blocksText_of_regular regularA, blocksText_of_regular regularB] at chars
  have lines := congrArg (List.splitOn '\n') chars
  rw [splitOn_unlines (unbroken_spaced regularA), splitOn_unlines (unbroken_spaced regularB)] at lines
  have blocks : a.map linesOf = b.map linesOf := by
    apply spaced_inj (by simpa using someA) (by simpa using someB)
    · simpa using fun block member => (regularA block member).filled
    · simpa using fun block member => (regularB block member).filled
    · exact List.append_cancel_right lines
  have texts : a.map String.toList = b.map String.toList := by
    rw [← List.map_congr_left fun block member => (regularA block member).lines,
      ← List.map_congr_left fun block member => (regularB block member).lines]
    simpa only [List.map_map, Function.comp_def] using congrArg (List.map unlines) blocks
  exact (List.map_inj_right fun x y => String.toList_inj.mp).mp texts

end SchemaTypes
