import SchemaTypes.Emission

/-! What reaches an output. However the output cuts the writes and wherever it fails, the accepted
bytes are the first bytes of the document's text, and the blocks counted are those that are through
to their last byte. -/
namespace SchemaTypes

/-- Block bodies, each ended by a line break, with a blank line between two. -/
def blocksText (blocks : List String) : String :=
  "\n".intercalate (blocks.map fun block => blockBody block ++ "\n")

/-- How many of the blocks the accepted bytes hold with their last byte. -/
def completeBlocks (blocks : List String) (accepted : Bytes) : Nat :=
  (List.range blocks.length).countP fun i =>
    (utf8 (blocksText (blocks.take (i + 1)))).isPrefixOf accepted

/-- An output that takes at least one byte of whatever it is offered, and never refuses. -/
structure Sink.NeverFails (sink : Sink σ) : Prop where
  write : ∀ s bytes, bytes ≠ [] → ∃ n next, sink.write s bytes = (.ok (n + 1), next)
  flush : ∀ s, (sink.flush s).1 = .ok ()

theorem Sink.reliable_neverFails : Sink.reliable.NeverFails where
  write s bytes offered := by
    obtain ⟨byte, rest, rfl⟩ := List.exists_cons_of_ne_nil offered
    exact ⟨rest.length, s, rfl⟩
  flush s := rfl

def OnlyWrites (effects : List Effect) : Prop :=
  ∀ effect ∈ effects, ∃ accepted, effect = .write accepted

theorem OnlyWrites.not_mem {written : List Effect} (writes : OnlyWrites written) {effect : Effect}
    (other : ∀ accepted, effect ≠ .write accepted) : effect ∉ written := by
  intro member
  obtain ⟨accepted, same⟩ := writes effect member
  exact other accepted same

theorem OnlyWrites.consultedCalls {written : List Effect} (writes : OnlyWrites written) :
    consultedCalls written = [] := by
  apply List.filterMap_eq_nil_iff.mpr
  intro effect member
  obtain ⟨accepted, rfl⟩ := writes effect member
  rfl

/-- The sending of some bytes to an output in a given state: its writes, its result, and the state
it leaves the output in. A write is offered some of the bytes that are left, from the first one on, and
what it does not take is still left. The first write that is refused, or takes nothing, ends it, and
its fault is the result. -/
inductive Transfer (sink : Sink σ) :
    Bytes → σ → List Effect → Except Error Unit → σ → Prop
  | done : Transfer sink [] s [] (.ok ()) s
  | refused (answer : sink.write s (byte :: offered) = (.error message, last)) :
      Transfer sink (byte :: offered ++ left) s [.write []] (.error (.output (.refused message)))
        last
  | tookNothing (answer : sink.write s (byte :: offered) = (.ok 0, last)) :
      Transfer sink (byte :: offered ++ left) s [.write []] (.error (.output .writeZero)) last
  | took (answer : sink.write s (byte :: offered) = (.ok (n + 1), next))
      (later : Transfer sink (offered.drop n ++ left) next effects result last) :
      Transfer sink (byte :: offered ++ left) s (.write (byte :: offered.take n) :: effects) result
        last

namespace Transfer
variable {sink : Sink σ} {result : Except Error Unit}

theorem took_append (answer : sink.write s (byte :: offered) = (.ok (n + 1), next))
    (later : Transfer sink (offered.drop n ++ left ++ b) next effects result last) :
    Transfer sink (byte :: offered ++ left ++ b) s (.write (byte :: offered.take n) :: effects)
      result last := by
  rw [List.append_assoc] at later ⊢
  exact took answer later

theorem append (first : Transfer sink a s earlier result middle) (ok : result = .ok ())
    (second : Transfer sink b middle later answer last) :
    Transfer sink (a ++ b) s (earlier ++ later) answer last := by
  induction first with
  | done => exact second
  | refused => contradiction
  | tookNothing => contradiction
  | took answer _ ih => exact took_append answer (ih ok second)

theorem stopped (first : Transfer sink a s effects result last) (failed : result = .error e)
    (b : Bytes) : Transfer sink (a ++ b) s effects result last := by
  induction first with
  | done => contradiction
  | refused answer => rw [List.append_assoc]; exact refused answer
  | tookNothing answer => rw [List.append_assoc]; exact tookNothing answer
  | took answer _ ih => exact took_append answer (ih failed)

theorem writes (t : Transfer sink bytes s effects result last) : OnlyWrites effects := by
  induction t with
  | done => simp [OnlyWrites]
  | refused => simp [OnlyWrites]
  | tookNothing => simp [OnlyWrites]
  | took _ _ ih => simpa [OnlyWrites] using ih

/-- What is accepted and what is not are the bytes, and nothing is not accepted exactly if it ends
well. -/
theorem unsent (t : Transfer sink bytes s effects result last) :
    ∃ rest, acceptedBytes effects ++ rest = bytes ∧ (result = .ok () ↔ rest = []) := by
  induction t with
  | done => exact ⟨[], rfl, by simp⟩
  | refused => exact ⟨_, rfl, by simp⟩
  | tookNothing => exact ⟨_, rfl, by simp⟩
  | took answer later ih =>
    obtain ⟨rest, cut, ends⟩ := ih
    refine ⟨rest, ?_, ends⟩
    rw [acceptedBytes_cons, List.append_assoc, cut, ← List.append_assoc, Effect.accepted,
      List.cons_append, List.take_append_drop]

theorem within (t : Transfer sink bytes s effects result last) :
    acceptedBytes effects <+: bytes := by
  obtain ⟨rest, cut, -⟩ := t.unsent
  exact ⟨rest, cut⟩

theorem whole (t : Transfer sink bytes s effects result last) :
    result = .ok () ↔ acceptedBytes effects = bytes := by
  obtain ⟨rest, rfl, ends⟩ := t.unsent
  rw [ends, List.self_eq_append_right]

theorem ne_of_error (t : Transfer sink bytes s effects result last) (failed : result = .error e) :
    acceptedBytes effects ≠ bytes := by
  intro all
  have ok := t.whole.mpr all
  simp [ok] at failed

end Transfer

theorem Sink.writeAll_transfer (sink : Sink σ) (bytes : Bytes) (s : σ) :
    Transfer sink bytes s (sink.writeAll bytes s).effects (sink.writeAll bytes s).result
      (sink.writeAll bytes s).state := by
  induction bytes, s using Sink.writeAll.induct sink with
  | case1 s => rw [Sink.writeAll]; exact .done
  | case2 byte rest s message last answer =>
    have sent : Transfer sink (byte :: rest ++ []) s _ _ last := .refused answer
    rw [List.append_nil] at sent
    rwa [Sink.writeAll, answer]
  | case3 byte rest s last answer =>
    have sent : Transfer sink (byte :: rest ++ []) s _ _ last := .tookNothing answer
    rw [List.append_nil] at sent
    rwa [Sink.writeAll, answer]
  | case4 byte rest s n next answer ih =>
    rw [← List.append_nil (rest.drop n)] at ih
    have sent := Transfer.took answer ih
    simp only [List.append_nil] at sent
    rwa [Sink.writeAll, answer]

theorem Sink.writeAll_ok (sink : Sink σ) (never : sink.NeverFails) (bytes : Bytes) (s : σ) :
    (sink.writeAll bytes s).result = .ok () := by
  induction bytes, s using Sink.writeAll.induct sink with
  | case1 s => rw [Sink.writeAll]
  | case2 byte rest s message next answer =>
    obtain ⟨n, other, takes⟩ := never.write s (byte :: rest) (by simp)
    simp [takes] at answer
  | case3 byte rest s next answer =>
    obtain ⟨n, other, takes⟩ := never.write s (byte :: rest) (by simp)
    simp [takes] at answer
  | case4 byte rest s n next answer ih => rw [Sink.writeAll, answer]; exact ih

/-- The bytes of a block that has `before` blocks in front of it, with the blank line between. -/
def blockBytes (before : Nat) (text : String) : Bytes :=
  (if before = 0 then [] else utf8 "\n") ++ utf8 (blockBody text ++ "\n")

def bytesFrom (before : Nat) : List String → Bytes
  | [] => []
  | text :: rest => blockBytes before text ++ bytesFrom (before + 1) rest

theorem blockBytes_succ (before : Nat) (text : String) :
    blockBytes (before + 1) text = utf8 "\n" ++ blockBytes 0 text := by
  simp [blockBytes]

theorem blocksText_cons_cons (text next : String) (rest : List String) :
    blocksText (text :: next :: rest) =
      blockBody text ++ "\n" ++ "\n" ++ blocksText (next :: rest) := by
  simp only [blocksText, List.map_cons, String.intercalate_cons_cons]

theorem bytesFrom_succ (before : Nat) (text : String) (rest : List String) :
    bytesFrom (before + 1) (text :: rest) = utf8 "\n" ++ bytesFrom 0 (text :: rest) := by
  induction rest generalizing before text with
  | nil => simp [bytesFrom, blockBytes_succ]
  | cons next rest ih =>
    have later : bytesFrom (before + 1 + 1) (next :: rest) = bytesFrom (0 + 1) (next :: rest) :=
      (ih (before + 1) next).trans (ih 0 next).symm
    simp only [bytesFrom] at later ⊢
    rw [later, blockBytes_succ, List.append_assoc]

theorem bytesFrom_zero (blocks : List String) : bytesFrom 0 blocks = utf8 (blocksText blocks) := by
  induction blocks with
  | nil => rfl
  | cons text rest ih =>
    cases rest with
    | nil => simp [bytesFrom, blockBytes, blocksText]
    | cons next rest =>
      rw [bytesFrom, bytesFrom_succ, ih, blocksText_cons_cons]
      simp [blockBytes]

/-- `completeBlocks` in the middle of a document. -/
def completeFrom (before : Nat) (blocks : List String) (accepted : Bytes) : Nat :=
  (List.range blocks.length).countP fun i =>
    (bytesFrom before (blocks.take (i + 1))).isPrefixOf accepted

theorem completeFrom_zero (blocks : List String) (accepted : Bytes) :
    completeFrom 0 blocks accepted = completeBlocks blocks accepted := by
  simp only [completeFrom, completeBlocks, bytesFrom_zero]

theorem completeFrom_cons (before : Nat) (text : String) (rest : List String) (accepted : Bytes) :
    completeFrom before (text :: rest) (blockBytes before text ++ accepted) =
      completeFrom (before + 1) rest accepted + 1 := by
  have first : (bytesFrom before [text]).isPrefixOf (blockBytes before text ++ accepted) = true := by
    simp [bytesFrom, List.isPrefixOf_iff_prefix]
  have later (i : Nat) :
      (bytesFrom before (text :: rest.take (i + 1))).isPrefixOf (blockBytes before text ++ accepted) =
        (bytesFrom (before + 1) (rest.take (i + 1))).isPrefixOf accepted := by
    rw [Bool.eq_iff_iff, List.isPrefixOf_iff_prefix, List.isPrefixOf_iff_prefix, bytesFrom,
      List.prefix_append_right_inj]
  simp only [completeFrom, List.length_cons, List.range_succ_eq_map, List.countP_cons,
    List.countP_map, Function.comp_def, List.take_succ_cons, later, List.take_zero, first, if_true]

theorem completeFrom_eq_zero (before : Nat) (text : String) (rest : List String) (accepted : Bytes)
    (partly : ¬ blockBytes before text <+: accepted) :
    completeFrom before (text :: rest) accepted = 0 := by
  refine List.countP_eq_zero.mpr fun i _ complete => partly ?_
  rw [List.isPrefixOf_iff_prefix, List.take_succ_cons, bytesFrom] at complete
  exact (List.prefix_append _ _).trans complete

namespace Emitter

/-- The action sends these bytes to the output. -/
def Sends (sink : Sink σ) (bytes : Bytes) (x : Action (Emitter σ) Unit) (e : Emitter σ) : Prop :=
  Transfer sink bytes e.output (x e).effects (x e).result (x e).state.output

theorem Sends.bind {sink : Sink σ} {x y : Action (Emitter σ) Unit} {e : Emitter σ}
    (first : Sends sink a x e)
    (second : (x e).result = .ok () → Sends sink b y (x e).state) :
    Sends sink (a ++ b) (x >>= fun _ => y) e := by
  unfold Sends
  cases result : (x e).result with
  | error fault =>
    rw [Action.bind_of_error result, ← result]
    exact first.stopped result b
  | ok =>
    rw [Action.bind_of_ok result]
    exact first.append result (second result)

theorem writeText_sends (sink : Sink σ) (text : String) (e : Emitter σ) :
    Sends sink (utf8 text) (writeText sink text) e :=
  sink.writeAll_transfer (utf8 text) e.output

theorem separate_sends (sink : Sink σ) (e : Emitter σ) :
    Sends sink (if e.blocks = 0 then [] else utf8 "\n") (separate sink) e := by
  unfold Sends separate
  split
  · exact .done
  · exact writeText_sends sink "\n" e

theorem separate_blocks (sink : Sink σ) (e : Emitter σ) :
    (separate sink e).state.blocks = e.blocks := by
  unfold separate
  split <;> rfl

theorem block_sends (sink : Sink σ) (text : String) (e : Emitter σ) :
    Sends sink (blockBytes e.blocks text) (block sink text) e := by
  have bytes : blockBytes e.blocks text = (if e.blocks = 0 then [] else utf8 "\n") ++
      (utf8 (blockBody text) ++ (utf8 "\n" ++ [])) := by
    simp [blockBytes]
  rw [bytes]
  apply Sends.bind (separate_sends sink e)
  intro _
  apply Sends.bind (writeText_sends sink _ _)
  intro _
  apply Sends.bind (writeText_sends sink _ _)
  intro _
  exact Transfer.done

/-- A block counts exactly if it is written. -/
theorem block_blocks (sink : Sink σ) (text : String) (e : Emitter σ) :
    (∃ fault, (block sink text e).result = .error fault ∧
      (block sink text e).state.blocks = e.blocks) ∨
    ((block sink text e).result = .ok () ∧ (block sink text e).state.blocks = e.blocks + 1) := by
  have kept := separate_blocks sink e
  unfold block
  cases separated : (separate sink e).result with
  | error fault =>
    rw [Action.bind_of_error separated]
    exact .inl ⟨fault, rfl, kept⟩
  | ok =>
    rw [Action.bind_of_ok separated]
    cases body : (writeText sink (blockBody text) (separate sink e).state).result with
    | error fault =>
      rw [Action.bind_of_error body]
      exact .inl ⟨fault, rfl, kept⟩
    | ok =>
      rw [Action.bind_of_ok body]
      cases ended : (writeText sink "\n"
          (writeText sink (blockBody text) (separate sink e).state).state).result with
      | error fault =>
        rw [Action.bind_of_error ended]
        exact .inl ⟨fault, rfl, kept⟩
      | ok =>
        rw [Action.bind_of_ok ended]
        exact .inr ⟨rfl, congrArg (· + 1) kept⟩

theorem allBlocks_sends (sink : Sink σ) (blocks : List String) (e : Emitter σ) :
    Sends sink (bytesFrom e.blocks blocks) (allBlocks sink blocks) e := by
  induction blocks generalizing e with
  | nil => exact Transfer.done
  | cons text rest ih =>
    apply Sends.bind (block_sends sink text e)
    intro done
    rcases block_blocks sink text e with ⟨fault, failed, _⟩ | ⟨_, counted⟩
    · simp [failed] at done
    · exact counted ▸ ih _

/-- The counter is ahead by the blocks that the accepted bytes hold, also when the writing breaks
off inside a separator or a body. -/
theorem allBlocks_blocks (sink : Sink σ) (blocks : List String) (e : Emitter σ) :
    (allBlocks sink blocks e).state.blocks = e.blocks +
      completeFrom e.blocks blocks (acceptedBytes (allBlocks sink blocks e).effects) := by
  induction blocks generalizing e with
  | nil => rfl
  | cons text rest ih =>
    have sent := block_sends sink text e
    unfold allBlocks
    rcases block_blocks sink text e with ⟨fault, failed, kept⟩ | ⟨done, counted⟩
    · have partly : ¬ blockBytes e.blocks text <+: acceptedBytes (block sink text e).effects := by
        intro all
        exact sent.ne_of_error failed (sent.within.eq_of_length_le all.length_le)
      rw [Action.bind_of_error failed, completeFrom_eq_zero _ _ _ _ partly]
      exact kept
    · have all := sent.whole.mp done
      have later := ih (block sink text e).state
      rw [counted] at later
      rw [Action.bind_of_ok done]
      rw [Outcome.state_after, Outcome.effects_after, acceptedBytes_append, all, completeFrom_cons,
        later]
      omega

theorem document_sends (sink : Sink σ) (d : Document) (output : σ) :
    Sends sink (utf8 d.text) (allBlocks sink d.blocks) (.start output) := by
  have all := allBlocks_sends sink d.blocks (.start output)
  rwa [show (start output).blocks = 0 from rfl, bytesFrom_zero] at all

theorem flush_effects (sink : Sink σ) (e : Emitter σ) : (flush sink e).effects = [.flush] := rfl

theorem flush_blocks (sink : Sink σ) (e : Emitter σ) :
    (flush sink e).state.blocks = e.blocks := rfl

theorem document_of_error {sink : Sink σ} {d : Document} {e : Emitter σ}
    (failed : (allBlocks sink d.blocks e).result = .error fault) :
    document sink d e = allBlocks sink d.blocks e := by
  rw [document, Action.bind_of_error failed, ← failed]

/-- The flush comes last, and only after all blocks. -/
theorem document_of_ok {sink : Sink σ} {d : Document} {e : Emitter σ}
    (done : (allBlocks sink d.blocks e).result = .ok ()) :
    document sink d e = (flush sink (allBlocks sink d.blocks e).state).after
      (allBlocks sink d.blocks e).effects := by
  rw [document, Action.bind_of_ok done]

theorem writeText_ok (sink : Sink σ) (never : sink.NeverFails) (text : String) (e : Emitter σ) :
    (writeText sink text e).result = .ok () := sink.writeAll_ok never _ _

theorem separate_ok (sink : Sink σ) (never : sink.NeverFails) (e : Emitter σ) :
    (separate sink e).result = .ok () := by
  unfold separate
  split
  · rfl
  · exact writeText_ok sink never "\n" e

theorem block_ok (sink : Sink σ) (never : sink.NeverFails) (text : String) (e : Emitter σ) :
    (block sink text e).result = .ok () := by
  rw [block, Action.bind_of_ok (separate_ok sink never e),
    Action.bind_of_ok (writeText_ok sink never _ _), Action.bind_of_ok (writeText_ok sink never _ _)]
  rfl

theorem allBlocks_ok (sink : Sink σ) (never : sink.NeverFails) (blocks : List String)
    (e : Emitter σ) : (allBlocks sink blocks e).result = .ok () := by
  induction blocks generalizing e with
  | nil => rfl
  | cons text rest ih =>
    rw [allBlocks, Action.bind_of_ok (block_ok sink never text e)]
    exact ih _

theorem document_ok (sink : Sink σ) (never : sink.NeverFails) (d : Document) (e : Emitter σ) :
    (document sink d e).result = .ok () := by
  rw [document_of_ok (allBlocks_ok sink never d.blocks e)]
  simp [flush, never.flush]

theorem document_accepted (sink : Sink σ) (d : Document) (e : Emitter σ) :
    acceptedBytes (document sink d e).effects =
      acceptedBytes (allBlocks sink d.blocks e).effects := by
  cases result : (allBlocks sink d.blocks e).result with
  | error fault => rw [document_of_error result]
  | ok => simp [document_of_ok result, flush_effects, Effect.accepted]

theorem document_whole (sink : Sink σ) (never : sink.NeverFails) (d : Document) (output : σ) :
    acceptedBytes (document sink d (.start output)).effects = utf8 d.text := by
  rw [document_accepted]
  exact (document_sends sink d output).whole.mp (allBlocks_ok sink never d.blocks _)

theorem document_blocks (sink : Sink σ) (d : Document) (e : Emitter σ) :
    (document sink d e).state.blocks = (allBlocks sink d.blocks e).state.blocks := by
  cases result : (allBlocks sink d.blocks e).result with
  | error fault => rw [document_of_error result]
  | ok => rw [document_of_ok result, Outcome.state_after, flush_blocks]

/-- Writing a document to any output accepts the first bytes of its text, all of them if it
succeeds, and the emitter has counted the blocks among them. An output that never fails gets the
text, however it cuts the writes. -/
theorem document_refines_text (sink : Sink σ) (d : Document) (output : σ) :
    let o := document sink d (.start output)
    acceptedBytes o.effects <+: utf8 d.text ∧
    (o.result = .ok () → acceptedBytes o.effects = utf8 d.text) ∧
    o.state.blocks = completeBlocks d.blocks (acceptedBytes o.effects) ∧
    (sink.NeverFails → o.result = .ok ()) := by
  intro o
  have sent := document_sends sink d output
  have accepted : acceptedBytes o.effects = _ := document_accepted sink d (.start output)
  refine ⟨?_, ?_, ?_, fun never => document_ok sink never d _⟩
  · rw [accepted]
    exact sent.within
  · intro done
    rw [accepted]
    cases result : (allBlocks sink d.blocks (.start output)).result with
    | error fault =>
      have same := document_of_error (d := d) result
      simp [o, same, result] at done
    | ok => exact sent.whole.mp result
  · have counted := allBlocks_blocks sink d.blocks (.start output)
    rw [show (start output).blocks = 0 from rfl, Nat.zero_add, completeFrom_zero] at counted
    rw [accepted, ← counted]
    exact document_blocks sink d (.start output)

end Emitter

end SchemaTypes
