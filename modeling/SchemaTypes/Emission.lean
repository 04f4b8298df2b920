import SchemaTypes.Document
import SchemaTypes.Effect

/-! Writing a document to an output. The output decides how many bytes each write accepts; what is
left over is offered again, and an output that accepts nothing ends the writing. -/
namespace SchemaTypes

/-- An output and its state. `write` answers with a number of accepted bytes; a number beyond what
was offered means all of it. -/
structure Sink (σ : Type) where
  write : σ → Bytes → Except String Nat × σ
  flush : σ → Except String Unit × σ
  shutdown : σ → Except String Unit × σ

namespace Sink

def reliable : Sink Unit where
  write s bytes := (.ok bytes.length, s)
  flush s := (.ok (), s)
  shutdown s := (.ok (), s)

/-- Offers the bytes until all are accepted. Nothing is offered when there are none. -/
def writeAll (sink : Sink σ) : Bytes → Action σ Unit
  | [], s => ⟨.ok (), [], s⟩
  | byte :: rest, s =>
    match sink.write s (byte :: rest) with
    | (.error message, s) => ⟨.error (.output (.refused message)), [.write []], s⟩
    | (.ok 0, s) => ⟨.error (.output .writeZero), [.write []], s⟩
    | (.ok (n + 1), s) =>
      (sink.writeAll (rest.drop n) s).after [.write (byte :: rest.take n)]
termination_by bytes => bytes.length
decreasing_by simp only [List.length_drop, List.length_cons]; omega

end Sink

/-- An output in the middle of a document. -/
structure Emitter (σ : Type) where
  output : σ
  blocks : Nat

namespace Emitter

def start (output : σ) : Emitter σ := ⟨output, 0⟩

def writeText (sink : Sink σ) (text : String) : Action (Emitter σ) Unit := fun e =>
  let o := sink.writeAll (utf8 text) e.output
  o.withState { e with output := o.state }

def separate (sink : Sink σ) : Action (Emitter σ) Unit := fun e =>
  if e.blocks = 0 then ⟨.ok (), [], e⟩ else writeText sink "\n" e

def count : Action (Emitter σ) Unit := fun e => ⟨.ok (), [], { e with blocks := e.blocks + 1 }⟩

/-- One block. It counts once its last byte is accepted. -/
def block (sink : Sink σ) (text : String) : Action (Emitter σ) Unit := do
  separate sink
  writeText sink (blockBody text)
  writeText sink "\n"
  count

def allBlocks (sink : Sink σ) : List String → Action (Emitter σ) Unit
  | [] => pure ()
  | text :: rest => do
    block sink text
    allBlocks sink rest

def flush (sink : Sink σ) : Action (Emitter σ) Unit := fun e =>
  let (answer, output) := sink.flush e.output
  ⟨answer.mapError fun m => .output (.refused m), [.flush], { e with output }⟩

def document (sink : Sink σ) (d : Document) : Action (Emitter σ) Unit := do
  allBlocks sink d.blocks
  flush sink

end Emitter
end SchemaTypes
