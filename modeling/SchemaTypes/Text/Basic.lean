/-! Text as bytes and as characters. Output is written, and override keys are ordered, by the UTF-8
encoding. Sets of characters are given as runs of code points with a step, so that scripts which
alternate capital and small letters stay short in the tables; blanks are the first such set. -/
namespace SchemaTypes

abbrev Bytes := List UInt8

def utf8 (s : String) : Bytes := s.toUTF8.data.toList

def decodeUtf8 (bytes : Bytes) : Option String := String.fromUTF8? ⟨bytes.toArray⟩

theorem utf8_injective {a b : String} (h : utf8 a = utf8 b) : a = b :=
  String.toByteArray_inj.1 (ByteArray.ext (Array.toList_inj.1 h))

@[simp] theorem utf8_append (a b : String) : utf8 (a ++ b) = utf8 a ++ utf8 b := by simp [utf8]

namespace Text

/-- The code points `first`, `first + step`, … up to `last`. -/
structure CodeRange where
  first : Nat
  last : Nat
  step : Nat
  deriving DecidableEq, Repr

namespace CodeRange

def contains (r : CodeRange) (code : Nat) : Bool :=
  r.first ≤ code && code ≤ r.last && (code - r.first) % r.step == 0

def anyContains (runs : List CodeRange) (code : Nat) : Bool := runs.any (·.contains code)

end CodeRange

/-- The white space of Unicode: 25 characters, of which six are ASCII. -/
def blankRanges : List CodeRange := [
  ⟨0x09, 0x0D, 1⟩, ⟨0x20, 0x20, 1⟩, ⟨0x85, 0x85, 1⟩, ⟨0xA0, 0xA0, 1⟩, ⟨0x1680, 0x1680, 1⟩,
  ⟨0x2000, 0x200A, 1⟩, ⟨0x2028, 0x2029, 1⟩, ⟨0x202F, 0x202F, 1⟩, ⟨0x205F, 0x205F, 1⟩,
  ⟨0x3000, 0x3000, 1⟩]

def isBlank (c : Char) : Bool := CodeRange.anyContains blankRanges c.toNat

/-- The list without its longest end whose members all satisfy `p`. -/
def dropTrailing (p : α → Bool) (l : List α) : List α := (l.reverse.dropWhile p).reverse

def trimChars (l : List Char) : List Char := dropTrailing isBlank (l.dropWhile isBlank)

def trim (s : String) : String := String.ofList (trimChars s.toList)

end Text
end SchemaTypes
