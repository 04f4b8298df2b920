import SchemaTypes.Text.Alphanumeric
import SchemaTypes.Text.CaseMap
import SchemaTypes.Text.Letter

/-! Pascal case. A text is cut into words wherever a character is neither letter nor digit, between
a small letter and a capital, and before the last capital of a row of capitals that a small letter
follows (`HTTPServer` is `HTTP` and `Server`). Each word then starts with a capital and goes on in
small letters, and the words are joined without a separator. -/
namespace SchemaTypes.Text

/-- The case of the last letter read in a word; `neutral` before the first one. -/
inductive LetterCase
  | neutral
  | small
  | capital
  deriving DecidableEq, Repr

/-- A character that is neither small nor capital keeps the case of the word so far. -/
def LetterCase.after (case : LetterCase) (c : Char) : LetterCase :=
  if isLowercase c then .small else if isUppercase c then .capital else case

def extendFirst (c : Char) : List (List Char) → List (List Char)
  | [] => [[c]]
  | word :: words => (c :: word) :: words

/-- The words of a row of letters and digits that go on a word of the given case. The first item
is the rest of that word, and it is empty when a word starts at once. -/
def words (case : LetterCase) : List Char → List (List Char)
  | [] => []
  | [c] => [[c]]
  | c :: next :: rest =>
    if case.after c = .small && isUppercase next then
      [c] :: words .neutral (next :: rest)
    else if case = .capital && isUppercase c && isLowercase next then
      [] :: extendFirst c (words .neutral (next :: rest))
    else
      extendFirst c (words (case.after c) (next :: rest))

/-- Small letters, but for a capital sigma at the end, which becomes a final sigma. -/
def lowerTail : List Char → List Char
  | [] => []
  | ['Σ'] => ['ς']
  | c :: rest => toSmall c ++ lowerTail rest

def capitalize : List Char → List Char
  | [] => []
  | c :: rest => toCapital c ++ lowerTail rest

/-- Rows of letters and digits, in order; empty where two separators meet. -/
def pieces (s : List Char) : List (List Char) := s.splitOnP (!isAlphanumeric ·)

def pascalChars (s : List Char) : List Char :=
  (pieces s).flatMap fun piece => (words .neutral piece).flatMap capitalize

def pascalCase (s : String) : String := String.ofList (pascalChars s.toList)

/-- Pascal case of an enum label. Dots and hyphens separate words there, as everywhere. -/
def memberCase (label : String) : String :=
  pascalCase (label.map fun c => if c = '.' || c = '-' then '_' else c)

end SchemaTypes.Text
