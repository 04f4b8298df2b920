import SchemaTypes.Toml.Reader

/-! TOML strings. Between double quotes a backslash starts an escape, between single quotes nothing
does; three quotes on either side let a string go over several lines. -/
namespace SchemaTypes.Toml

/-- The character with a code in hexadecimal digits; surrogates are no characters. -/
def codePoint? (digits : List Char) : Option Char := do
  let code ← digits.foldlM (fun code digit => (hexValue? digit).map (code * 16 + ·)) 0
  if h : code.isValidChar then some (Char.ofNatAux code h) else none

def simpleEscape? : Char → Option Char
  | 'b' => some '\x08'
  | 't' => some '\t'
  | 'n' => some '\n'
  | 'f' => some '\x0C'
  | 'r' => some '\r'
  | '"' => some '"'
  | '\\' => some '\\'
  | _ => none

def prepend (c : Char) (read : Option (List Char × List Char)) :
    Option (List Char × List Char) :=
  read.map fun (text, rest) => (c :: text, rest)

def basicBody : Reader (List Char)
  | [] => none
  | '"' :: rest => some ([], rest)
  | '\\' :: 'u' :: a :: b :: c :: d :: rest => do
    prepend (← codePoint? [a, b, c, d]) (basicBody rest)
  | '\\' :: 'U' :: a :: b :: c :: d :: e :: f :: g :: h :: rest => do
    prepend (← codePoint? [a, b, c, d, e, f, g, h]) (basicBody rest)
  | '\\' :: c :: rest => do prepend (← simpleEscape? c) (basicBody rest)
  | c :: rest => if isPlain c then prepend c (basicBody rest) else none

/-- Whether a backslash stands at the end of its line. -/
def endsLine (s : List Char) : Bool := (lineBreak? (skipSpaces s)).isSome

/-- The rest of a string in three double quotes. A backslash at the end of a line drops all white
space after it, and that is what `dropping` goes on with. Up to two quotes may stand before the
closing three. -/
def multilineBody : Bool → Reader (List Char)
  | _, [] => none
  | true, ' ' :: rest => multilineBody true rest
  | true, '\t' :: rest => multilineBody true rest
  | true, '\n' :: rest => multilineBody true rest
  | true, '\r' :: '\n' :: rest => multilineBody true rest
  | _, '"' :: '"' :: '"' :: '"' :: '"' :: rest => some (['"', '"'], rest)
  | _, '"' :: '"' :: '"' :: '"' :: rest => some (['"'], rest)
  | _, '"' :: '"' :: '"' :: rest => some ([], rest)
  | _, '\n' :: rest => prepend '\n' (multilineBody false rest)
  | _, '\r' :: '\n' :: rest => prepend '\n' (multilineBody false rest)
  | _, '\\' :: 'u' :: a :: b :: c :: d :: rest => do
    prepend (← codePoint? [a, b, c, d]) (multilineBody false rest)
  | _, '\\' :: 'U' :: a :: b :: c :: d :: e :: f :: g :: h :: rest => do
    prepend (← codePoint? [a, b, c, d, e, f, g, h]) (multilineBody false rest)
  | _, '\\' :: c :: rest =>
    if endsLine (c :: rest) then multilineBody true (c :: rest)
    else do prepend (← simpleEscape? c) (multilineBody false rest)
  | _, c :: rest => if isPlain c then prepend c (multilineBody false rest) else none

def literalBody : Reader (List Char)
  | [] => none
  | '\'' :: rest => some ([], rest)
  | c :: rest => if isPlain c then prepend c (literalBody rest) else none

/-- The rest of a string in three single quotes. -/
def multilineLiteralBody : Reader (List Char)
  | [] => none
  | '\'' :: '\'' :: '\'' :: '\'' :: '\'' :: rest => some (['\'', '\''], rest)
  | '\'' :: '\'' :: '\'' :: '\'' :: rest => some (['\''], rest)
  | '\'' :: '\'' :: '\'' :: rest => some ([], rest)
  | '\n' :: rest => prepend '\n' (multilineLiteralBody rest)
  | '\r' :: '\n' :: rest => prepend '\n' (multilineLiteralBody rest)
  | c :: rest => if isPlain c then prepend c (multilineLiteralBody rest) else none

/-- A line break right after three opening quotes is not part of the string. -/
def skipFirstBreak (s : List Char) : List Char := (lineBreak? s).getD s

def text (read : Option (List Char × List Char)) : Option (String × List Char) :=
  read.map fun (chars, rest) => (String.ofList chars, rest)

def quotedString : Reader String
  | '"' :: rest => text (basicBody rest)
  | '\'' :: rest => text (literalBody rest)
  | _ => none

def anyString : Reader String
  | '"' :: '"' :: '"' :: rest => text (multilineBody false (skipFirstBreak rest))
  | '\'' :: '\'' :: '\'' :: rest => text (multilineLiteralBody (skipFirstBreak rest))
  | s => quotedString s

end SchemaTypes.Toml
