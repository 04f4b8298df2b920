/-! Names and strings as the generated declarations spell them: bare identifiers and single-quoted
literals. A literal escapes the backslash, the quote and the two line breaks, so it stays on one
line and ends at its first quote that no backslash precedes. -/
namespace SchemaTypes.Text

def isIdentifierStart (c : Char) : Bool := c.isAlpha || c = '_' || c = '$'

def isIdentifierPart (c : Char) : Bool := c.isAlphanum || c = '_' || c = '$'

/-- ASCII letters, digits, `_` and `$`, and no digit first. -/
def isIdentifierChars : List Char → Bool
  | [] => false
  | c :: rest => isIdentifierStart c && rest.all isIdentifierPart

def isIdentifier (name : String) : Bool := isIdentifierChars name.toList

def escapeChar (c : Char) : List Char :=
  if c = '\\' then ['\\', '\\']
  else if c = '\'' then ['\\', '\'']
  else if c = '\n' then ['\\', 'n']
  else if c = '\r' then ['\\', 'r']
  else [c]

def quoteChars (s : List Char) : List Char := '\'' :: s.flatMap escapeChar ++ ['\'']

def quote (s : String) : String := String.ofList (quoteChars s.toList)

def propertyKey (name : String) : String := if isIdentifier name then name else quote name

def unescapeChar (c : Char) : Option Char :=
  if c = '\\' || c = '\'' then some c
  else if c = 'n' then some '\n'
  else if c = 'r' then some '\r'
  else none

/-- What a literal holds and what follows it, from just after its opening quote. -/
def readLiteralBody : List Char → Option (List Char × List Char)
  | [] => none
  | '\'' :: rest => some ([], rest)
  | '\\' :: c :: rest =>
    match unescapeChar c, readLiteralBody rest with
    | some d, some (body, rest) => some (d :: body, rest)
    | _, _ => none
  | c :: rest =>
    if c = '\\' then none else (readLiteralBody rest).map fun (body, rest) => (c :: body, rest)

def readLiteral : List Char → Option (List Char × List Char)
  | '\'' :: rest => readLiteralBody rest
  | _ => none

/-- A property key and what follows it: a literal, or the longest bare identifier. -/
def readKey (s : List Char) : Option (List Char × List Char) :=
  match readLiteral s with
  | some result => some result
  | none =>
    let name := s.takeWhile isIdentifierPart
    if isIdentifierChars name then some (name, s.dropWhile isIdentifierPart) else none

end SchemaTypes.Text
