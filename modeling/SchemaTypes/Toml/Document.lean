import SchemaTypes.Toml.Date
import SchemaTypes.Toml.Quoted

/-! TOML documents: values, keys, and the lines that fill the tables. A document is read as a whole
or not at all. -/
namespace SchemaTypes.Toml

def scalar (s : List Char) : Option (Item × List Char) :=
  match s with
  | '"' :: _ | '\'' :: _ => (anyString s).map fun (text, rest) => (.string text, rest)
  | 't' :: 'r' :: 'u' :: 'e' :: rest => some (.boolean true, rest)
  | 'f' :: 'a' :: 'l' :: 's' :: 'e' :: rest => some (.boolean false, rest)
  | s => dateTime s <|> float s <|> integer s

/-- The rest of an array. A comma may follow the last item. -/
def elements (read : Reader Item) : Nat → List Char → Option (List Item × List Char)
  | 0, _ => none
  | fuel + 1, s =>
    match skipLines false s with
    | ']' :: rest => some ([], rest)
    | s => do
      let (item, s) ← read s
      match skipLines false s with
      | ',' :: rest =>
        let (items, rest) ← elements read fuel rest
        return (item :: items, rest)
      | ']' :: rest => return ([item], rest)
      | _ => none

def bareKey (s : List Char) : Option (String × List Char) :=
  match s.takeWhile isBareKeyChar with
  | [] => none
  | name => some (String.ofList name, s.dropWhile isBareKeyChar)

def simpleKey (s : List Char) : Option (String × List Char) :=
  match s with
  | '"' :: _ | '\'' :: _ => quotedString s
  | _ => bareKey s

/-- The parts of a key between its dots, with spaces around each. -/
def keyParts : Nat → Reader (List String)
  | 0, _ => none
  | fuel + 1, s => do
    let (name, s) ← simpleKey (skipSpaces s)
    match skipSpaces s with
    | '.' :: rest =>
      let (names, rest) ← keyParts fuel rest
      return (name :: names, rest)
    | rest => return ([name], rest)

/-- Nesting ends below this depth, of keys as of values. -/
def depthLimit : Nat := 80

def key (s : List Char) : Option ((List String × String) × List Char) := do
  let (names, rest) ← keyParts (depthLimit - 1) s
  return ((names.dropLast, ← names.getLast?), rest)

/-- The rest of a table in braces, after its first brace or a comma. -/
def bracedPairs (read : Reader Item) : Nat → Entries → List Char → Option (Entries × List Char)
  | 0, _, _ => none
  | fuel + 1, entries, s => do
    let ((path, name), s) ← key s
    let (item, s) ← read (skipSpaces (← char '=' s))
    let entries ← entries.addPair path name item
    match skipSpaces s with
    | ',' :: rest => bracedPairs read fuel entries rest
    | '}' :: rest => return (entries, rest)
    | _ => none

/-- A value with at most `depth` arrays and tables around its innermost scalars. -/
def value : Nat → Reader Item
  | 0, s => scalar s
  | depth + 1, s =>
    match s with
    | '[' :: rest =>
      (elements (value depth) (rest.length + 1) rest).map fun (items, rest) => (.array items, rest)
    | '{' :: rest =>
      match skipSpaces rest with
      | '}' :: rest => some (.braces [], rest)
      | _ =>
        (bracedPairs (value depth) (rest.length + 1) [] rest).map fun (entries, rest) =>
          (.braces entries, rest)
    | s => scalar s

def lines : Nat → List String → Entries → List Char → Option Entries
  | 0, _, _, _ => none
  | fuel + 1, header, root, s =>
    if skipSpaces s = [] then some root
    else
      match endLine s with
      | some rest => lines fuel header root rest
      | none =>
        match skipSpaces s with
        | '[' :: '[' :: rest => do
          let ((path, name), rest) ← key rest
          let rest ← endLine (← char ']' (← char ']' rest))
          lines fuel (path ++ [name]) (← root.openRepeated path name) rest
        | '[' :: rest => do
          let ((path, name), rest) ← key rest
          let rest ← endLine (← char ']' rest)
          lines fuel (path ++ [name]) (← root.openTable path name) rest
        | s => do
          let ((path, name), s) ← key s
          let (item, s) ← value (depthLimit - 1) (skipSpaces (← char '=' s))
          let rest ← endLine s
          lines fuel header (← root.addUnder header path name item) rest

/-- The entries of a document, after a byte order mark if there is one. -/
def parse (document : String) : Option Entries :=
  let s := match document.toList with
    | '\uFEFF' :: rest => rest
    | s => s
  lines (s.length + 1) [] [] s

end SchemaTypes.Toml
