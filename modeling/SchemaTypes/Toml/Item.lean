/-! The items of a TOML document and how tables grow. A table is written once: by a header, inside
braces, or piecemeal by dotted keys. A table that only the header of an inner table mentions may
still get a header of its own. -/
namespace SchemaTypes.Toml

/-- How a table came about. -/
inductive TableKind
  /-- Written under its own header, or in braces. -/
  | written
  /-- Mentioned by the header of a table inside it. -/
  | implied
  /-- Opened by a dotted key. -/
  | dotted
  deriving DecidableEq, Repr

/-- Entries keep the order of the document. `tables` are the tables of repeated headers `[[key]]`,
and `braces` is a table in braces, which nothing adds to. A date keeps its text. -/
inductive Item
  | string (text : String)
  | integer (value : Int)
  | float (value : Float)
  | boolean (value : Bool)
  | date (text : String)
  | array (items : List Item)
  | braces (entries : List (String × Item))
  | table (kind : TableKind) (entries : List (String × Item))
  | tables (items : List (List (String × Item)))
  deriving Inhabited

abbrev Entries := List (String × Item)

namespace Entries

def replace (entries : Entries) (key : String) (item : Item) : Entries :=
  entries.map fun (k, old) => if k = key then (k, item) else (k, old)

def remove (entries : Entries) (key : String) : Entries := entries.filter (·.1 ≠ key)

def append (entries : Entries) (key : String) (item : Item) : Entries := entries ++ [(key, item)]

/-- A table with the kind that tells whether keys may be added to it. -/
structure Draft where
  kind : TableKind
  entries : Entries

/-- Changes the table that a path leads to, and opens the missing tables on the way, as `opened`.
Dotted keys do not go through tables that are written elsewhere; of repeated tables the last is
meant. -/
def changeAt (opened : TableKind) (change : Draft → Option Entries) :
    List String → Draft → Option Entries
  | [], draft => change draft
  | key :: path, draft => do
    match draft.entries.lookup key with
    | none =>
      let inner ← changeAt opened change path ⟨opened, []⟩
      return append draft.entries key (.table opened inner)
    | some (.table kind inner) =>
      if opened = .dotted && kind = .written then none
      else
        let inner ← changeAt opened change path ⟨kind, inner⟩
        return replace draft.entries key (.table kind inner)
    | some (.tables items) =>
      let last ← items.getLast?
      let inner ← changeAt opened change path ⟨.written, last⟩
      return replace draft.entries key (.tables (items.dropLast ++ [inner]))
    | some _ => none

/-- Adds a pair under a dotted key. All but the last part of the key lead to tables that dotted
keys opened. -/
def addPair (entries : Entries) (path : List String) (key : String) (item : Item) :
    Option Entries :=
  changeAt .dotted (fun inner =>
    if path ≠ [] && inner.kind ≠ .dotted then none
    else if (inner.entries.lookup key).isSome then none
    else some (append inner.entries key item)) path ⟨.written, entries⟩

def addUnder (root : Entries) (header path : List String) (key : String) (item : Item) :
    Option Entries :=
  changeAt .implied (fun table => addPair table.entries path key item) header ⟨.written, root⟩

def openTable (root : Entries) (path : List String) (key : String) : Option Entries :=
  changeAt .implied (fun outer =>
    match outer.entries.lookup key with
    | none => some (append outer.entries key (.table .written []))
    | some (.table .implied inner) =>
      some (append (remove outer.entries key) key (.table .written inner))
    | some _ => none) path ⟨.written, root⟩

def openRepeated (root : Entries) (path : List String) (key : String) : Option Entries :=
  changeAt .implied (fun outer =>
    match outer.entries.lookup key with
    | none => some (append outer.entries key (.tables [[]]))
    | some (.tables items) => some (replace outer.entries key (.tables (items ++ [[]])))
    | some _ => none) path ⟨.written, root⟩

end Entries
end SchemaTypes.Toml
