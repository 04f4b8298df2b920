import SchemaTypes.Text.Basic

/-! Files below a working directory, as a value. Paths are texts with parts between slashes; empty
parts and `.` lead nowhere, `..` leads to the directory above, and from the working directory to
itself. -/
namespace SchemaTypes

/-- A place below the working directory, by the names on the way. -/
abbrev Place := List String

inductive Node
  | directory
  | file (content : Bytes)
  deriving DecidableEq, Repr

/-- Every node but the working directory, under its place. -/
structure FileTree where
  nodes : List (Place × Node) := []
  deriving DecidableEq, Repr, Inhabited

namespace FileTree

def node? (t : FileTree) (place : Place) : Option Node :=
  if place = [] then some .directory else t.nodes.lookup place

def isDirectory (t : FileTree) (place : Place) : Bool := t.node? place = some .directory

def put (t : FileTree) (place : Place) (node : Node) : FileTree :=
  ⟨(place, node) :: t.nodes.filter (·.1 ≠ place)⟩

/-- Names that a file can have: not longer than 255 bytes, and without NUL. -/
def isName (name : String) : Bool := (utf8 name).length ≤ 255 && !name.toList.contains '\x00'

/-- Paths that lead anywhere are shorter than 4096 bytes. -/
def isPath (path : String) : Bool := (utf8 path).length < 4096

def parts (path : String) : List String :=
  ((path.toList.splitOn '/').map String.ofList).filter fun part => part ≠ "" && part ≠ "."

/-- Whether the end of a path says that it leads to a directory. -/
def endsInDirectory (path : String) : Bool :=
  match (path.toList.splitOn '/').getLast? with
  | some last => last ∈ [[], ['.'], ['.', '.']]
  | none => true

def step (place : Place) (part : String) : Place :=
  if part = ".." then place.dropLast else place ++ [part]

/-- The directory that parts lead to, if each of them leads to one. -/
def walk (t : FileTree) (place : Place) : List String → Option Place
  | [] => some place
  | part :: rest =>
    let next := step place part
    if isName part && t.isDirectory next then t.walk next rest else none

/-- The place that a path leads to, when all directories on the way are there. -/
def locate (t : FileTree) (path : String) : Option Place :=
  match (parts path).getLast? with
  | none => if isPath path && path ≠ "" then some [] else none
  | some last =>
    if isPath path && isName last then (t.walk [] (parts path).dropLast).map (step · last)
    else none

def contains (t : FileTree) (path : String) : Bool :=
  match t.locate path with
  | none => false
  | some place =>
    match t.node? place with
    | none => false
    | some .directory => true
    | some (.file _) => !endsInDirectory path

def read (t : FileTree) (path : String) : Option Bytes :=
  if endsInDirectory path then none
  else
    match (t.locate path).bind t.node? with
    | some (.file content) => some content
    | _ => none

def readText (t : FileTree) (path : String) : Option String := (t.read path).bind decodeUtf8

/-- Makes the directories that parts lead to, as far as no file stands in the way. -/
def makeDirectories (t : FileTree) (place : Place) : List String → FileTree × Bool
  | [] => (t, true)
  | part :: rest =>
    let next := step place part
    if !isName part then (t, false)
    else
      match t.node? next with
      | some .directory => t.makeDirectories next rest
      | some (.file _) => (t, false)
      | none => (t.put next .directory).makeDirectories next rest

/-- Makes an empty file and the directories above it, or cuts the file that is there. The place is
`none` when that fails, and directories made until then stay. -/
def create (t : FileTree) (path : String) : FileTree × Option Place :=
  match t.makeDirectories [] (parts path).dropLast with
  | (t, false) => (t, none)
  | (t, true) =>
    if endsInDirectory path then (t, none)
    else
      match t.locate path with
      | none => (t, none)
      | some place =>
        if t.isDirectory place then (t, none) else (t.put place (.file []), some place)

def ofFiles (files : List (String × String)) : FileTree :=
  files.foldl (fun t (path, content) =>
    match t.create path with
    | (t, some place) => t.put place (.file (utf8 content))
    | (t, none) => t) {}

end FileTree
end SchemaTypes
