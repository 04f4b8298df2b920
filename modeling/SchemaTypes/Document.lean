import SchemaTypes.Text.Basic
import SchemaTypes.Text.Quoted

/-! The generated declarations and their text. A document is written as blocks: the banner, the text
put in front, one block per enum, the tables, and the text put behind. Blocks are one blank line
apart, whatever line breaks they end in. -/
namespace SchemaTypes

structure EnumMember where
  name : String
  value : String
  deriving DecidableEq, Repr

structure EnumDecl where
  name : String
  members : List EnumMember
  deriving DecidableEq, Repr

structure FieldDecl where
  name : String
  expr : String
  deriving DecidableEq, Repr

/-- The record type of one table, and the text that names the table at run time. -/
structure TableDecl where
  typeName : String
  runtime : String
  fields : List FieldDecl
  deriving DecidableEq, Repr

structure Document where
  prefixText : Option String
  enums : List EnumDecl
  tablesEnumName : String
  tablesTypeName : String
  emitTableMap : Bool
  tables : List TableDecl
  suffixText : Option String
  deriving DecidableEq, Repr

/-- Lines between an opening line and a closing one, as every declaration is written. -/
def braced (opening closing : String) (lines : List String) : String :=
  opening ++ " \x7b\n" ++ String.join (lines.map fun line => "  " ++ line ++ "\n") ++
    "\x7d" ++ closing ++ "\n"

def EnumDecl.render (d : EnumDecl) : String :=
  braced ("export enum " ++ d.name) "" (d.members.map fun m =>
    m.name ++ " = " ++ Text.quote m.value ++ ",")

def TableDecl.render (d : TableDecl) : String :=
  braced ("export type " ++ d.typeName ++ " =") ";" (d.fields.map fun f =>
    Text.propertyKey f.name ++ ": " ++ f.expr ++ ";")

def renderRegistry (name : String) (tables : List TableDecl) : String :=
  braced ("export enum " ++ name) "" (tables.map fun t =>
    t.typeName ++ " = " ++ Text.quote t.runtime ++ ",")

def renderTableMap (name : String) (tables : List TableDecl) : String :=
  braced ("export type " ++ name ++ " =") ";" (tables.map fun t =>
    Text.quote t.runtime ++ ": " ++ t.typeName ++ ";")

def banner : String :=
  "// This file was generated by pgtyper. Do not edit it by hand.\n" ++
  "// Regenerate it from the database schema instead.\n"

def isLineBreak (c : Char) : Bool := c = '\n' || c = '\r'

def blockBody (text : String) : String :=
  String.ofList (Text.dropTrailing isLineBreak text.toList)

namespace Document

/-- An absent text and an empty one write no block. -/
def userBlock (text : Option String) : List String := (text.filter (· ≠ "")).toList

def tableBlocks (d : Document) : List String :=
  if d.tables.isEmpty then []
  else
    renderRegistry d.tablesEnumName d.tables ::
      (if d.emitTableMap then [renderTableMap d.tablesTypeName d.tables] else []) ++
      d.tables.map TableDecl.render

def blocks (d : Document) : List String :=
  banner :: userBlock d.prefixText ++ d.enums.map EnumDecl.render ++ d.tableBlocks ++
    userBlock d.suffixText

/-- The whole text: block bodies, each ended by a line break, with a blank line between two. -/
def text (d : Document) : String :=
  "\n".intercalate (d.blocks.map fun block => blockBody block ++ "\n")

end Document
end SchemaTypes
