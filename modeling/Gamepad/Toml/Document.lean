import Gamepad.Toml.DateTime
import Gamepad.Toml.Number
import Gamepad.Toml.Tree

/-! # TOML documents -/

namespace Gamepad.Toml

open Gamepad.Text Gamepad.Text.Parser

/-- How deep values and the parts of a key may nest. -/
def maxDepth : Nat := 79

def comment : Parser Unit := do
  let _ ← char '#'
  let _ ← takeWhile isPlain

def lineEnd : Parser Unit :=
  newline <|> finished

def lineRest : Parser Unit := do
  spaces
  let _ ← optional comment
  lineEnd

def gap : Parser Unit := do
  let _ ← many <|
    newline <|> (do let _ ← takeWhile1 isSpace) <|> (do comment; newline)

def isBareKey (c : Char) : Bool :=
  c.isAlphanum || c == '_' || c == '-'

def keyPart : Parser String :=
  basicString <|> literalString <|> (do return String.ofList (← takeWhile1 isBareKey))

/-- A dotted key: the parts before the last, and the last. -/
def key : Parser (List String × String) := do
  let parts ← separated1 (char '.') do
    spaces
    let part ← keyPart
    spaces
    return part
  require (parts.length ≤ maxDepth)
  match parts.getLast? with
  | some last => return (parts.dropLast, last)
  | none => failure

def boolean : Parser Bool :=
  (do exactly ['t', 'r', 'u', 'e']; return true) <|>
  (do exactly ['f', 'a', 'l', 's', 'e']; return false)

def scalar : Parser Value :=
  (do return .string (← string)) <|>
  (do return .boolean (← boolean)) <|>
  (do dateTime; return .dateTime) <|>
  (do float; return .float) <|>
  (do return .integer (← integer))

/-- An array of values; a comma may follow the last. -/
def arrayOf (value : Parser Value) : Parser Value := do
  let _ ← char '['
  let items ← optional do
    let items ← separated1 (char ',') do
      gap
      let v ← value
      gap
      return v
    let _ ← optional (char ',')
    return items
  gap
  let _ ← char ']'
  return .array (items.getD [])

def pair (value : Parser Value) : Parser (List String × String × Value) := do
  let (path, last) ← key
  let _ ← char '='
  spaces
  let v ← value
  return (path, last, v)

/-- A table on one line; no comma may follow the last pair. -/
def inlineTableOf (value : Parser Value) : Parser Value := do
  let _ ← char '\x7b'
  let pairs ← optional <| separated1 (char ',') do
    let p ← pair value
    spaces
    return p
  spaces
  let _ ← char '\x7d'
  match inlineTable (pairs.getD []) with
  | some v => return v
  | none => failure

def valueWithin : Nat → Parser Value
  | 0 => scalar
  | depth + 1 => scalar <|> arrayOf (valueWithin depth) <|> inlineTableOf (valueWithin depth)

def value : Parser Value :=
  valueWithin maxDepth

inductive Statement
  | entry (path : List String) (key : String) (v : Value)
  | table (path : List String) (key : String)
  | tables (path : List String) (key : String)
  deriving Repr

namespace Statement

def entryLine : Parser Statement := do
  let (path, last, v) ← pair value
  lineRest
  return .entry path last v

def tableLine : Parser Statement := do
  let _ ← char '['
  let (path, last) ← Toml.key
  let _ ← char ']'
  lineRest
  return .table path last

def tablesLine : Parser Statement := do
  exactly ['[', '[']
  let (path, last) ← Toml.key
  exactly [']', ']']
  lineRest
  return .tables path last

end Statement

def line : Parser (Option Statement) := do
  let statement ←
    (do comment; lineEnd; return none) <|>
    (do newline; return none) <|>
    (do return some (← Statement.tablesLine)) <|>
    (do return some (← Statement.tableLine)) <|>
    (do return some (← Statement.entryLine))
  spaces
  return statement

def statements : Parser (List Statement) := do
  let _ ← optional (char '\uFEFF')
  spaces
  let lines ← many line
  finished
  return lines.filterMap id

structure Document where
  header : List String := []
  tree : Tree := Tree.empty .header

namespace Document

def add (d : Document) : Statement → Option Document
  | .entry path key v =>
    (d.tree.within d.header fun t => t.insert path key v).map fun tree => { d with tree }
  | .table path key =>
    (d.tree.within path fun t => t.define key).map fun tree => ⟨path ++ [key], tree⟩
  | .tables path key =>
    (d.tree.within path fun t => t.append key).map fun tree => ⟨path ++ [key], tree⟩

def ofStatements (ss : List Statement) : Option Document :=
  ss.foldlM add {}

/-- The table that a text denotes. -/
def parse? (text : String) : Option Entries := do
  let ss ← parseAll statements text.toList
  let d ← ofStatements ss
  return d.tree.toEntries

end Document

end Gamepad.Toml
