import Gamepad.Toml.Value

/-!
# How a TOML document grows

Every table remembers how it came into being, which decides what may still be added to it.  Dotted
keys extend only tables made by dotted keys.
-/

namespace Gamepad.Toml

inductive Origin
  /-- The document itself, an inline table, or a table with a header of its own. -/
  | header
  /-- A table named on the way to another header. -/
  | path
  /-- A table named on the way to the last part of a dotted key. -/
  | dotted
  deriving DecidableEq, Repr

mutual

inductive Node
  | value (v : Value)
  | table (t : Tree)
  | tables (earlier : List Tree) (latest : Tree)

inductive Tree
  | mk (origin : Origin) (entries : List (String × Node))

end

namespace Tree

def origin : Tree → Origin
  | mk origin _ => origin

def entries : Tree → List (String × Node)
  | mk _ entries => entries

def empty (origin : Origin) : Tree :=
  mk origin []

def get? (t : Tree) (key : String) : Option Node :=
  (t.entries.find? fun e => e.1 = key).map Prod.snd

def replace (key : String) (node : Node) : List (String × Node) → List (String × Node)
  | [] => [(key, node)]
  | e :: es => if e.1 = key then (key, node) :: es else e :: replace key node es

def set (t : Tree) (key : String) (node : Node) : Tree :=
  mk t.origin (replace key node t.entries)

def insert (path : List String) (key : String) (v : Value) (t : Tree) : Option Tree :=
  match path with
  | [] =>
    match t.get? key with
    | some _ => none
    | none => some (t.set key (.value v))
  | step :: path =>
    match t.get? step with
    | none => (insert path key v (empty .dotted)).map fun child => t.set step (.table child)
    | some (.value _) => none
    | some (.table child) =>
      if child.origin = .dotted ∨ (child.origin = .path ∧ path ≠ []) then
        (insert path key v child).map fun child => t.set step (.table child)
      else none
    | some (.tables earlier latest) =>
      if path = [] then none
      else (insert path key v latest).map fun latest => t.set step (.tables earlier latest)

/-- Changes the table that a header names, making the tables on the way that are not there. -/
def within (path : List String) (f : Tree → Option Tree) (t : Tree) : Option Tree :=
  match path with
  | [] => f t
  | step :: path =>
    match t.get? step with
    | none => (within path f (empty .path)).map fun child => t.set step (.table child)
    | some (.value _) => none
    | some (.table child) => (within path f child).map fun child => t.set step (.table child)
    | some (.tables earlier latest) =>
      (within path f latest).map fun latest => t.set step (.tables earlier latest)

/-- Defines a table by a header; it may have been named on the way to another header before. -/
def define (key : String) (t : Tree) : Option Tree :=
  match t.get? key with
  | none => some (t.set key (.table (empty .header)))
  | some (.table (mk .path entries)) => some (t.set key (.table (mk .header entries)))
  | some _ => none

def append (key : String) (t : Tree) : Option Tree :=
  match t.get? key with
  | none => some (t.set key (.tables [] (empty .header)))
  | some (.tables earlier latest) =>
    some (t.set key (.tables (earlier ++ [latest]) (empty .header)))
  | some _ => none

end Tree

mutual

def Node.toValue : Node → Value
  | .value v => v
  | .table t => .table t.toEntries
  | .tables earlier latest => .array (treesToValues earlier ++ [.table latest.toEntries])

def Tree.toEntries : Tree → Entries
  | .mk _ entries => nodesToEntries entries

def nodesToEntries : List (String × Node) → Entries
  | [] => []
  | (key, node) :: rest => (key, node.toValue) :: nodesToEntries rest

def treesToValues : List Tree → List Value
  | [] => []
  | t :: rest => .table t.toEntries :: treesToValues rest

end

def inlineTable (pairs : List (List String × String × Value)) : Option Value :=
  (pairs.foldlM (fun (t : Tree) p => t.insert p.1 p.2.1 p.2.2) (Tree.empty .header)).map
    fun t => .table t.toEntries

end Gamepad.Toml
