import Gamepad.Files

/-!
# Directory trees

A path is followed one component at a time.  Every component but the last has to lead to a
directory, and so does one before a slash at the end.
-/

namespace Gamepad

inductive FileNode
  | file (bytes : ByteArray)
  | directory (entries : List (String × FileNode))

namespace FileNode

def emptyDirectory : FileNode :=
  directory []

def get? (entries : List (String × FileNode)) (name : String) : Option FileNode :=
  (entries.find? fun e => e.1 = name).map Prod.snd

def set (name : String) (node : FileNode) : List (String × FileNode) → List (String × FileNode)
  | [] => [(name, node)]
  | e :: es => if e.1 = name then (name, node) :: es else e :: set name node es

def alter (f : Option FileNode → FileNode) : List String → Option FileNode → FileNode
  | [], node => f node
  | name :: place, node =>
    match node.getD emptyDirectory with
    | file bytes => file bytes
    | directory entries => directory (set name (alter f place (get? entries name)) entries)

def makeDirectory (place : List String) (root : FileNode) : FileNode :=
  alter (·.getD emptyDirectory) place (some root)

def write (place : List String) (bytes : ByteArray) (root : FileNode) : FileNode :=
  alter (fun _ => file bytes) place (some root)

/-- Goes from a place through a list of names, making every directory on the way that is not there,
and answers with the place that is reached. -/
def makeWay (root : FileNode) (here : List String) : List String → FileNode × List String
  | [] => (root, here)
  | name :: rest =>
    if name = "." then makeWay root here rest
    else if name = ".." then makeWay root here.dropLast rest
    else
      let next := here ++ [name]
      makeWay (makeDirectory next root) next rest

def maxNameBytes : Nat := 255

/-- Follows names from a node; `above` are the directories above it, nearest first. -/
def follow (above : List FileNode) (node : FileNode) : List String → Except ReadFault FileNode
  | [] => .ok node
  | name :: rest =>
    match node with
    | file _ => .error .notDirectory
    | directory entries =>
      if name = "." then follow above node rest
      else if name = ".." then
        match above with
        | [] => follow [] node rest
        | parent :: above => follow above parent rest
      else if maxNameBytes < name.utf8ByteSize then .error .nameTooLong
      else
        match get? entries name with
        | none => .error .notFound
        | some child => follow (node :: above) child rest

end FileNode

/-- The parts of a path between its slashes; a slash at the end asks for a directory. -/
def pathComponents (path : String) : List String :=
  let parts := (path.splitOn "/").filter fun part => !part.isEmpty
  if path.endsWith "/" then parts ++ ["."] else parts

structure FileTree where
  root : FileNode := .emptyDirectory
  workingDirectory : List String := []

namespace FileTree

def maxPathBytes : Nat := 4096

def resolve (tree : FileTree) (path : String) : Except ReadFault FileNode :=
  if path.contains '\x00' then .error .nulInName
  else if path.isEmpty then .error .notFound
  else if maxPathBytes ≤ path.utf8ByteSize then .error .nameTooLong
  else
    let start := if isAbsolutePath path then [] else tree.workingDirectory
    tree.root.follow [] (start ++ pathComponents path)

def read (tree : FileTree) (path : String) : Except ReadFault ByteArray :=
  match tree.resolve path with
  | .error fault => .error fault
  | .ok (.directory _) => .error .isDirectory
  | .ok (.file bytes) => .ok bytes

def scratch (workingDirectory : String) : FileTree :=
  let place := pathComponents workingDirectory
  ⟨FileNode.makeDirectory place .emptyDirectory, place⟩

def makeDirectory (tree : FileTree) (path : String) : FileTree :=
  { tree with
    root := (tree.root.makeWay tree.workingDirectory (pathComponents path)).1 }

def writeFile (tree : FileTree) (path : String) (bytes : ByteArray) : FileTree :=
  let components := pathComponents path
  let (root, dir) := tree.root.makeWay tree.workingDirectory components.dropLast
  { tree with root := root.write (dir ++ components.getLast?.toList) bytes }

def access (tree : FileTree) : FileAccess Id where
  read := tree.read
  isPresent path := (tree.resolve path).isOk

end FileTree

end Gamepad
