import ProtoCrud.Files.Path

/-!
# Trees of files

A tree holds the files and directories below one directory, each by the names that lead to it.
Paths are walked part by part: every part but the last must lead to a directory. What lies outside
of the tree is not known; it cannot be read, and what is written there leaves the tree as it is.
-/

namespace ProtoCrud.Files

/-- The names that lead from the directory of a tree to a file or directory. -/
abbrev Location := List String

/-- What is found at a location. -/
inductive Node (α : Type) where
  | directory
  | file (content : α)

/-- Whether a location comes before another or is the same; outer names count first. -/
def Location.isBefore : Location → Location → Bool
  | [], _ => true
  | _ :: _, [] => false
  | a :: as, b :: bs => if a = b then Location.isBefore as bs else a < b

/-- The files and directories below one directory. -/
structure Tree (α : Type) where
  nodes : List (Location × Node α)

/-- Where a path leads to. -/
inductive Place where
  | inside (location : Location)
  | outside
  deriving DecidableEq

namespace Tree

variable {α : Type}

/-- The tree without any file. -/
def empty : Tree α := ⟨[]⟩

def node? (tree : Tree α) : Location → Option (Node α)
  | [] => some .directory
  | location => tree.nodes.lookup location

def put (tree : Tree α) (location : Location) (node : Node α) : Tree α :=
  ⟨(location, node) :: tree.nodes.filter (·.1 ≠ location)⟩

def isDirectory (tree : Tree α) : Place → Bool
  | .outside => true
  | .inside location =>
    match tree.node? location with
    | some .directory => true
    | _ => false

/-- The place that a part of a path leads to from a directory. -/
def step (place : Place) (part : List Char) : Place :=
  if part = [] ∨ part = ['.'] then place
  else match place with
    | .outside => .outside
    | .inside location =>
      if part = ['.', '.'] then
        if location = [] then .outside else .inside location.dropLast
      else .inside (location ++ [String.ofList part])

/-- The place that parts of a path lead to, if all they lead through are directories. -/
def walk? (tree : Tree α) (place : Place) : List (List Char) → Option Place
  | [] => some place
  | part :: rest => if tree.isDirectory place then tree.walk? (step place part) rest else none

/-- The place at which the walk of a path begins. -/
def start (path : String) : Place :=
  if isAbsolute path then .outside else .inside []

/-- The content of the file that a path leads to. -/
def read? (tree : Tree α) (path : String) : Option α :=
  match tree.walk? (start path) (parts path) with
  | some (.inside location) =>
    match tree.node? location with
    | some (.file content) => some content
    | _ => none
  | _ => none

def makeAlong? (tree : Tree α) (place : Place) : List (List Char) → Option (Tree α)
  | [] => some tree
  | part :: rest =>
    match step place part with
    | .outside => tree.makeAlong? .outside rest
    | .inside location =>
      match tree.node? location with
      | some .directory => tree.makeAlong? (.inside location) rest
      | some (.file _) => none
      | none => (tree.put location .directory).makeAlong? (.inside location) rest

/-- Makes the directories on a path; `none` if a file is in the way. -/
def makeDirectories? (tree : Tree α) (path : String) : Option (Tree α) :=
  tree.makeAlong? (start path) (parts path)

/-- Writes a file into an existing directory; `none` if that is not possible. -/
def write? (tree : Tree α) (path : String) (content : α) : Option (Tree α) :=
  match tree.walk? (start path) (parts path) with
  | some (.inside location) =>
    if tree.isDirectory (.inside location) then none else some (tree.put location (.file content))
  | some .outside => some tree
  | none => none

/-- The tree with a file and the directories on the way to it, if nothing is in the way. -/
def withFile (tree : Tree α) (path : String) (content : α) : Tree α :=
  (do (← tree.makeDirectories? (directoryOf path)).write? path content).getD tree

def files (tree : Tree α) : List (Location × α) :=
  let files := tree.nodes.filterMap fun
    | (location, .file content) => some (location, content)
    | _ => none
  files.mergeSort fun a b ↦ a.1.isBefore b.1

end Tree

end ProtoCrud.Files
