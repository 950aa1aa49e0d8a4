import SchedulerLink.Bytes
import SchedulerLink.File.Fault
import SchedulerLink.Text.Blank

/-!
A tree of files, as an ordinary value.

A tree lists its files and directories by their paths from the root. Everything above what it lists
is a directory, and `FileTree.put` sees to it that the directories above a file are listed.
-/

namespace SchedulerLink

/-- What is found at a path. -/
inductive FileNode where
  | file (contents : Bytes)
  | directory
  deriving DecidableEq, Repr

structure FileTree where
  nodes : List (List String × FileNode) := []
  deriving Repr

inductive FileChange where
  | write (path : String) (contents : Bytes)
  | makeDirectory (path : String)
  | remove (path : String)
  deriving Repr

namespace FileTree

def names (path : String) : List String :=
  let parts := (Text.splitAt (· = '/') path.toList).map String.ofList
  parts.foldl (fun held part =>
    if part = "" ∨ part = "." then held
    else if part = ".." then held.dropLast
    else held ++ [part]) []

def ancestors : List String → List (List String)
  | [] => []
  | name :: rest => [] :: (ancestors rest).map (name :: ·)

def listed (tree : FileTree) (names : List String) : Option FileNode :=
  if names.isEmpty then some .directory else tree.nodes.lookup names

def longestName : Nat := 255

/-- What is wrong with a path, whatever the tree. -/
def pathFault (path : String) : Option FileFault :=
  if path.isEmpty then some .notFound
  else if path.contains '\x00' then some .nul
  else if ((Text.splitAt (· = '/') path.toList).map String.ofList).any fun name =>
      longestName < name.utf8ByteSize then some .nameTooLong
  else none

def walk (tree : FileTree) (place : List String) : List String → Except FileFault (List String)
  | [] => .ok place
  | part :: rest =>
    match tree.listed place with
    | none => .error .notFound
    | some (.file _) => .error .notDirectory
    | some .directory =>
      if part = "" ∨ part = "." then walk tree place rest
      else if part = ".." then walk tree place.dropLast rest
      else walk tree (place ++ [part]) rest

/-- The place that a path leads to and what is there. -/
def find (tree : FileTree) (path : String) : Except FileFault (List String × FileNode) :=
  match pathFault path with
  | some fault => .error fault
  | none => do
    let place ← tree.walk [] ((Text.splitAt (· = '/') path.toList).map String.ofList)
    match tree.listed place with
    | some node => pure (place, node)
    | none => throw .notFound

def read (tree : FileTree) (path : String) : Except FileFault Bytes :=
  match tree.find path with
  | .error fault => .error fault
  | .ok (_, .directory) => .error .isDirectory
  | .ok (_, .file contents) => .ok contents

def readText (tree : FileTree) (path : String) : Except FileFault String := do
  match Bytes.toString? (← tree.read path) with
  | some text => pure text
  | none => throw .notText

def list (tree : FileTree) (path : String) : Except FileFault (List String) :=
  match tree.find path with
  | .error fault => .error fault
  | .ok (_, .file _) => .error .notDirectory
  | .ok (above, .directory) =>
    .ok (tree.nodes.filterMap fun (names, _) =>
      if names.dropLast = above then names.getLast? else none)

def place (tree : FileTree) (names : List String) (node : FileNode) : FileTree :=
  ⟨tree.nodes.filter (·.1 ≠ names) ++ [(names, node)]⟩

def placeAbove (tree : FileTree) (names : List String) : FileTree :=
  (ancestors names).foldl (fun held above =>
    if (held.listed above).isSome then held else held.place above .directory) tree

def apply (tree : FileTree) : FileChange → FileTree
  | .write path contents => (tree.placeAbove (names path)).place (names path) (.file contents)
  | .makeDirectory path => (tree.placeAbove (names path)).place (names path) .directory
  | .remove path => ⟨tree.nodes.filter fun (listed, _) => !(names path).isPrefixOf listed⟩

def append (tree : FileTree) (path text : String) : Except FileFault FileTree :=
  let names := names path
  let isFile (place : List String) : Bool := (tree.listed place).any (· ≠ .directory)
  if (ancestors names.dropLast).any isFile then .error .notDirectory
  else if isFile names.dropLast then .error .exists
  else
    match tree.listed names with
    | some .directory => .error .isDirectory
    | some (.file contents) => .ok (tree.place names (.file (contents ++ Bytes.ofString text)))
    | none => .ok ((tree.placeAbove names).place names (.file (Bytes.ofString text)))

end FileTree

end SchedulerLink
