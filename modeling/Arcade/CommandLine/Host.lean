/-!
# `Arcade.CommandLine.Host` — the surroundings of a run

A run looks at files, prints lines and writes one file. `Host` is all it needs of its surroundings,
over any monad, so that the same run works on a real file system and on one that is a value.

## Contents
- `Host`.
- `FileTree`: files by the names on their paths, with `FileTree.entry` and `FileTree.create`.
- `Surroundings`: a file tree and the lines printed, with `Surroundings.host`.
-/

namespace Arcade

/-- What a run needs of its surroundings. -/
structure Host (m : Type → Type) where
  /-- Whether there is a file or a directory at a path. -/
  present : String → m Bool
  /-- The contents of a file, or what the system says is wrong. -/
  read : String → m (Except String (List UInt8))
  /-- Writes a file, or says what is wrong. -/
  create : String → String → m (Except String Unit)
  /-- Prints a line. -/
  print : String → m Unit
  /-- Writes a line to the log. -/
  log : String → m Unit

/-- Files by the names on their paths. There is a directory wherever a file lies below. -/
structure FileTree where
  files : List (List String × List UInt8)

namespace FileTree

/-- What lies at a place. -/
inductive Entry
  | file (contents : List UInt8)
  | directory
  | missing

/-- What lies at the end of the names from the root of the tree. -/
def lookup (t : FileTree) (names : List String) : Entry :=
  match t.files.lookup names with
  | some contents => .file contents
  | none => if names = [] ∨ t.files.any fun f => names.isPrefixOf f.1 then .directory else .missing

/-- Follows the steps of a path: each of them starts in a directory, and none leaves the tree. -/
def walk (t : FileTree) (place : List String) : List String → Option (List String)
  | [] => some place
  | name :: names =>
    match t.lookup place with
    | .directory =>
      if name = "" ∨ name = "." then t.walk place names
      else if name = ".." then (if place = [] then none else t.walk place.dropLast names)
      else t.walk (place ++ [name]) names
    | _ => none

/-- The place that a path leads to. An absolute path leads out of the tree. -/
def resolve (t : FileTree) (path : String) : Option (List String) :=
  if path.startsWith "/" then none else t.walk [] (path.splitOn "/")

/-- What lies at the end of a path. -/
def entry (t : FileTree) (path : String) : Entry :=
  match t.resolve path with
  | none => .missing
  | some place => t.lookup place

/-- Puts a file into the tree. Its directory has to be there, and no directory may be in its
place. -/
def create (t : FileTree) (path : String) (contents : List UInt8) : Option FileTree := do
  let place ← t.resolve path
  match t.lookup place with
  | .directory => none
  | _ => some ⟨(place, contents) :: t.files.filter fun f => f.1 != place⟩

end FileTree

/-- A file tree and the lines that were printed, the latest first. -/
structure Surroundings where
  tree : FileTree
  printed : List String

namespace Surroundings

/-- The host that surroundings kept as a value offer. The log is not kept. -/
def host : Host (StateM Surroundings) where
  present path := do
    match (← get).tree.entry path with
    | .missing => pure false
    | _ => pure true
  read path := do
    match (← get).tree.entry path with
    | .file contents => pure (.ok contents)
    | .directory => pure (.error "Is a directory (os error 21)")
    | .missing => pure (.error "No such file or directory (os error 2)")
  create path text := do
    match (← get).tree.create path text.toUTF8.toList with
    | some tree =>
      modify fun s => { s with tree := tree }
      pure (.ok ())
    | none => pure (.error "No such file or directory (os error 2)")
  print line := modify fun s => { s with printed := line :: s.printed }
  log _ := pure ()

end Surroundings

end Arcade
