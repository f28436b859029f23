import Stencil.Document.Path

/-! # File trees

    Some files with their contents, in directories below a working directory,
    and what a path leads to from there.  What lies above the working
    directory, or is reached from the root, is not known: there are
    directories, but nothing else in them. -/

namespace Stencil

/-! ## Section 1: Entries -/

/-- What a path leads to. -/
inductive FileTree.Entry where
  | nothing
  | directory
  /-- Nothing, as the path leads on from a file. -/
  | throughFile
  /-- Nothing, as the path or a part of it is longer than any name. -/
  | nameTooLong
  | file (bytes : List Nat)

/-- The bytes of each file, by the parts of its path. -/
structure FileTree where
  files : List (List String × List Nat)

namespace FileTree

/-- The tree of some files. -/
def ofFiles (files : List (String × List Nat)) : FileTree :=
  ⟨files.map fun (path, bytes) => (Path.parts path, bytes)⟩

/-- What is at a place.  The directories are those that files are in. -/
def entryAt (t : FileTree) (place : List String) : Entry :=
  match t.files.lookup place with
  | some bytes => .file bytes
  | none =>
    if place = [] ∨ t.files.any fun (path, _) => place.isPrefixOf path then .directory
    else .nothing

/-! ## Section 2: Walking -/

/-- The most bytes of a part of a path. -/
def maxPartSize : Nat := 255

/-- The most bytes of a path. -/
def maxPathSize : Nat := 4095

/-- The part that leads to the directory above. -/
def upward : String := ".."

/-- Where some parts lead from a directory, which is none if it is unknown. -/
def walk (t : FileTree) : Option (List String) → List String → Entry
  | _, [] => .directory
  | place, part :: parts =>
    if part = upward then
      match place with
      | none | some [] => walk t none parts
      | some place => walk t (some place.dropLast) parts
    else if maxPartSize < part.utf8ByteSize then .nameTooLong
    else
      match place with
      | none => .nothing
      | some place =>
        match t.entryAt (place ++ [part]) with
        | .directory => walk t (some (place ++ [part])) parts
        | .file bytes => if parts.isEmpty then .file bytes else .throughFile
        | entry => entry

/-- What a path leads to. -/
def entry (t : FileTree) (path : String) : Entry :=
  if maxPathSize < (Path.shown path).utf8ByteSize then .nameTooLong
  else walk t (if path.toList.head? = some '/' then none else some []) (Path.parts path)

end FileTree

end Stencil
