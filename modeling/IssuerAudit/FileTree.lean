import IssuerAudit.File
import IssuerAudit.Text.Pieces
/-!
Trees of files held as values: what a path leads to is found by walking along it, name
by name, from the directory that the walk starts in.
-/

namespace IssuerAudit

/-- A tree of files.  A directory is there if it is listed or if something lies below
it; the root is always there. -/
structure FileTree where
  /-- The places of the plain files, each as the names on the way from the root, and their
  contents. -/
  plain : List (List String × List UInt8)
  directories : List (List String)

namespace FileTree

def get (t : FileTree) (place : List String) : File :=
  match t.plain.lookup place with
  | some content => .regular content
  | none =>
      if place = [] ∨ (t.directories ++ t.plain.map (·.1)).any place.isPrefixOf then
        .directory
      else .absent

/-- Where a name leads from a directory. -/
def step (here : List String) (name : String) : List String :=
  if name = "" ∨ name = "." then here
  else if name = ".." then here.dropLast
  else here ++ [name]

/-- What names lead to from a place.  Only a directory can be walked through. -/
def walk (t : FileTree) (here : List String) : List String → File
  | [] => t.get here
  | name :: rest =>
      match t.get here with
      | .directory => walk t (step here name) rest
      | .absent => .absent
      | _ => .blocked

def names (path : List Char) : List String :=
  (Text.pieces '/' path).map String.ofList

/-- What a path leads to from a directory.  The empty path leads nowhere. -/
def lookup (t : FileTree) (here : List String) (path : String) : File :=
  match path.toList with
  | [] => .absent
  | '/' :: rest => t.walk [] (names rest)
  | cs => t.walk here (names cs)

def files (t : FileTree) (here : List String) : Files :=
  t.lookup here

end FileTree

end IssuerAudit
