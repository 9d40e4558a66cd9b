import LspClient.Config.File

/-!
# Files in memory

A file tree holds files in directories below one root and finds them by their paths. A
path is walked name by name: each name is looked up in the directory that the names before
it lead to, so a path that goes through a file or through something missing leads nowhere,
even if it comes back with `..`.
-/

namespace LspClient

/-- A place in a file tree: the names that lead to it from the root, the last one first. -/
abbrev Place := List String

/-- Files and directories, the newest first. -/
structure FileTree where
  entries : List (Place × FileContent) := []

namespace FileTree

/-- A path of this many bytes is too long to name anything. -/
def pathLimit : Nat := 4096

/-- What lies at a place. The root is a directory. -/
def content (t : FileTree) (place : Place) : FileContent :=
  if place = [] then .directory else (t.entries.lookup place).getD .missing

/-- The place that a name leads to from a directory. -/
def step (place : Place) (name : String) : Place :=
  if name = "" ∨ name = "." then place
  else if name = ".." then place.tail
  else name :: place

/-- What names lead to from a place. -/
def walk (t : FileTree) (place : Place) : List String → FileContent
  | [] => t.content place
  | name :: rest =>
    match t.content place with
    | .directory => t.walk (step place name) rest
    | _ => .missing

/-- What lies at a path. -/
def find (t : FileTree) (path : String) : FileContent :=
  if path.utf8ByteSize < pathLimit then t.walk [] (path.splitOn "/") else .missing

/-- Puts something at a place. -/
def put (t : FileTree) (place : Place) (content : FileContent) : FileTree :=
  { t with entries := (place, content) :: t.entries }

/-- Puts a file where names lead to from a place, with every directory on the way. -/
def insertAt (t : FileTree) (place : Place) (data : Bytes) : List String → FileTree
  | [] => t.put place (.data data)
  | name :: rest => (t.put place .directory).insertAt (step place name) data rest

/-- Puts a file at a path, with every directory on the way. -/
def insert (t : FileTree) (path : String) (data : Bytes) : FileTree :=
  t.insertAt [] data (path.splitOn "/")

/-- A tree that holds these files. -/
def ofFiles (files : List (String × Bytes)) : FileTree :=
  files.foldl (fun t (path, data) => t.insert path data) {}

end FileTree

end LspClient
