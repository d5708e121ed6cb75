/-!
# File trees

The files below a working directory, by their paths from it.  A folder exists when it holds a file,
and nothing is known of what lies outside the tree, except that it can be walked through.
-/

namespace CrossSwap

structure FileTree where
  /-- Paths and contents. -/
  files : List (String × String)
  deriving DecidableEq, Repr

namespace FileTree

/-- What a path leads to. -/
inductive Place where
  | folder (path : List String)
  | file (content : String)
  /-- A folder around the tree. -/
  | outside
  deriving DecidableEq, Repr

/-- The names that a path is made of. -/
def names (path : String) : List String :=
  path.splitOn "/"

/-- What a path of names leads to from the top of the tree. -/
def entry? (tree : FileTree) (path : List String) : Option Place :=
  match tree.files.find? fun f => names f.1 == path with
  | some f => some (.file f.2)
  | none =>
    if tree.files.any fun f => path.isPrefixOf (names f.1) then some (.folder path) else none

/-- What a name leads to from a place.  Only a folder leads anywhere, be it to itself. -/
def step (tree : FileTree) : Place → String → Option Place
  | .folder path, name =>
    if name = "" ∨ name = "." then some (.folder path)
    else if name = ".." then some (if path.isEmpty then .outside else .folder path.dropLast)
    else tree.entry? (path ++ [name])
  | .outside, name => if name ∈ ["", ".", ".."] then some .outside else none
  | .file _, _ => none

/-- What a path leads to; the empty path leads nowhere. -/
def place? (tree : FileTree) (path : String) : Option Place :=
  if path.isEmpty then none
  else
    (names path).foldlM tree.step (if path.toList.head? = some '/' then .outside else .folder [])

/-- The content of the file that a path leads to. -/
def content? (tree : FileTree) (path : String) : Option String :=
  match tree.place? path with
  | some (.file content) => some content
  | _ => none

end FileTree

end CrossSwap
