import Trellis.Table
import Trellis.Text.Search
/-!
# Files

The files below one root directory, as values. A place is the list of names from the root to a file
or a directory; a path is a text that leads to a place, step by step, from a directory that exists.
-/

namespace Trellis

/-- The names from the root to a file or a directory. -/
abbrev Place := List String

/-- The place and all directories above it, from the root down. -/
def Place.line : Place → List Place
  | [] => [[]]
  | name :: rest => [] :: (Place.line rest).map (name :: ·)

/-- The files below a root. -/
structure Files where
  /-- How the root is told. -/
  root : String
  contents : Table Place String
  directories : List Place

namespace Files

def splitPath (path : String) : List String :=
  (Text.splitAt '/' path.toList).map String.ofList

/-- Some files by their paths from the root, with the directories they are in and some more. -/
def ofNames (root : String) (files : List (String × String)) (directories : List Place) : Files :=
  let contents := files.map fun (path, content) => (splitPath path, content)
  { root
    contents
    directories := [] :: directories ++ contents.flatMap fun (place, _) => Place.line place.dropLast }

def isDirectory (files : Files) (place : Place) : Bool :=
  files.directories.contains place

def exists? (files : Files) (place : Place) : Bool :=
  files.isDirectory place || files.contents.has place

/-- One step of a path, from a directory. Nothing above the root is known. -/
def step (files : Files) (place : Place) (name : String) : Option Place :=
  if !files.isDirectory place then none
  else if name = "" ∨ name = "." then some place
  else if name = ".." then if place.isEmpty then none else some place.dropLast
  else some (place ++ [name])

/-- Where the names of a path lead to. -/
def walk (files : Files) (start : Place) (names : List String) : Option Place :=
  names.foldlM files.step start

/-- The place of an existing file or directory that a path leads to. A path that starts with a slash
does not start from `start`. -/
def find? (files : Files) (start : Place) (path : String) : Option Place :=
  if path.toList.head? = some '/' then none
  else (files.walk start (splitPath path)).filter files.exists?

/-- The content of the file at the end of a path. -/
def read? (files : Files) (start : Place) (path : String) : Option String :=
  (files.find? start path).bind files.contents.get?

/-- The files after one has been written; none when its directory is missing or a directory is in its
place. -/
def write? (files : Files) (start : Place) (path content : String) : Option Files := do
  let names := splitPath path
  let directory ← files.walk start names.dropLast
  let place ← files.step directory (names.getLast?.getD "")
  if path.toList.head? = some '/' ∨ files.isDirectory place then none
  else some { files with contents := files.contents.put place content }

/-- A path from the root as it is told. -/
def shown (files : Files) (path : String) : String :=
  if path.toList.head? = some '/' then path else files.root ++ "/" ++ path

/-- A place as it is told. -/
def shownPlace (files : Files) (place : Place) : String :=
  files.shown ("/".intercalate place)

end Files

end Trellis
