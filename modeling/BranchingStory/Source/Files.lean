import BranchingStory.Text.Split
import BranchingStory.Assoc

/-!
# Files

The files that a source text may include. A path has one canonical spelling, under which the contents
of its file are found.
-/

namespace BranchingStory

/-- The text of a file, or the reason why it cannot be read. -/
abbrev Content := Except String String

/-- Files by their canonical paths. -/
structure Files where
  /-- The canonical spelling of a path, or the reason why there is no such path. -/
  canonical : String → Except String String
  contents : List (String × Content)

namespace Files

def missing : String := "No such file or directory (os error 2)"

def notDirectory : String := "Not a directory (os error 20)"

def isDirectory : String := "Is a directory (os error 21)"

/-- The contents under a canonical path; a path without contents is a directory. -/
def read (files : Files) (path : String) : Content :=
  match Assoc.get? files.contents path with
  | some content => content
  | none => .error isDirectory

/-- A file with a text has its path among the contents. -/
theorem mem_of_read {files : Files} {path text : String} (h : files.read path = .ok text) :
    path ∈ files.contents.map (·.1) := by
  unfold read at h
  split at h
  · rename_i found
    unfold Assoc.get? at found
    rw [List.lookup_eq_some_iff] at found
    obtain ⟨before, after, split, _⟩ := found
    simp [split]
  · cases h

/-- A path that starts at a directory, unless it is absolute. -/
def join (dir path : String) : String :=
  if path.startsWith "/" || dir.isEmpty then path
  else if dir.endsWith "/" then dir ++ path
  else dir ++ "/" ++ path

def parent (path : String) : String :=
  match Text.splitLast? '/' path.toList with
  | some ([], _) => "/"
  | some (dir, _) => String.ofList dir
  | none => ""

end Files

/-- A tree of files below a directory: their paths from there, name by name, and their contents. -/
structure FileTree where
  root : List String
  entries : List (List String × Content)

namespace FileTree

def absolute (names : List String) : String :=
  "/" ++ String.intercalate "/" names

def places (t : FileTree) : List (List String) :=
  t.entries.map (t.root ++ ·.1)

/-- Whether a row of names is a directory on the way to a file or to the root. -/
def isDir (t : FileTree) (names : List String) : Bool :=
  names.isPrefixOf t.root || t.places.any fun place => names.isPrefixOf place && names != place

def step (t : FileTree) (names : List String) (name : String) : Except String (List String) :=
  if !t.isDir names then .error Files.notDirectory
  else if name = "" ∨ name = "." then .ok names
  else if name = ".." then .ok names.dropLast
  else
    let next := names ++ [name]
    if t.isDir next || t.places.contains next then .ok next else .error Files.missing

def names (path : String) : List String :=
  (Text.splitBy (· == '/') path.toList).map String.ofList

/-- The canonical spelling of a path; a relative one starts at the root of the tree. -/
def canonical (t : FileTree) (path : String) : Except String String :=
  if path.isEmpty then .error Files.missing
  else
    let start := if path.startsWith "/" then [] else t.root
    ((names path).foldlM t.step start).map absolute

/-- The place of a path whose last name need not exist yet. -/
def newPlace (t : FileTree) (path : String) : Except String (List String) := do
  let row := (names path).filter (· ≠ "")
  let start := if path.startsWith "/" then [] else t.root
  let dir ← row.dropLast.foldlM t.step start
  if !t.isDir dir then throw Files.notDirectory
  let name := row.getLastD "."
  let place := if name = "." then dir else if name = ".." then dir.dropLast else dir ++ [name]
  if t.isDir place then throw Files.isDirectory
  return place

/-- The tree with a text written to a file, or the reason why there can be no such file. -/
def write (t : FileTree) (path text : String) : Except String FileTree := do
  let place ← t.newPlace path
  let others := t.entries.filter (t.root ++ ·.1 ≠ place)
  return { t with entries := others ++ [(place.drop t.root.length, .ok text)] }

def files (t : FileTree) : Files where
  canonical := t.canonical
  contents := t.entries.map fun (names, content) => (absolute (t.root ++ names), content)

end FileTree

end BranchingStory
