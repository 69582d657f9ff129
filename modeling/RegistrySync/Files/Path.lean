/-
Paths of files as they are written.

* `Path.ofText`, `Path.text` — from a text and back;
* `namesDirectory` — a text that can only lead to a directory;
* `Path.follow_append` — names are followed one after another;
* `Path.absolute`, `Path.fullText` — where a path leads, by its names alone, and that as a text.

Design notes: a path is a list of names behind a root. Empty names and single dots are left out
when it is read, while a pair of dots stays, since what it means hangs on the directories. Two
slashes at the root are kept as they are written, and lead to where one does.
-/
import RegistrySync.Text.Cut

namespace RegistrySync.Files

/-- Whether a text holds a NUL character. The system takes it for the end of the text, so such
a text is never handed to it. -/
def holdsNul (text : String) : Bool := text.toList.contains (Char.ofNat 0)

/-- Whether a path as it is written can only lead to a directory: nothing or a single dot
stands behind its last slash. -/
def namesDirectory (text : String) : Bool :=
  match (Text.split '/' text.toList).getLast? with
  | some last => last == [] || last == ['.']
  | none => false

/-- Where a path starts: at the working directory, or at the root, which has one slash or two. -/
inductive Root where
  | relative
  | single
  | double
  deriving DecidableEq, Repr

/-- Where the path of these characters starts. More than two slashes are as good as one. -/
def Root.ofChars : List Char → Root
  | '/' :: '/' :: '/' :: _ => single
  | '/' :: '/' :: _ => double
  | '/' :: _ => single
  | _ => relative

/-- A path: where it starts, and the names along it. -/
structure Path where
  root : Root
  names : List String
  deriving DecidableEq, Repr

namespace Path

/-- Whether a path starts at the root. -/
def rooted (path : Path) : Bool := path.root != .relative

/-- The path that a text denotes. -/
def ofText (text : String) : Path where
  root := .ofChars text.toList
  names := ((Text.split '/' text.toList).map String.ofList).filter fun name =>
    name ≠ "" && name ≠ "."

/-- A path as it is written. -/
def text (path : Path) : String :=
  let joined := "/".intercalate path.names
  match path.root with
  | .relative => if path.names.isEmpty then "." else joined
  | .single => "/" ++ joined
  | .double => "//" ++ joined

/-- Whether a NUL character stands in a path. -/
def holdsNul (path : Path) : Bool := path.names.any Files.holdsNul

/-- The path without its last name. -/
def parent (path : Path) : Path := { path with names := path.names.dropLast }

/-- The path with one more name. -/
def child (path : Path) (name : String) : Path := { path with names := path.names ++ [name] }

/-- Follow names from a place, going back one place at each pair of dots. -/
def follow (place : List String) : List String → List String
  | [] => place
  | name :: rest => follow (if name = ".." then place.dropLast else place ++ [name]) rest

/-- Where a path leads from the working directory, by its names alone. -/
def absolute (cwd : List String) (path : Path) : List String :=
  follow (if path.rooted then [] else cwd) path.names

/-- Where a path leads, as the system is told. -/
def fullText (cwd : List String) (path : Path) : String :=
  let joined := "/".intercalate (path.absolute cwd)
  match path.root with
  | .relative | .single => "/" ++ joined
  | .double => "//" ++ joined

theorem follow_append (place a b : List String) :
    follow place (a ++ b) = follow (follow place a) b := by
  induction a generalizing place with
  | nil => rfl
  | cons name rest ih => simpa [follow] using ih _

end Path

end RegistrySync.Files
