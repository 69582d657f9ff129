/-
A tree of files: what is found at a place, and what can be made there.

* `Tree.find?_put_same`, `Tree.find?_put_other` — what is put at a place is found there, and
  nothing else changes;
* `Tree.walk_of_long` — a name that is too long stops a walk before it is looked up;
* `Tree.makeDirectory`, `Tree.makeDirectories` — one directory, or all of a path;
* `Tree.openLog` — a file to which lines are added; what it holds stays.
-/
import RegistrySync.Files.Path
import RegistrySync.Text.Integer
import RegistrySync.Text.Quoted

namespace RegistrySync.Files

/-- What is at a place. -/
inductive Node where
  | directory
  | file (content : String)
  deriving DecidableEq, Repr

/-- The nodes of a tree by their places, the latest first. The root is always there. -/
structure Tree where
  nodes : List (List String × Node) := []
  deriving DecidableEq, Repr

/-- Why something cannot be done with a path. -/
inductive PathTrouble where
  | missing
  | alreadyThere
  | notDirectory
  | isDirectory
  | nameTooLong
  deriving DecidableEq, Repr

/-- The number and the words of a trouble. -/
def PathTrouble.words : PathTrouble → Nat × String
  | missing => (2, "No such file or directory")
  | alreadyThere => (17, "File exists")
  | notDirectory => (20, "Not a directory")
  | isDirectory => (21, "Is a directory")
  | nameTooLong => (36, "File name too long")

/-- What cannot be done, and with which path. -/
structure FileFault where
  trouble : PathTrouble
  path : String
  deriving DecidableEq, Repr

/-- The wording of a fault. -/
def FileFault.message (fault : FileFault) : String :=
  let (number, words) := fault.trouble.words
  "[Errno " ++ Text.showNat number ++ "] " ++ words ++ ": " ++ Text.quoted fault.path

/-- Whether a name has more bytes than a name along a path may have. -/
def isLongName (name : String) : Bool := name.utf8ByteSize > 255

/-- Whether a text has more bytes than a path may have. -/
def isLongPath (text : String) : Bool := text.utf8ByteSize > 4095

namespace Tree

/-- What is at a place. -/
def find? (tree : Tree) (place : List String) : Option Node :=
  if place.isEmpty then some .directory else tree.nodes.lookup place

/-- The tree with something put at a place. -/
def put (tree : Tree) (place : List String) (node : Node) : Tree :=
  ⟨(place, node) :: tree.nodes⟩

@[simp] theorem find?_put_same (tree : Tree) {place : List String} (node : Node)
    (h : place ≠ []) : (tree.put place node).find? place = some node := by
  cases place with
  | nil => exact absurd rfl h
  | cons name rest => simp [find?, put]

theorem find?_put_other (tree : Tree) {place other : List String} (node : Node)
    (h : other ≠ place) : (tree.put place node).find? other = tree.find? other := by
  have hb : (other == place) = false := by simpa using h
  simp [find?, put, List.lookup_cons, hb]

/-- Walk along names from a place that is there. -/
def walk (tree : Tree) (place : List String) : List String → Except PathTrouble (List String)
  | [] => .ok place
  | name :: rest =>
    match tree.find? place with
    | some .directory =>
      if isLongName name then .error .nameTooLong
      else
        let next := if name = ".." then place.dropLast else place ++ [name]
        if (tree.find? next).isSome then tree.walk next rest else .error .missing
    | some (.file _) => .error .notDirectory
    | none => .error .missing

/-- The place to which a path leads, if something is there. -/
def locate (tree : Tree) (cwd : List String) (path : Path) : Except PathTrouble (List String) :=
  if isLongPath path.text then .error .nameTooLong
  else tree.walk (if path.rooted then [] else cwd) path.names

/-- A name that is too long stops a walk before it is looked up. -/
theorem walk_of_long {tree : Tree} {place : List String} {name : String} (rest : List String)
    (hd : tree.find? place = some .directory) (hl : isLongName name = true) :
    tree.walk place (name :: rest) = .error .nameTooLong := by
  simp [walk, hd, hl]

/-- What is at the end of a path. -/
def lookup (tree : Tree) (cwd : List String) (path : Path) : Option Node :=
  match tree.locate cwd path with
  | .ok place => tree.find? place
  | .error _ => none

/-- Whether there is a directory at the end of a path. -/
def isDirectory (tree : Tree) (cwd : List String) (path : Path) : Bool :=
  tree.lookup cwd path == some .directory

/-- Whether there is a directory at the end of a path. A name that is too long is a fault, and
whatever else stops the way there is a no. -/
def askDirectory (tree : Tree) (cwd : List String) (path : Path) : Except FileFault Bool :=
  match tree.locate cwd path with
  | .ok place => .ok (tree.find? place == some .directory)
  | .error .nameTooLong => .error ⟨.nameTooLong, path.text⟩
  | .error _ => .ok false

/-- The text of the file to which a path leads as it is written, if it leads to one. -/
def read? (tree : Tree) (cwd : List String) (written : String) : Option String :=
  if namesDirectory written || isLongPath written then none
  else
    match tree.lookup cwd (Path.ofText written) with
    | some (.file content) => some content
    | _ => none

/-- Make one directory. -/
def makeDirectory (tree : Tree) (cwd : List String) (path : Path) : Except PathTrouble Tree :=
  match tree.locate cwd path with
  | .ok _ => .error .alreadyThere
  | .error .missing =>
    match tree.locate cwd path.parent, path.names.getLast? with
    | .ok place, some name =>
      match tree.find? place with
      | some .directory => .ok (tree.put (place ++ [name]) .directory)
      | _ => .error .notDirectory
    | .error trouble, _ => .error trouble
    | .ok _, none => .error .alreadyThere
  | .error trouble => .error trouble

/-- Make the directory unless it is there. -/
def ensureDirectory (tree : Tree) (cwd : List String) (path : Path) : Tree × Option FileFault :=
  match tree.makeDirectory cwd path with
  | .ok made => (made, none)
  | .error trouble =>
    (tree, if tree.isDirectory cwd path then none else some ⟨trouble, path.text⟩)

/-- Make a directory and, before it, the directories along its path that are missing; `bound`
is how many of them there can be. What was made before a fault stays. -/
def makeDirectories (tree : Tree) (cwd : List String) (path : Path) :
    Nat → Tree × Option FileFault
  | 0 => tree.ensureDirectory cwd path
  | bound + 1 =>
    match tree.makeDirectory cwd path with
    | .error .missing =>
      match tree.makeDirectories cwd path.parent bound with
      | (made, none) => made.ensureDirectory cwd path
      | (made, some fault) => (made, some fault)
    | _ => tree.ensureDirectory cwd path

/-- A place as a path from the root. -/
def placeText (place : List String) : String := "/" ++ "/".intercalate place

/-- Open a file to which lines are added: an empty one is made if there is none. -/
def openLog (tree : Tree) (cwd : List String) (path : Path) : Except FileFault Tree :=
  let place := path.absolute cwd
  let shown := path.fullText cwd
  match tree.find? place with
  | some (.file _) => .ok tree
  | some .directory => .error ⟨.isDirectory, shown⟩
  | none =>
    match tree.find? place.dropLast with
    | some .directory =>
      if place.any isLongName || isLongPath shown then .error ⟨.nameTooLong, shown⟩
      else .ok (tree.put place (.file ""))
    | some (.file _) => .error ⟨.notDirectory, shown⟩
    | none => .error ⟨.missing, shown⟩

/-- Add a text to a file. -/
def append (tree : Tree) (place : List String) (text : String) : Tree :=
  match tree.find? place with
  | some (.file content) => tree.put place (.file (content ++ text))
  | _ => tree

end Tree

end RegistrySync.Files
