/-
Loading an environment file: its variables are added to the environment, and variables that
are there already stay as they are.

* `load` — the environment after a file has been loaded, with the records about it;
* `isSwitchedOff` — loading can be switched off by a variable;
* `addBindings_of_mem` — a variable that is there stays as it is.
-/
import RegistrySync.EnvFile.Expansion
import RegistrySync.Fault
import RegistrySync.Files.Tree
import RegistrySync.Journal.Record
import RegistrySync.Text.LetterCase

namespace RegistrySync.EnvFile

open Journal

/-- Whether loading is switched off: a variable says yes, in whatever case. -/
def isSwitchedOff (env : Environment) : Bool :=
  match env.value? "PYTHON_DOTENV_DISABLED" with
  | some word => Text.foldCase word ∈ ["1", "true", "t", "yes", "y"]
  | none => false

/-- The record that tells that loading is switched off. -/
def switchedOffRecord : Record :=
  ⟨.debug, Source.envFile,
    "python-dotenv: .env loading disabled by PYTHON_DOTENV_DISABLED environment variable"⟩

/-- The record about a line that cannot be read. -/
def unreadableRecord (line : Nat) : Record :=
  ⟨.warning, Source.envFile,
    "python-dotenv could not parse statement starting at line " ++ Text.showNat line⟩

/-- Why a variable cannot be set. -/
def settingTrouble? (name value : String) : Option Fault :=
  if Files.holdsNul name || Files.holdsNul value then some ⟨.nulCharacter, none⟩
  else if name.toList.contains '=' then
    some ⟨.stated .value "illegal environment variable name", none⟩
  else none

/-- The environment with the variables that are not there yet. -/
def addBindings (env : Environment) : Bindings → Except Fault Environment
  | [] => .ok env
  | (_, none) :: rest => addBindings env rest
  | (name, some value) :: rest =>
    if (env.value? name).isSome then addBindings env rest
    else
      match settingTrouble? name value with
      | some fault => .error fault
      | none => addBindings (env.set name value) rest

/-- The records about the lines of a file that cannot be read. -/
def unreadableRecords (items : List Item) : List Record :=
  items.filterMap fun
    | .unreadable line => some (unreadableRecord line)
    | .statement _ => none

/-- The statements of a file. -/
def readable (items : List Item) : List Statement :=
  items.filterMap fun
    | .statement statement => some statement
    | .unreadable _ => none

/-- The environment after a text has been loaded, with the records about it. -/
def loadText (env : Environment) (text : String) : List Record × Except Fault Environment :=
  let read := items text
  (unreadableRecords read, addBindings env (resolve env (readable read)))

/-- The environment after the file at a path has been loaded, with the records about it. Only
a file is loaded; if there is none, nothing happens. A path with a NUL character is a fault. -/
def load (files : Files.Tree) (cwd : List String) (env : Environment) (path : Option String) :
    List Record × Except Fault Environment :=
  if isSwitchedOff env then ([switchedOffRecord], .ok env)
  else
    let chosen := (path.filter (!·.isEmpty)).getD (Settings.envFile env)
    if Files.holdsNul chosen then ([], .error ⟨.nulCharacter, none⟩)
    else
      match files.read? cwd chosen with
      | some text => loadText env text
      | none => ([], .ok env)

/-- A variable that is there stays as it is. -/
theorem addBindings_of_mem {env : Environment} {name value : String} (rest : Bindings)
    (h : (env.value? name).isSome = true) :
    addBindings env ((name, some value) :: rest) = addBindings env rest := by
  simp [addBindings, h]

end RegistrySync.EnvFile
