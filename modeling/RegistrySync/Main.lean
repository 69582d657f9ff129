/-
The program as an executable: what the command line needs is looked up beforehand, and what it
leaves is written down afterwards.

* `snapshot` — the files that a command line can touch;
* `leave` — what a session leaves: its output, its console and the files it changed;
* `call` — one call of the program.

Design notes: the command line itself is a function of a session, so everything here only
reads a session from the system or writes one back. No client of a container daemon and none
of a registry is linked in: an inspection fails as one without a daemon does, and the only
cycle of a run ends with the first wait.
-/
import RegistrySync.CommandLine.Program
import Std.Time

namespace RegistrySync.CommandLine

open Files (Path Tree)

/-! ### Before a call -/

/-- The variables of this process, from the file in which the system tells them. -/
def readEnvironment : IO Environment := do
  let .ok block ← (IO.FS.readFile "/proc/self/environ").toBaseIO | return []
  return (Text.split (Char.ofNat 0) block.toList).filterMap fun entry =>
    let (name, value) := Text.cut '=' entry
    value.map fun value => (String.ofList name, String.ofList value)

/-- The moment that the records of this call are given. -/
def readClock : IO Journal.Stamp := do
  let now ← Std.Time.PlainDateTime.now
  return ⟨now.format "uuuu-MM-dd HH:mm:ss", now.format "SSS"⟩

/-- The home directories that the system lists, and which of them is that of the user who runs
this process. -/
def readAccounts : IO Journal.Accounts := do
  let .ok listing ← (IO.FS.readFile "/etc/passwd").toBaseIO | return {}
  let .ok status ← (IO.FS.readFile "/proc/self/status").toBaseIO | return {}
  let user := (status.splitOn "\n").findSome? fun line =>
    match line.splitOn "\t" with
    | "Uid:" :: user :: _ => some user
    | _ => none
  let entries := (listing.splitOn "\n").filterMap fun line =>
    match line.splitOn ":" with
    | [name, _, number, _, _, home, _] => some (name, number, home)
    | _ => none
  return {
    own := (entries.find? fun entry => some entry.2.1 == user).map (·.2.2)
    homes := entries.map fun entry => (entry.1, entry.2.2) }

/-- Put into a tree what is at a place, if anything is. -/
def lookAt (tree : Tree) (place : List String) : IO Tree := do
  let .ok path ← (IO.FS.realPath (Tree.placeText place)).toBaseIO | return tree
  if ← path.isDir then return tree.put place .directory
  let .ok content ← (IO.FS.readFile path).toBaseIO | return tree
  return tree.put place (.file content)

/-- The places along a path, the first one first. -/
def stations (cwd : List String) (path : Path) : List (List String) :=
  (List.range (path.names.length + 1)).map fun n =>
    Path.absolute cwd { path with names := path.names.take n }

/-- The texts that name files: the values of options and those of variables. -/
def fileTexts (words : List String) (env : Environment) : List String :=
  let given := match parseWords commonOptions false words with
    | .ok parsed => parsed.given.filterMap (·.value)
    | .error _ => []
  given ++ [Settings.envFile env] ++ (env.value? "BEACHHEAD_LOG_FILE").toList

/-- Put into a tree what is along the paths that texts name. A directory may hold a log
file. -/
def observe (base : Journal.Whereabouts) (tree : Tree) (texts : List String) : IO Tree :=
  let paths := texts.flatMap fun text =>
    let path := Path.ofText (Text.strip text)
    match Journal.expandHome base path with
    | .ok expanded => [path, expanded.child Journal.defaultLogName]
    | .error _ => [path]
  (paths.flatMap (stations base.cwd)).foldlM lookAt tree

/-- The files that a command line can touch. An environment file may name a log file. -/
def snapshot (base : Journal.Whereabouts) (words : List String) (env : Environment) :
    IO Tree := do
  let ways ← (stations [] ⟨.single, base.cwd⟩).foldlM lookAt {}
  let first ← observe base ways (fileTexts words env)
  (fileTexts words env).foldlM (fun tree text =>
    match (EnvFile.load first base.cwd env (some text)).2 with
    | .ok loaded => observe base tree (fileTexts words loaded)
    | .error _ => return tree) first

/-! ### Collaborators -/

/-- What is said for a client that is not linked in. -/
def noClient (kind : Kind) : Symptom := ⟨kind, "no client is linked in"⟩

/-- Collaborators that can do nothing; the world says whether the alarm is set. -/
def absentCollaborators : Collaborators Bool where
  inspector _ :=
    { enumerate := Task.fail ⟨.listingFailed (noClient .daemon), none⟩
      inspect := fun _ => Task.fail ⟨.daemonUnavailable (noClient .daemon), none⟩ }
  publisher settings :=
    { publish := fun publication =>
        Task.fail ⟨.writeFailed (recordKey settings publication.host) (noClient .registry), none⟩ }
  alarm := Alarm.timed id fun _ => Act.change fun _ => true
  cycleBound _ := 1

/-! ### After a call -/

/-- Write down what is new at a place. Lines that were added to a file are added to it. -/
def save (before after : Tree) (place : List String) : IO Unit := do
  let name := Tree.placeText place
  match before.find? place, after.find? place with
  | none, some .directory => IO.FS.createDirAll name
  | some (.file old), some (.file content) =>
    IO.FS.withFile name .append fun file => file.putStr (content.drop old.length).toString
  | none, some (.file content) => IO.FS.writeFile name content
  | _, _ => return ()

/-- A word about how the program is used. -/
def usageText : String :=
  let shown := fun (specs : List OptionSpec) => " ".intercalate (specs.map (·.name))
  "Usage: " ++ programName ++ " [OPTIONS] COMMAND [ARGS]...\n\n" ++
    "  options: " ++ shown commonOptions ++ "\n" ++
    "  run [CONTAINERS]...: " ++ shown runOptions ++ "\n" ++
    "  check DOMAIN_SPECS: " ++ shown checkOptions ++ "\n"

/-- Write down what a session leaves. The value is the status of the process. -/
def leave (before : Tree) (exit : Exit) (session : Session Bool) : IO UInt32 := do
  (session.screen.files.nodes.reverse.map (·.1)).eraseDups.forM (save before session.screen.files)
  IO.print session.output
  IO.eprint session.screen.console
  match exit with
  | .status code => return code.toUInt32
  | .usage code =>
    if code = 0 then IO.print usageText else IO.eprint usageText
    return code.toUInt32
  | .fault fault =>
    IO.eprintln fault.message
    return 1
  | .unfinished => return 1

/-- One call of the program. The value is the status of the process. -/
def call (words : List String) : IO UInt32 := do
  let env ← readEnvironment
  let cwd := (Path.ofText (← IO.currentDir).toString).names
  let accounts ← readAccounts
  let files ← snapshot ⟨cwd, env.value? "HOME", accounts⟩ words env
  let session : Session Bool :=
    { env := env, cwd := cwd, accounts := accounts, stamp := ← readClock
      screen := { files := files }, world := false }
  let (exit, after) := execute absentCollaborators words session
  leave files exit after

end RegistrySync.CommandLine

def main (words : List String) : IO UInt32 := RegistrySync.CommandLine.call words
