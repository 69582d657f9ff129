/-
Setting up logging: a console, and a file if one is asked for and can be opened.

* `levelOf?` — the level that a word names, whatever its case;
* `logPath` — where the log file is;
* `configure` — the handlers anew, with the fault that ended it, if one did;
* `configure_of_refused` — a request that is refused leaves everything as it was.

Design notes: everything that can be refused is looked at before anything is changed. A file
that cannot be opened is no fault: the console is told, and there is no file. Only a NUL
character in its path is found too late: by then the console is set up, and stays so.
-/
import RegistrySync.Fault
import RegistrySync.Journal.Routing
import RegistrySync.Text.LetterCase

namespace RegistrySync.Journal

open Files (Path Tree)

/-- The level that a word names, whatever its case and the blanks around it. No word at all
names the ordinary level. -/
def levelOf? (word : String) : Option Level :=
  if word.isEmpty then some .info else Level.ofName? (Text.upperCase (Text.strip word))

/-- The level that a word names, or the fault of a word that names none. -/
def readLevel (word : String) : Except Fault Level :=
  match levelOf? word with
  | some level => .ok level
  | none => .error ⟨.setting .noLogLevel, none⟩

/-- The name of the log file in a directory. -/
def defaultLogName : String := "beachhead-companion.log"

/-- The home directories that the system lists: that of the user who runs the program, and those
of users by their names. -/
structure Accounts where
  own : Option String := none
  homes : List (String × String) := []
  deriving DecidableEq, Repr

/-- Where the working directory and the home directories are. -/
structure Whereabouts where
  cwd : List String
  /-- The home directory that the environment names. -/
  home : Option String
  accounts : Accounts := {}
  deriving DecidableEq, Repr

/-- Whether a text starts with a tilde. -/
def startsWithTilde (text : String) : Bool := text.toList.head? == some '~'

/-- The home directory for which a name stands that starts with a tilde: the listed one of the
user whose name is behind it; if there is none behind it, the one that the environment names or,
failing that, the listed one. -/
def homeOf? (base : Whereabouts) (name : String) : Option String :=
  match name.toList.drop 1 with
  | [] => base.home <|> base.accounts.own
  | user => base.accounts.homes.lookup (String.ofList user)

/-- A home directory as a path. One that starts with a tilde is none, and one of nothing but
slashes is the root. -/
def homePath? (home : String) : Option Path :=
  if startsWithTilde home then none
  else
    let trimmed := (home.toList.reverse.dropWhile (· == '/')).reverse
    some (Path.ofText (if trimmed.isEmpty then "/" else String.ofList trimmed))

/-- A path with a home directory for a name in front of it that starts with a tilde. -/
def expandHome (base : Whereabouts) (path : Path) : Except Fault Path :=
  match path.root, path.names with
  | .relative, first :: rest =>
    if startsWithTilde first then
      if Files.holdsNul first then .error ⟨.nulCharacter, none⟩
      else
        match (homeOf? base first).bind homePath? with
        | some home => .ok { home with names := home.names ++ rest }
        | none => .error ⟨.unknownHome, none⟩
    else .ok path
  | _, _ => .ok path

/-- Where the log file is, if there is to be one. A directory, be it there or written as one,
holds a file of the default name. -/
def logPath (base : Whereabouts) (files : Tree) (given : Option String) :
    Except Fault (Option Path) :=
  let raw := Text.strip (given.getD "")
  if raw.isEmpty then .ok none
  else
    match expandHome base (Path.ofText raw) with
    | .error fault => .error fault
    | .ok path =>
      if raw.toList.getLast? == some '/' then .ok (some (path.child defaultLogName))
      else if path.holdsNul then .ok (some path)
      else
        match files.askDirectory base.cwd path with
        | .ok true => .ok (some (path.child defaultLogName))
        | .ok false => .ok (some path)
        | .error fault => .error ⟨.unusablePath fault, none⟩

/-- Why a log file cannot be opened. -/
inductive OpenFault where
  | nulCharacter
  | file (fault : Files.FileFault)
  deriving DecidableEq, Repr

/-- Open the log file, with the directories that lead to it. -/
def openLogFile (base : Whereabouts) (files : Tree) (path : Path) :
    Tree × Except OpenFault (List String) :=
  if path.parent.holdsNul then (files, .error .nulCharacter)
  else
    match files.makeDirectories base.cwd path.parent path.parent.names.length with
    | (made, some fault) => (made, .error (.file fault))
    | (made, none) =>
      if path.holdsNul then (made, .error .nulCharacter)
      else
        match made.openLog base.cwd path with
        | .ok opened => (opened, .ok (path.absolute base.cwd))
        | .error fault => (made, .error (.file fault))

/-- The record about a log file that cannot be opened. -/
def noFileRecord (path : Path) (fault : Files.FileFault) : Record :=
  ⟨.warning, Source.settings,
    "Failed to enable file logging to " ++ path.text ++ " (" ++ fault.message ++ ")"⟩

/-- The less serious of two levels. -/
def lesser (a b : Level) : Level := if a.number ≤ b.number then a else b

/-- What is to be logged where. -/
structure LogRequest where
  console : String
  file : Option String := none
  fileLevel : Option String := none
  deriving DecidableEq, Repr

/-- A request in which everything has been looked up. -/
structure LogPlan where
  console : Level
  file : Level
  path : Option Path
  deriving DecidableEq, Repr

/-- Look everything up. The file takes the level of the console unless it has its own. -/
def planLogging (base : Whereabouts) (files : Tree) (request : LogRequest) :
    Except Fault LogPlan := do
  let console ← readLevel request.console
  let file ←
    match request.fileLevel with
    | some word => if (Text.strip word).isEmpty then .ok console else readLevel word
    | none => .ok console
  let path ← logPath base files request.file
  return ⟨console, file, path⟩

/-- The logging of a console alone. -/
def consoleOnly (logging : Logging) (level : Level) : Logging :=
  { logging with handlers := [⟨level, .console⟩], level := level }

/-- What setting up logging leaves, and the fault that ended it, if one did. -/
structure Setup where
  logging : Logging
  screen : Screen
  fault : Option Fault := none
  deriving DecidableEq, Repr

/-- Put a plan in force. -/
def enact (base : Whereabouts) (stamp : Stamp) (logging : Logging) (screen : Screen)
    (plan : LogPlan) : Setup :=
  let bare := consoleOnly logging plan.console
  match plan.path with
  | none => ⟨{ bare with quiet := .warnings }, screen, none⟩
  | some path =>
    match openLogFile base screen.files path with
    | (files, .ok place) =>
      ⟨{ handlers := bare.handlers ++ [⟨plan.file, .file place⟩]
         level := lesser plan.console plan.file
         quiet := .warnings }, { screen with files := files }, none⟩
    | (files, .error (.file fault)) =>
      ⟨{ bare with quiet := .warnings },
        bare.emit stamp (noFileRecord path fault) { screen with files := files }, none⟩
    | (files, .error .nulCharacter) =>
      ⟨bare, { screen with files := files }, some ⟨.nulCharacter, none⟩⟩

/-- Set up logging anew. -/
def configure (base : Whereabouts) (stamp : Stamp) (logging : Logging) (screen : Screen)
    (request : LogRequest) : Setup :=
  match planLogging base screen.files request with
  | .ok plan => enact base stamp logging screen plan
  | .error fault => ⟨logging, screen, some fault⟩

/-- A request that is refused leaves everything as it was. -/
theorem configure_of_refused {base : Whereabouts} {screen : Screen} {request : LogRequest}
    {fault : Fault} (stamp : Stamp) (logging : Logging)
    (h : planLogging base screen.files request = .error fault) :
    configure base stamp logging screen request = ⟨logging, screen, some fault⟩ := by
  simp [configure, h]

end RegistrySync.Journal
