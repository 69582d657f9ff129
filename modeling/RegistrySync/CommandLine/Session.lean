/-
Sessions of the command line: what a command finds, and what it leaves.

* `Session` — environment, files, console, logging and the world of the collaborators;
* `Exit` — how a command ends before its end, and `Exit.ofResult`, how it ends at all;
* `Command` — a step of a command.
-/
import RegistrySync.EnvFile.Load
import RegistrySync.Journal.Configure
import RegistrySync.Reconciler.Run
import RegistrySync.Reconciler.Signals

namespace RegistrySync.CommandLine

open Journal (Level Logging Record Screen Stamp)

/-- How a command ends before its end. -/
inductive Exit where
  /-- With a status. -/
  | status (code : Nat)
  /-- With a page of help, or a word about how the program is used. -/
  | usage (code : Nat)
  /-- With a fault that nobody handles. -/
  | fault (fault : Fault)
  /-- Not yet: its run was cut short. -/
  | unfinished
  deriving DecidableEq, Repr

/-- How a command ends that comes to this result: with status 0 if it comes to its end. -/
def Exit.ofResult : Except Exit Unit → Exit
  | .ok () => .status 0
  | .error exit => exit

/-- What a command finds, and what it leaves. -/
structure Session (ω : Type) where
  env : Environment
  cwd : List String
  accounts : Journal.Accounts := {}
  /-- The moment that records are given. -/
  stamp : Stamp
  screen : Screen
  output : String := ""
  logging : Logging := {}
  signals : Signals.State := {}
  /-- What was asked of the collaborators, and with which settings. -/
  requests : List Request := []
  settings : Option Settings := none
  world : ω

/-- A step of a command. -/
abbrev Command (ω α : Type) : Type := ExceptT Exit (StateM (Session ω)) α

/-- The collaborators of a run, which depend on its settings. -/
structure Collaborators (ω : Type) where
  inspector : Settings → Inspector ω
  publisher : Settings → Publisher ω
  alarm : Alarm ω
  /-- How many cycles a run in this world can have. -/
  cycleBound : ω → Nat

namespace Command

variable {ω α : Type}

/-- End with a status. -/
def stop (code : Nat) : Command ω α := throw (.status code)

/-- End with a word about how the program is used. -/
def misuse : Command ω α := throw (.usage 2)

/-- End with a page of help. -/
def help : Command ω α := throw (.usage 0)

/-- Write to the output. -/
def say (text : String) : Command ω Unit :=
  modify fun session => { session with output := session.output ++ text }

/-- Write to the console. -/
def tell (text : String) : Command ω Unit :=
  modify fun session =>
    { session with screen := { session.screen with console := session.screen.console ++ text } }

/-- Log records. -/
def emit (records : List Record) : Command ω Unit :=
  modify fun session =>
    { session with screen := session.logging.emitAll session.stamp records session.screen }

/-- Log one record of the command line. -/
def log (level : Level) (text : String) : Command ω Unit :=
  emit [⟨level, Journal.Source.commandLine, text⟩]

/-- The directories from which paths are read. -/
def whereabouts (session : Session ω) : Journal.Whereabouts :=
  ⟨session.cwd, session.env.value? "HOME", session.accounts⟩

/-- Set up logging. A level that does not exist and a path that cannot be one are misuse. -/
def configureLogging (console : String) (file : Option String) : Command ω Unit := do
  let session ← get
  let setup := Journal.configure (whereabouts session) session.stamp session.logging
    session.screen { console := console, file := file }
  set { session with logging := setup.logging, screen := setup.screen }
  match setup.fault with
  | none => return
  | some fault => if fault.kind = .value then misuse else throw (.fault fault)

/-- Load an environment file. -/
def loadEnvFile (path : Option String) : Command ω Unit := do
  let session ← get
  let (records, result) := EnvFile.load session.screen.files session.cwd session.env path
  emit records
  match result with
  | .ok env => modify fun session => { session with env := env }
  | .error fault => throw (.fault fault)

/-- Do a task: its records are logged, its requests are noted. -/
def perform (task : Task ω α) : Command ω (Except Fault α) := do
  let session ← get
  let outcome := task.run session.world
  set { session with
    world := outcome.world, requests := session.requests ++ requestsOf outcome.trace }
  emit (recordsOf outcome.trace)
  return outcome.value

end Command

end RegistrySync.CommandLine
