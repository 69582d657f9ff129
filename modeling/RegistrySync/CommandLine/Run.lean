/-
The command `run`: publish the domains of containers until told to stop.

* `readRunOptions?` — the options as choices for the settings;
* `startUp` — the reconciler, or the end with the status of a fatal error;
* `launch`, `serve` — what comes before the first cycle, and from there to the end;
* `run` — the whole command.
-/
import RegistrySync.CommandLine.Invocation
import RegistrySync.CommandLine.Number
import RegistrySync.CommandLine.Options
import RegistrySync.CommandLine.Session
import RegistrySync.Settings.Layers

namespace RegistrySync.CommandLine

variable {ω : Type}

/-- The status of a run whose last cycle had errors. -/
def cycleErrorsStatus : Nat := 1

/-- The status of a run that could not start. -/
def fatalStatus : Nat := 100

/-- The options of the command. -/
def runOptions : List OptionSpec :=
  [{ name := "--redis-host", takesValue := true },
   { name := "--redis-port", takesValue := true },
   { name := "--redis-db", takesValue := true },
   { name := "--expire", takesValue := true },
   { name := "--refresh", takesValue := true },
   { name := "--docker-url", takesValue := true },
   { name := "--docker-network" },
   { name := "--envvar", takesValue := true },
   { name := "--key-prefix", takesValue := true },
   { name := "--enumerate", letter := some 'e' },
   { name := "--dry-run", letter := some 'n' },
   { name := "--missing-envvar", takesValue := true },
   { name := "--missing-container", takesValue := true },
   { name := "--help" }]

/-- The value of an option as `read` understands it; outside is nothing if it does not. -/
def optionValue? {α : Type} (parsed : Parsed) (name : String) (read : String → Option α) :
    Option (Option α) :=
  match parsed.last? name with
  | none => some none
  | some value => (read value).map some

/-- An option without a value: a yes if it was given, else no choice. -/
def flagChoice (parsed : Parsed) (name : String) : Option Bool :=
  if parsed.has name then some true else none

/-- The options as choices for the settings, if all their values can be read. -/
def readRunOptions? (parsed : Parsed) : Option Overrides := do
  let port ← optionValue? parsed "--redis-port" readNumber?
  let db ← optionValue? parsed "--redis-db" readNumber?
  let expire ← optionValue? parsed "--expire" readNumber?
  let refresh ← optionValue? parsed "--refresh" readNumber?
  let missingVariable ← optionValue? parsed "--missing-envvar" fun value =>
    MissingVariable.ofWord? (Text.lowerCase value)
  let missingContainer ← optionValue? parsed "--missing-container" fun value =>
    MissingContainer.ofWord? (Text.lowerCase value)
  return {
    registryHost := parsed.last? "--redis-host"
    registryPort := port
    registryDb := db
    expire := expire
    refresh := refresh
    daemonUrl := parsed.last? "--docker-url"
    useNames := flagChoice parsed "--docker-network"
    envVar := parsed.last? "--envvar"
    keyPrefix := parsed.last? "--key-prefix"
    enumerate := flagChoice parsed "--enumerate"
    dryRun := flagChoice parsed "--dry-run"
    missingVariable := missingVariable
    missingContainer := missingContainer }

/-- What was said before the command's name about logging. -/
structure LogChoices where
  level : String
  file : Option String
  verbose : Bool
  quiet : Bool
  deriving DecidableEq, Repr

/-- End with the status of a fatal error. -/
def fatal {α : Type} (fault : Fault) : Command ω α := do
  Command.log .debug "Startup failed"
  Command.tell ("Fatal error: " ++ fault.message ++ "\n")
  Command.stop fatalStatus

/-- The settings in force. Only an expiry that is too large is a fault that nobody handles. -/
def resolveSettings (overrides : Overrides) : Command ω Settings := do
  match Settings.resolve (← get).env overrides with
  | .ok settings => return settings
  | .error fault =>
    let fault : Fault := ⟨.setting fault, none⟩
    if fault.kind = .value then fatal fault else throw (.fault fault)

/-- The reconciler of a run. There must be something to do: a container, or enumeration. -/
def startUp (collaborators : Collaborators ω) (overrides : Overrides) (containers : List String) :
    Command ω (Reconciler ω) := do
  let settings ← resolveSettings overrides
  if containers.isEmpty && !settings.enumerate then fatal ⟨.nothingNamed, none⟩
  modify fun session => { session with settings := some settings }
  match Reconciler.create? settings (collaborators.inspector settings)
      (collaborators.publisher settings) collaborators.alarm (containers.map .str) with
  | .ok reconciler => return reconciler
  | .error fault => fatal fault

/-- A truth value as records show it. -/
def shownFlag (flag : Bool) : String := if flag then "True" else "False"

/-- The record that tells with which settings a run starts. -/
def startLine (settings : Settings) : String :=
  "Starting redis=" ++ settings.registryHost ++ ":" ++ Text.showInt settings.registryPort ++
    " expire=" ++ Publication.shownOption settings.expire ++
    " refresh=" ++ Publication.shownOption settings.refresh ++
    " envvar=" ++ settings.envVar ++
    " enumerate=" ++ shownFlag settings.enumerate ++
    " dry_run=" ++ shownFlag settings.dryRun

/-- Run with both signals set to end the run, and put back what they did before. -/
def runGuarded (reconciler : Reconciler ω) (bound : Nat) :
    Command ω (Except Fault (Option (List Fault))) := do
  let (previous, installed) := Signals.install 0 (← get).signals
  modify fun session => { session with signals := installed }
  let result ← Command.perform (reconciler.runFor bound)
  modify fun session => { session with signals := Signals.restore previous session.signals }
  return result

/-- Tell how a run ended. -/
def conclude (faults : List Fault) : Command ω Unit := do
  unless faults.isEmpty do
    Command.tell ("Last refresh cycle finished with " ++ Text.showNat faults.length ++
      " error(s); see log for details\n")
    Command.stop cycleErrorsStatus

/-- All that comes before the first cycle. A dry run that is to be quiet still tells what it
would do. -/
def launch (collaborators : Collaborators ω) (choices : LogChoices) (commandLine : List String)
    (parsed : Parsed) : Command ω (Reconciler ω) := do
  if parsed.has "--help" then Command.help
  match readRunOptions? parsed with
  | none => Command.misuse
  | some overrides =>
    if overrides.dryRun == some true && choices.quiet && !choices.verbose then
      Command.configureLogging (if choices.level.isEmpty then "INFO" else choices.level)
        choices.file
    Command.log .debug ("Invocation: " ++ invocationLine (some programName) commandLine)
    let reconciler ← startUp collaborators overrides parsed.words
    Command.log .info (startLine reconciler.settings)
    return reconciler

/-- The cycles of a reconciler, and what is told of how they ended. A run that is cut short has
not ended. -/
def serve (collaborators : Collaborators ω) (reconciler : Reconciler ω) : Command ω Unit := do
  let bound := collaborators.cycleBound (← get).world
  match ← runGuarded reconciler bound with
  | .ok (some faults) => conclude faults
  | .ok none => throw .unfinished
  | .error fault => throw (.fault fault)

/-- The command with its options and the names of containers. -/
def run (collaborators : Collaborators ω) (choices : LogChoices) (commandLine : List String)
    (parsed : Parsed) : Command ω Unit := do
  serve collaborators (← launch collaborators choices commandLine parsed)

end RegistrySync.CommandLine
