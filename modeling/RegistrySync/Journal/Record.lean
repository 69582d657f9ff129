/-
Log records: what the program tells about its work, before anything decides where it goes.

* `Level.ofName?_name` — a level that can be asked for is found by its name.
-/
import RegistrySync.Text.Integer

namespace RegistrySync.Journal

/-- How serious a record is: a number, the larger the more serious. -/
structure Level where
  number : Int
  deriving DecidableEq, Repr

namespace Level

/-- No level at all: what a part of the program has that is given none of its own. -/
def notset : Level := ⟨0⟩

/-- The level of details. -/
def debug : Level := ⟨10⟩

/-- The level of what goes as it should. -/
def info : Level := ⟨20⟩

/-- The level of what may go wrong. -/
def warning : Level := ⟨30⟩

/-- The level of what has gone wrong. -/
def error : Level := ⟨40⟩

/-- The level of what nothing goes on after. -/
def critical : Level := ⟨50⟩

/-- The levels that can be asked for by name, the least serious first. -/
def named : List Level := [debug, info, warning, error, critical]

/-- The name of a level. Between and beyond those that have one of their own, it is made of the
number. -/
def name (level : Level) : String :=
  match level.number with
  | 0 => "NOTSET"
  | 10 => "DEBUG"
  | 20 => "INFO"
  | 30 => "WARNING"
  | 40 => "ERROR"
  | 50 => "CRITICAL"
  | number => "Level " ++ Text.showInt number

/-- The level of that name, if it can be asked for. -/
def ofName? (word : String) : Option Level := named.find? fun level => level.name == word

theorem ofName?_name {level : Level} (h : level ∈ named) : ofName? level.name = some level := by
  revert h level
  decide

theorem pos_of_mem_named {level : Level} (h : level ∈ named) : 0 < level.number := by
  revert h level
  decide

theorem number_injective {a b : Level} (h : a.number = b.number) : a = b := by
  cases a
  cases b
  exact congrArg Level.mk h

end Level

/-- One record: how serious it is, which part of the program wrote it, and its text. -/
structure Record where
  level : Level
  source : String
  text : String
  deriving DecidableEq, Repr

/-! ### The parts of the program that write records -/

namespace Source

/-- Reads domain specs. -/
def domainSpec : String := "beachhead_companion.domain_spec"

/-- Asks the container daemon. -/
def inspector : String := "beachhead_companion.inspector.docker"

/-- Writes to the registry. -/
def publisher : String := "beachhead_companion.publisher.redis"

/-- Keeps the registry in step with the containers. -/
def reconciler : String := "beachhead_companion.companion"

/-- Sets up logging. -/
def settings : String := "beachhead_companion.configmanager"

/-- Serves the command line. -/
def commandLine : String := "beachhead_companion.cli"

/-- Reads environment files. -/
def envFile : String := "dotenv.main"

end Source

end RegistrySync.Journal
