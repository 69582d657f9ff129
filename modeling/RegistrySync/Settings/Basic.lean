/-
Settings: everything that can be chosen about a run, and what makes a choice unusable.

* `Settings` — the choices, with their defaults;
* `Settings.problems` — what is wrong with them, in a fixed order;
* `problems_default` — the defaults are usable.
-/
import RegistrySync.Policy
import RegistrySync.Text.Integer
import RegistrySync.Text.Quoted

namespace RegistrySync

/-- Everything that can be chosen about a run. -/
structure Settings where
  /-- Where the registry is. -/
  registryHost : String := "localhost"
  registryPort : Int := 6379
  registryDb : Int := 0
  registryPassword : Option String := none
  /-- What stands before the host in the key of a record. -/
  keyPrefix : String := "beachhead:"
  /-- After how many seconds a record expires, if it does. -/
  expire : Option Int := some 60
  /-- Seconds between two cycles; without it there is a single cycle. -/
  refresh : Option Int := none
  /-- The container's environment variable that declares its domains. -/
  envVar : String := "BEACHHEAD_DOMAINS"
  /-- Where the container daemon is, unless its own environment says so. -/
  daemonUrl : Option String := none
  /-- Whether containers are reached by their names instead of their addresses. -/
  useNames : Bool := false
  /-- Whether records are only announced and not written. -/
  dryRun : Bool := false
  /-- Whether all running containers are taken in besides those that are named. -/
  enumerate : Bool := false
  missingVariable : MissingVariable := .automatic
  missingContainer : MissingContainer := .ignore
  deriving DecidableEq, Repr

/-- What can be wrong with settings. -/
inductive Problem where
  | emptyHost
  | portOutOfRange (port : Int)
  | negativeDb (db : Int)
  | expireNotPositive (seconds : Int)
  | refreshNotPositive (seconds : Int)
  | badVariableName (name : String)
  deriving DecidableEq, Repr

/-- The wording of a problem. -/
def Problem.message : Problem → String
  | .emptyHost => "redis host must not be empty"
  | .portOutOfRange port => "redis port out of range: " ++ Text.showInt port
  | .negativeDb db => "redis db must be >= 0: " ++ Text.showInt db
  | .expireNotPositive seconds => "expire seconds must be positive: " ++ Text.showInt seconds
  | .refreshNotPositive seconds => "refresh seconds must be positive: " ++ Text.showInt seconds
  | .badVariableName name => "invalid environment variable name: " ++ Text.quoted name

namespace Settings

/-- A problem if there is one. -/
def problemIf (there : Bool) (problem : Problem) : List Problem := if there then [problem] else []

/-- Whether an interval in seconds is set and not positive. -/
def notPositive (seconds : Option Int) : Bool := seconds.any (· ≤ 0)

/-- Whether a name can be the name of an environment variable. -/
def isVariableName (name : String) : Bool :=
  !name.isEmpty && name.toList.all fun c => c != '=' && !Text.isBlank c

/-- What is wrong with the settings. -/
def problems (settings : Settings) : List Problem :=
  problemIf (Text.strip settings.registryHost).isEmpty .emptyHost ++
  problemIf (!(0 < settings.registryPort && settings.registryPort ≤ 65535))
    (.portOutOfRange settings.registryPort) ++
  problemIf (settings.registryDb < 0) (.negativeDb settings.registryDb) ++
  problemIf (notPositive settings.expire) (.expireNotPositive (settings.expire.getD 0)) ++
  problemIf (notPositive settings.refresh) (.refreshNotPositive (settings.refresh.getD 0)) ++
  problemIf (!isVariableName settings.envVar) (.badVariableName settings.envVar)

/-- The defaults are usable. -/
theorem problems_default : problems {} = [] := by decide

theorem isVariableName_iff {name : String} :
    isVariableName name = true ↔
      name ≠ "" ∧ ∀ c ∈ name.toList, c ≠ '=' ∧ Text.isBlank c = false := by
  simp [isVariableName]

end Settings

end RegistrySync
