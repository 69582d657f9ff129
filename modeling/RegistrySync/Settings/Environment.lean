/-
Settings in the environment: the variables named `BEACHHEAD_…`.

* `Environment` — variables with their values;
* one function per setting, from `envFile` to `logLevelIn`: its value, its default when the
  variable is not set, or the fault of a value that cannot be read.

Design notes: a variable that is set but blank counts as not set. The exceptions are the
key prefix, for which any text counts, and the password, which may be blank but not empty.
-/
import RegistrySync.Settings.Basic
import RegistrySync.Settings.Value

namespace RegistrySync

/-- Variables with their values. -/
abbrev Environment : Type := List (String × String)

namespace Environment

/-- The value of a variable that is set. -/
def value? (env : Environment) (name : String) : Option String := env.lookup name

/-- The value without the blanks around it, unless nothing is left. -/
def text? (env : Environment) (name : String) : Option String :=
  ((env.value? name).map Text.strip).filter (!·.isEmpty)

/-- The value as an integer. -/
def integer? (env : Environment) (name : String) : Except SettingFault (Option Int) :=
  match env.text? name with
  | none => .ok none
  | some text =>
    match Text.readInt? text.toList with
    | some value => .ok (some value)
    | none => .error (.notInteger name)

/-- The value as a flag; no unless a word for yes is given. -/
def flag (env : Environment) (name : String) : Bool :=
  ((env.value? name).bind Settings.flagWord?).getD false

/-- The value as one of several words, whatever its case. -/
def choice {α : Type} (env : Environment) (name : String) (default : α)
    (ofWord? : String → Option α) (words : List String) : Except SettingFault α :=
  match env.text? name with
  | none => .ok default
  | some text =>
    match ofWord? (Text.lowerCase text) with
    | some value => .ok value
    | none => .error (.notAmong name words)

/-- The same variables, with one of them set. -/
def set (env : Environment) (name value : String) : Environment :=
  (name, value) :: env.filter fun pair => pair.1 ≠ name

theorem value?_set_same (env : Environment) (name value : String) :
    (env.set name value).value? name = some value := by
  simp [value?, set]

end Environment

namespace Settings

/-- The file from which more variables are read. -/
def envFile (env : Environment) : String := (env.text? "BEACHHEAD_ENV_FILE").getD ".env"

/-- The registry's host. -/
def registryHostIn (env : Environment) : String :=
  (env.text? "BEACHHEAD_REDIS_HOST").getD ({} : Settings).registryHost

/-- The registry's port. -/
def registryPortIn (env : Environment) : Except SettingFault Int :=
  match env.text? "BEACHHEAD_REDIS_PORT" with
  | none => .ok ({} : Settings).registryPort
  | some text => portText "BEACHHEAD_REDIS_PORT" text

/-- The registry's database. -/
def registryDbIn (env : Environment) : Except SettingFault Int := do
  return (← env.integer? "BEACHHEAD_REDIS_DB").getD ({} : Settings).registryDb

/-- The registry's password. -/
def registryPasswordIn (env : Environment) : Option String :=
  (env.value? "BEACHHEAD_REDIS_PASSWORD").filter (!·.isEmpty)

/-- What stands before the host in a key. -/
def keyPrefixIn (env : Environment) : String :=
  (env.value? "BEACHHEAD_KEY_PREFIX").getD ({} : Settings).keyPrefix

/-- The expiry in seconds; zero is for records that never expire. -/
def expireIn (env : Environment) : Except SettingFault Int := do
  return (← env.integer? "BEACHHEAD_EXPIRE").getD 60

/-- The interval between two cycles. -/
def refreshIn (env : Environment) : Except SettingFault (Option Int) :=
  env.integer? "BEACHHEAD_REFRESH"

/-- The container's variable that declares its domains. -/
def envVarIn (env : Environment) : String :=
  (env.text? "BEACHHEAD_ENVVAR").getD ({} : Settings).envVar

/-- Where the daemon is. -/
def daemonUrlIn (env : Environment) : Option String := env.text? "BEACHHEAD_DOCKER_URL"

/-- Whether containers are reached by their names. -/
def useNamesIn (env : Environment) : Bool := env.flag "BEACHHEAD_DOCKER_NETWORK"

/-- Whether all running containers are taken in. -/
def enumerateIn (env : Environment) : Bool := env.flag "BEACHHEAD_ENUMERATE"

/-- What to do about containers without the variable. -/
def missingVariableIn (env : Environment) : Except SettingFault MissingVariable :=
  env.choice "BEACHHEAD_MISSING_ENVVAR" ({} : Settings).missingVariable MissingVariable.ofWord?
    (MissingVariable.all.map (·.word))

/-- What to do about containers that cannot be inspected. -/
def missingContainerIn (env : Environment) : Except SettingFault MissingContainer :=
  env.choice "BEACHHEAD_MISSING_CONTAINER" ({} : Settings).missingContainer
    MissingContainer.ofWord? (MissingContainer.all.map (·.word))

/-- The log level as it is named, in upper case. -/
def logLevelIn (env : Environment) : String :=
  let given := ((env.value? "BEACHHEAD_LOG_LEVEL").filter (!·.isEmpty)).getD "INFO"
  let level := Text.upperCase (Text.strip given)
  if level.isEmpty then "INFO" else level

end Settings

end RegistrySync
