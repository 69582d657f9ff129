/-
The settings in force, in layers: defaults, above them the environment, above that the
choices made for one run.

* `Overrides` — the choices made for one run; what is not chosen stays as it is below;
* `Settings.fromEnvironment` — the settings of the environment alone;
* `Settings.resolve` — all layers, and the refresh interval that follows from the outcome;
* `withOverrides_nothing` — without choices nothing changes.
-/
import RegistrySync.Settings.Environment
import RegistrySync.Settings.Refresh

namespace RegistrySync

/-- The choices made for one run. An expiry of zero is for records that never expire. -/
structure Overrides where
  registryHost : Option String := none
  registryPort : Option Int := none
  registryDb : Option Int := none
  registryPassword : Option String := none
  keyPrefix : Option String := none
  expire : Option Int := none
  refresh : Option Int := none
  envVar : Option String := none
  daemonUrl : Option String := none
  useNames : Option Bool := none
  dryRun : Option Bool := none
  enumerate : Option Bool := none
  missingVariable : Option MissingVariable := none
  missingContainer : Option MissingContainer := none
  deriving DecidableEq, Repr

namespace Settings

/-- An expiry as it is chosen: zero is for none. -/
def expireOf (seconds : Int) : Option Int := if seconds = 0 then none else some seconds

/-- The settings of the environment alone. The first value that cannot be read is the
fault. -/
def fromEnvironment (env : Environment) : Except SettingFault Settings := do
  let expire ← expireIn env
  let port ← registryPortIn env
  let db ← registryDbIn env
  let refresh ← refreshIn env
  let missingVariable ← missingVariableIn env
  let missingContainer ← missingContainerIn env
  return {
    registryHost := registryHostIn env
    registryPort := port
    registryDb := db
    registryPassword := registryPasswordIn env
    keyPrefix := keyPrefixIn env
    expire := expireOf expire
    refresh := refresh
    envVar := envVarIn env
    daemonUrl := daemonUrlIn env
    useNames := useNamesIn env
    enumerate := enumerateIn env
    missingVariable := missingVariable
    missingContainer := missingContainer }

/-- The settings with the choices above them. -/
def withOverrides (settings : Settings) (chosen : Overrides) : Settings where
  registryHost := chosen.registryHost.getD settings.registryHost
  registryPort := chosen.registryPort.getD settings.registryPort
  registryDb := chosen.registryDb.getD settings.registryDb
  registryPassword := chosen.registryPassword <|> settings.registryPassword
  keyPrefix := chosen.keyPrefix.getD settings.keyPrefix
  expire := (chosen.expire.map expireOf).getD settings.expire
  refresh := chosen.refresh <|> settings.refresh
  envVar := chosen.envVar.getD settings.envVar
  daemonUrl := chosen.daemonUrl <|> settings.daemonUrl
  useNames := chosen.useNames.getD settings.useNames
  dryRun := chosen.dryRun.getD settings.dryRun
  enumerate := chosen.enumerate.getD settings.enumerate
  missingVariable := chosen.missingVariable.getD settings.missingVariable
  missingContainer := chosen.missingContainer.getD settings.missingContainer

/-- The settings in force. The refresh interval follows from the expiry and the interval
that all layers together give. -/
def resolve (env : Environment) (chosen : Overrides) : Except SettingFault Settings := do
  let settings := (← fromEnvironment env).withOverrides chosen
  let refresh ← resolveRefresh settings.expire settings.refresh
  return { settings with refresh := refresh }

/-- Without choices nothing changes. -/
theorem withOverrides_nothing (settings : Settings) : settings.withOverrides {} = settings := rfl

end Settings

end RegistrySync
