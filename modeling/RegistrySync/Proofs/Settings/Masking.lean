/-
What a choice hides of the environment.

A choice for one run stands above the variable of its field, so the variable should not matter.
What it says indeed does not. But it is read all the same, and if it cannot be read, the settings
are refused for it.

* `Overrides.masks` — the variables that stand below the choices;
* `SameUnmasked` — environments that differ in such variables only;
* `faultIn?`, `environmentFault?` — why a variable, and why an environment, cannot be read;
* `environmentFault?_eq_none_iff` — there is such a reason exactly for a malformed variable;
* `resolve_of_fault` — a variable that cannot be read is the outcome, whatever is chosen;
* `withOverrides_congr` — what the masked variables say does not reach the settings;
* `masked_variables_hidden` — the outcome depends on the masked variables by their faults alone;
* `masked_port_refused` — but on these it does depend.
-/
import RegistrySync.Proofs.Settings.Layering

namespace RegistrySync

/-- Whether a variable stands below a choice that is made. -/
def Overrides.masks (chosen : Overrides) : String → Bool
  | "BEACHHEAD_REDIS_HOST" => chosen.registryHost.isSome
  | "BEACHHEAD_REDIS_PORT" => chosen.registryPort.isSome
  | "BEACHHEAD_REDIS_DB" => chosen.registryDb.isSome
  | "BEACHHEAD_REDIS_PASSWORD" => chosen.registryPassword.isSome
  | "BEACHHEAD_KEY_PREFIX" => chosen.keyPrefix.isSome
  | "BEACHHEAD_EXPIRE" => chosen.expire.isSome
  | "BEACHHEAD_REFRESH" => chosen.refresh.isSome
  | "BEACHHEAD_ENVVAR" => chosen.envVar.isSome
  | "BEACHHEAD_DOCKER_URL" => chosen.daemonUrl.isSome
  | "BEACHHEAD_DOCKER_NETWORK" => chosen.useNames.isSome
  | "BEACHHEAD_ENUMERATE" => chosen.enumerate.isSome
  | "BEACHHEAD_MISSING_ENVVAR" => chosen.missingVariable.isSome
  | "BEACHHEAD_MISSING_CONTAINER" => chosen.missingContainer.isSome
  | _ => false

/-- Environments that differ in variables below the choices only. -/
def SameUnmasked (chosen : Overrides) (env other : Environment) : Prop :=
  ∀ name, chosen.masks name = false → env.value? name = other.value? name

theorem sameUnmasked_set {chosen : Overrides} {name : String} (h : chosen.masks name = true)
    (env : Environment) (value : String) : SameUnmasked chosen env (env.set name value) := by
  intro unmasked hu
  have hne : unmasked ≠ name := by
    rintro rfl
    rw [h] at hu
    cases hu
  exact (env.value?_set_other hne value).symm

namespace Settings

variable {α ε : Type} {env other : Environment} {chosen : Overrides}

/-! ### Faults of variables -/

/-- Why there is no value, if there is none. -/
def faultOf? : Except ε α → Option ε
  | .error fault => some fault
  | .ok _ => none

/-- Why the value of a variable cannot be read. Only these six can have one that cannot. -/
def faultIn? (env : Environment) : String → Option SettingFault
  | "BEACHHEAD_EXPIRE" => faultOf? (expireIn env)
  | "BEACHHEAD_REDIS_PORT" => faultOf? (registryPortIn env)
  | "BEACHHEAD_REDIS_DB" => faultOf? (registryDbIn env)
  | "BEACHHEAD_REFRESH" => faultOf? (refreshIn env)
  | "BEACHHEAD_MISSING_ENVVAR" => faultOf? (missingVariableIn env)
  | "BEACHHEAD_MISSING_CONTAINER" => faultOf? (missingContainerIn env)
  | _ => none

/-- The variables that can have values that cannot be read, in the order in which they are. -/
def strictVariables : List String :=
  ["BEACHHEAD_EXPIRE", "BEACHHEAD_REDIS_PORT", "BEACHHEAD_REDIS_DB", "BEACHHEAD_REFRESH",
    "BEACHHEAD_MISSING_ENVVAR", "BEACHHEAD_MISSING_CONTAINER"]

/-- Why an environment cannot be read: the first fault of its variables. -/
def environmentFault? (env : Environment) : Option SettingFault :=
  strictVariables.findSome? (faultIn? env)

theorem faultOf?_eq_some_iff {outcome : Except ε α} {fault : ε} :
    faultOf? outcome = some fault ↔ outcome = .error fault := by
  cases outcome with
  | error other => simp [faultOf?]
  | ok value => simp [faultOf?]

theorem faultOf?_fromEnvironment (env : Environment) :
    faultOf? (fromEnvironment env) = environmentFault? env := by
  unfold fromEnvironment environmentFault? strictVariables
  simp only [List.findSome?_cons, List.findSome?_nil, faultIn?]
  -- Where a variable cannot be read, both sides stop at it.
  rcases expireIn env with fault | expire
  · rfl
  rcases registryPortIn env with fault | port
  · rfl
  rcases registryDbIn env with fault | db
  · rfl
  rcases refreshIn env with fault | refresh
  · rfl
  rcases missingVariableIn env with fault | missingVariable
  · rfl
  rcases missingContainerIn env with fault | missingContainer
  · rfl
  rfl

theorem environmentFault?_eq_some_iff {fault : SettingFault} :
    environmentFault? env = some fault ↔ fromEnvironment env = .error fault := by
  rw [← faultOf?_fromEnvironment, faultOf?_eq_some_iff]

theorem environmentFault?_eq_none_iff : environmentFault? env = none ↔ ¬Malformed env.value? := by
  rw [← faultOf?_fromEnvironment]
  constructor
  · intro h
    cases hread : fromEnvironment env with
    | error fault =>
      rw [hread] at h
      cases h
    | ok below => exact (fromEnvironment_eq_ok_iff.1 hread).1
  · intro hm
    rw [fromEnvironment_eq_ok_iff.2 ⟨hm, rfl⟩]
    rfl

theorem fromEnvironment_of_no_fault (h : environmentFault? env = none) :
    fromEnvironment env = .ok (settingsOf env.value?) :=
  fromEnvironment_eq_ok_iff.2 ⟨environmentFault?_eq_none_iff.1 h, rfl⟩

theorem environmentFault?_congr
    (h : ∀ name ∈ strictVariables, faultIn? env name = faultIn? other name) :
    environmentFault? env = environmentFault? other := by
  rw [environmentFault?, environmentFault?, ← List.head?_filterMap, ← List.head?_filterMap,
    List.filterMap_congr h]

/-- What a variable says depends on nothing else. -/
theorem faultIn?_congr {name : String} (h : env.value? name = other.value? name) :
    faultIn? env name = faultIn? other name := by
  -- All ways to read a variable go through its text.
  have htext : env.text? name = other.text? name := by rw [Environment.text?, h]; rfl
  have hinteger : env.integer? name = other.integer? name := by
    rw [Environment.integer?, htext]; rfl
  have hchoice : ∀ {β : Type} (default : β) (ofWord? : String → Option β) (words : List String),
      env.choice name default ofWord? words = other.choice name default ofWord? words := by
    intro β default ofWord? words
    rw [Environment.choice, htext]; rfl
  unfold faultIn?
  split
  · rw [expireIn, hinteger]; rfl
  · rw [registryPortIn, htext]; rfl
  · rw [registryDbIn, hinteger]; rfl
  · rw [refreshIn, hinteger]; rfl
  · rw [missingVariableIn, hchoice]; rfl
  · rw [missingContainerIn, hchoice]; rfl
  · rfl

/-! ### Outcomes -/

/-- A variable that cannot be read is what settings are refused for, whatever is chosen. -/
theorem resolve_of_fault {fault : SettingFault} (h : environmentFault? env = some fault)
    (chosen : Overrides) : resolve env chosen = .error fault :=
  resolve_eq_error_iff.2 (Or.inl (environmentFault?_eq_some_iff.1 h))

theorem fault_of_resolve {fault : SettingFault} (h : resolve env chosen = .error fault)
    (hf : fault ∈ environmentFaults) : environmentFault? env = some fault := by
  rcases resolve_eq_error_iff.1 h with hread | ⟨rfl, -⟩
  · exact environmentFault?_eq_some_iff.2 hread
  · exact absurd hf (by decide)

theorem mem_of_environmentFault? {fault : SettingFault} (h : environmentFault? env = some fault) :
    fault ∈ environmentFaults :=
  mem_environmentFaults (environmentFault?_eq_some_iff.1 h)

/-! ### Choices above variables -/

theorem getD_congr {choice : Option α} {a b : α} (h : choice = none → a = b) :
    choice.getD a = choice.getD b := by
  cases choice with
  | none => exact h rfl
  | some value => rfl

theorem or_congr_of_none {choice a b : Option α} (h : choice = none → a = b) :
    (choice <|> a) = (choice <|> b) := by
  cases choice with
  | none => exact h rfl
  | some value => rfl

/-- What the masked variables say does not reach the settings. -/
theorem withOverrides_congr (h : SameUnmasked chosen env other) :
    (settingsOf env.value?).withOverrides chosen =
      (settingsOf other.value?).withOverrides chosen := by
  -- Where no choice is made, the variable of the field is the same in both.
  have below {β : Type} {choice : Option β} (name : String)
      (hm : chosen.masks name = choice.isSome) (hnone : choice = none) :
      env.value? name = other.value? name := by
    refine h name ?_
    rw [hm, hnone]
    rfl
  unfold withOverrides settingsOf
  congr 1
  case e_registryHost => exact getD_congr fun hc => by rw [below "BEACHHEAD_REDIS_HOST" rfl hc]
  case e_registryPort => exact getD_congr fun hc => by rw [below "BEACHHEAD_REDIS_PORT" rfl hc]
  case e_registryDb => exact getD_congr fun hc => by rw [below "BEACHHEAD_REDIS_DB" rfl hc]
  case e_registryPassword =>
    exact or_congr_of_none fun hc => by rw [below "BEACHHEAD_REDIS_PASSWORD" rfl hc]
  case e_keyPrefix => exact getD_congr fun hc => by rw [below "BEACHHEAD_KEY_PREFIX" rfl hc]
  case e_expire =>
    exact getD_congr fun hc => by rw [below "BEACHHEAD_EXPIRE" rfl (Option.map_eq_none_iff.1 hc)]
  case e_refresh => exact or_congr_of_none fun hc => by rw [below "BEACHHEAD_REFRESH" rfl hc]
  case e_envVar => exact getD_congr fun hc => by rw [below "BEACHHEAD_ENVVAR" rfl hc]
  case e_daemonUrl => exact or_congr_of_none fun hc => by rw [below "BEACHHEAD_DOCKER_URL" rfl hc]
  case e_useNames => exact getD_congr fun hc => by rw [below "BEACHHEAD_DOCKER_NETWORK" rfl hc]
  case e_enumerate => exact getD_congr fun hc => by rw [below "BEACHHEAD_ENUMERATE" rfl hc]
  case e_missingVariable =>
    exact getD_congr fun hc => by rw [below "BEACHHEAD_MISSING_ENVVAR" rfl hc]
  case e_missingContainer =>
    exact getD_congr fun hc => by rw [below "BEACHHEAD_MISSING_CONTAINER" rfl hc]

theorem resolve_congr (h : SameUnmasked chosen env other) (hn : environmentFault? env = none)
    (hn' : environmentFault? other = none) : resolve env chosen = resolve other chosen := by
  rw [resolve, resolve, fromEnvironment_of_no_fault hn, fromEnvironment_of_no_fault hn']
  show (let settings := (settingsOf env.value?).withOverrides chosen
    resolveRefresh settings.expire settings.refresh >>= _) = _
  rw [withOverrides_congr h]
  rfl

theorem resolve_eq_iff (h : SameUnmasked chosen env other) :
    resolve env chosen = resolve other chosen ↔
      environmentFault? env = environmentFault? other := by
  constructor
  · -- The fault of a variable cannot be mistaken for that of an expiry.
    intro hsame
    cases hf : environmentFault? env with
    | some fault =>
      have hresolve := resolve_of_fault hf chosen
      exact (fault_of_resolve (hsame ▸ hresolve) (mem_of_environmentFault? hf)).symm
    | none =>
      cases hf' : environmentFault? other with
      | none => rfl
      | some fault =>
        have hresolve := resolve_of_fault hf' chosen
        have hback := fault_of_resolve (hsame.symm ▸ hresolve) (mem_of_environmentFault? hf')
        rw [hf] at hback
        cases hback
  · intro hfault
    cases hf : environmentFault? env with
    | some fault =>
      rw [resolve_of_fault hf, resolve_of_fault (hfault ▸ hf)]
    | none => exact resolve_congr h hf (hfault ▸ hf)

/-- Choices hide what the variables below them say. Whatever is in force, or what the settings are
refused for, is the same with any other values of these variables, as long as they can be read, or
cannot be read for the same reasons. In general it is the same exactly if the first variable that
cannot be read, masked or not, is the same and for the same reason. -/
theorem masked_variables_hidden (h : SameUnmasked chosen env other) :
    ((∀ name ∈ strictVariables, chosen.masks name = true →
        faultIn? env name = faultIn? other name) →
      resolve env chosen = resolve other chosen) ∧
    (resolve env chosen = resolve other chosen ↔
      environmentFault? env = environmentFault? other) := by
  refine ⟨fun hmasked => (resolve_eq_iff h).2 (environmentFault?_congr fun name hn => ?_),
    resolve_eq_iff h⟩
  cases hm : chosen.masks name with
  | true => exact hmasked name hn hm
  | false => exact faultIn?_congr (h name hm)

theorem masked_variables_hidden_port :
    let chosen : Overrides := { registryPort := some 6380, expire := some 100 }
    let env : Environment := [("BEACHHEAD_REDIS_HOST", "db"), ("BEACHHEAD_EXPIRE", "0")]
    let other := env.set "BEACHHEAD_REDIS_PORT" "7000"
    SameUnmasked chosen env other ∧
      (∀ name ∈ strictVariables, chosen.masks name = true →
        faultIn? env name = faultIn? other name) ∧
      resolve env chosen = resolve other chosen ∧
      resolve other chosen = .ok
        { registryHost := "db", registryPort := 6380, expire := some 100, refresh := some 45 } := by
  intro chosen env other
  have hsame : SameUnmasked chosen env other := sameUnmasked_set rfl env "7000"
  have hmasked : ∀ name ∈ strictVariables, chosen.masks name = true →
      faultIn? env name = faultIn? other name := by decide +kernel
  exact ⟨hsame, hmasked, (masked_variables_hidden hsame).1 hmasked, by decide +kernel⟩

/-- A port that is chosen does not hide a variable that is no port. -/
theorem masked_port_refused :
    let chosen : Overrides := { registryPort := some 6380 }
    let env : Environment := []
    let other := env.set "BEACHHEAD_REDIS_PORT" "abc"
    SameUnmasked chosen env other ∧
      resolve env chosen = .ok { registryPort := 6380, refresh := some 27 } ∧
      resolve other chosen = .error (.unreadablePort "BEACHHEAD_REDIS_PORT") :=
  ⟨sameUnmasked_set rfl [] "abc", by decide +kernel, by decide +kernel⟩

end Settings

end RegistrySync
