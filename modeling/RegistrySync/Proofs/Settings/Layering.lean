/-
The settings in force, layer by layer.

Lowest are the defaults. Above them are the variables of an environment file, above these the
variables of the process, and highest the choices made for one run.

* `filled?`, `said?`, `Unreadable` — what the value of a variable says, if anything;
* `layered` — one setting, through all layers;
* `InForce` — all settings, from the variables and the choices;
* `Malformed`, `NoInterval` — why there are none;
* `integer?_eq_ok_iff`, `registryPortIn_eq_ok_iff`, `choice_eq_ok_iff` — when a variable can be
  read;
* `Adds`, `adds_load` — an environment file only adds variables;
* `resolve_layers` — the settings are resolved in these layers, and refused for these reasons.
-/
import RegistrySync.EnvFile.Load
import RegistrySync.Proofs.Settings.Refusal
import RegistrySync.Proofs.Task
import RegistrySync.Proofs.Text.Blank

namespace RegistrySync

namespace Settings

variable {α : Type}

/-! ### Variables -/

/-- A value without the blanks around it, unless it is blank. -/
def filled? (value : Option String) : Option String := (value.map Text.strip).filter (· ≠ "")

/-- What a value says that is not blank. -/
def said? (read : String → Option α) (value : Option String) : Option α := (filled? value).bind read

/-- A value that is not blank, but cannot be read. -/
def Unreadable (read : String → Option α) (value : Option String) : Prop :=
  ∃ text, filled? value = some text ∧ read text = none

/-- A text as an integer. -/
def integerIn? (text : String) : Option Int := Text.readInt? text.toList

/-- A text as a port. -/
def portIn? (text : String) : Option Int :=
  (integerIn? text).filter fun port => 0 < port ∧ port ≤ 65535

/-- A text as a flag: no unless it is a word for yes. -/
def flagIn? (text : String) : Option Bool := some (Text.lowerCase text ∈ yesWords)

/-- A text as the value of a policy, whatever its case. -/
def policyIn? (ofWord? : String → Option α) (text : String) : Option α :=
  ofWord? (Text.lowerCase text)

/-! ### Layers -/

/-- One setting: the choice for this run if there is one, else what its variable tells, else the
default. -/
def layered (chosen told : Option α) (default : α) : α := (chosen <|> told).getD default

section

variable (value? : String → Option String) (chosen : Overrides)

/-- The expiry of all layers; zero is for none. -/
def layeredExpire : Option Int :=
  let seconds := layered chosen.expire (said? integerIn? (value? "BEACHHEAD_EXPIRE")) 60
  if seconds = 0 then none else some seconds

/-- The interval of all layers, if one is chosen at all. -/
def layeredRefresh : Option Int :=
  chosen.refresh <|> said? integerIn? (value? "BEACHHEAD_REFRESH")

/-- The interval in force: zero is for a single cycle, and without a choice it follows from the
expiry. -/
def intervalOf (expire : Option Int) : Option Int → Option Int
  | some seconds => if seconds = 0 then none else some seconds
  | none => expire.bind defaultRefresh?

/-- The settings that variables with these values and the choices for one run give. -/
structure InForce (settings : Settings) : Prop where
  registryHost : settings.registryHost =
    layered chosen.registryHost (filled? (value? "BEACHHEAD_REDIS_HOST")) "localhost"
  registryPort : settings.registryPort =
    layered chosen.registryPort (said? portIn? (value? "BEACHHEAD_REDIS_PORT")) 6379
  registryDb : settings.registryDb =
    layered chosen.registryDb (said? integerIn? (value? "BEACHHEAD_REDIS_DB")) 0
  /-- A password may be blank, but not empty. -/
  registryPassword : settings.registryPassword =
    (chosen.registryPassword <|> (value? "BEACHHEAD_REDIS_PASSWORD").filter (· ≠ ""))
  /-- Any prefix that is set counts. -/
  keyPrefix : settings.keyPrefix =
    layered chosen.keyPrefix (value? "BEACHHEAD_KEY_PREFIX") "beachhead:"
  expire : settings.expire = layeredExpire value? chosen
  /-- The interval follows from what all layers give. -/
  refresh : settings.refresh = intervalOf settings.expire (layeredRefresh value? chosen)
  envVar : settings.envVar =
    layered chosen.envVar (filled? (value? "BEACHHEAD_ENVVAR")) "BEACHHEAD_DOMAINS"
  daemonUrl : settings.daemonUrl =
    (chosen.daemonUrl <|> filled? (value? "BEACHHEAD_DOCKER_URL"))
  useNames : settings.useNames =
    layered chosen.useNames (said? flagIn? (value? "BEACHHEAD_DOCKER_NETWORK")) false
  /-- No variable stands for a dry run. -/
  dryRun : settings.dryRun = chosen.dryRun.getD false
  enumerate : settings.enumerate =
    layered chosen.enumerate (said? flagIn? (value? "BEACHHEAD_ENUMERATE")) false
  missingVariable : settings.missingVariable =
    layered chosen.missingVariable
      (said? (policyIn? MissingVariable.ofWord?) (value? "BEACHHEAD_MISSING_ENVVAR")) .automatic
  missingContainer : settings.missingContainer =
    layered chosen.missingContainer
      (said? (policyIn? MissingContainer.ofWord?) (value? "BEACHHEAD_MISSING_CONTAINER")) .ignore

/-- A variable that must be an integer, a port or a policy is none. -/
inductive Malformed : Prop
  | integer {name : String}
      (hn : name ∈ ["BEACHHEAD_EXPIRE", "BEACHHEAD_REDIS_DB", "BEACHHEAD_REFRESH"])
      (h : Unreadable integerIn? (value? name))
  | port (h : Unreadable portIn? (value? "BEACHHEAD_REDIS_PORT"))
  | missingVariable
      (h : Unreadable (policyIn? MissingVariable.ofWord?) (value? "BEACHHEAD_MISSING_ENVVAR"))
  | missingContainer
      (h : Unreadable (policyIn? MissingContainer.ofWord?) (value? "BEACHHEAD_MISSING_CONTAINER"))

/-- No interval is chosen in any layer, and the expiry of all layers gives none. -/
def NoInterval : Prop :=
  layeredRefresh value? chosen = none ∧
    ∃ seconds, layeredExpire value? chosen = some seconds ∧ defaultRefresh? seconds = none

end

/-! ### Reading a variable -/

variable {env : Environment}

theorem filled?_of_blank {value : String} (h : Text.strip value = "") :
    filled? (some value) = none := by
  rw [filled?, Option.map_some, h]
  rfl

theorem filled?_of_not_blank {value : String} (h : Text.strip value ≠ "") :
    filled? (some value) = some (Text.strip value) :=
  Option.filter_eq_some_iff.2 ⟨rfl, decide_eq_true h⟩

theorem text?_eq (name : String) : env.text? name = filled? (env.value? name) := by
  unfold Environment.text?
  cases env.value? name with
  | none => rfl
  | some value =>
    by_cases hv : Text.strip value = ""
    · rw [filled?_of_blank hv, Option.map_some, hv]
      rfl
    · rw [filled?_of_not_blank hv]
      exact Option.filter_eq_some_iff.2 ⟨rfl, by simpa [String.isEmpty_iff] using hv⟩

theorem said?_cases (read : String → Option α) (value : Option String) :
    (filled? value = none ∧ said? read value = none ∧ ¬Unreadable read value) ∨
      (∃ text meant, filled? value = some text ∧ read text = some meant ∧
        said? read value = some meant ∧ ¬Unreadable read value) ∨
      ∃ text, filled? value = some text ∧ read text = none ∧ Unreadable read value := by
  unfold said? Unreadable
  cases hf : filled? value with
  | none => simp
  | some text =>
    cases hr : read text with
    | none => simp [hr]
    | some meant => simp [hr]

theorem integer?_eq_ok_iff {name : String} {number : Option Int} :
    env.integer? name = .ok number ↔
      ¬Unreadable integerIn? (env.value? name) ∧
        number = said? integerIn? (env.value? name) := by
  unfold Environment.integer?
  rw [text?_eq]
  rcases said?_cases integerIn? (env.value? name) with
    ⟨hf, hs, hu⟩ | ⟨text, meant, hf, hr, hs, hu⟩ | ⟨text, hf, hr, hu⟩
  · simp [hf, hs, hu, eq_comm]
  · rw [integerIn?] at hr
    simp [hf, hr, hs, hu, eq_comm]
  · rw [integerIn?] at hr
    simp [hf, hr, hu]

theorem choice_eq_ok_iff {name : String} {default meant : α} {ofWord? : String → Option α}
    {words : List String} :
    env.choice name default ofWord? words = .ok meant ↔
      ¬Unreadable (policyIn? ofWord?) (env.value? name) ∧
        meant = (said? (policyIn? ofWord?) (env.value? name)).getD default := by
  unfold Environment.choice
  rw [text?_eq]
  rcases said?_cases (policyIn? ofWord?) (env.value? name) with
    ⟨hf, hs, hu⟩ | ⟨text, meant, hf, hr, hs, hu⟩ | ⟨text, hf, hr, hu⟩
  · simp [hf, hs, hu, eq_comm]
  · rw [policyIn?] at hr
    simp [hf, hr, hs, hu, eq_comm]
  · rw [policyIn?] at hr
    simp [hf, hr, hu]

theorem trimmed_of_filled? {value : Option String} {text : String}
    (h : filled? value = some text) : Text.Trimmed text.toList := by
  unfold filled? at h
  cases value with
  | none => cases h
  | some value =>
    obtain ⟨hstrip, -⟩ := Option.filter_eq_some_iff.1 h
    cases hstrip
    exact Text.trimmed_strip value

theorem portText_eq_ok_iff {name text : String} (ht : Text.Trimmed text.toList) {port : Int} :
    portText name text = .ok port ↔ portIn? text = some port := by
  have hread : integer? text = integerIn? text := by rw [integer?, ht.trim_eq, integerIn?]
  unfold portText portIn?
  rw [hread]
  cases hi : integerIn? text with
  | none => simp
  | some number =>
    by_cases hr : number ≤ 0 ∨ 65535 < number
    · have hout : ¬(0 < number ∧ number ≤ 65535) := by omega
      simp [hr, Option.filter, hout]
    · have hin : 0 < number ∧ number ≤ 65535 := by omega
      simp [hr, Option.filter, hin]

theorem registryPortIn_eq_ok_iff {port : Int} :
    registryPortIn env = .ok port ↔
      ¬Unreadable portIn? (env.value? "BEACHHEAD_REDIS_PORT") ∧
        port = (said? portIn? (env.value? "BEACHHEAD_REDIS_PORT")).getD 6379 := by
  unfold registryPortIn
  rw [text?_eq]
  rcases said?_cases portIn? (env.value? "BEACHHEAD_REDIS_PORT") with
    ⟨hf, hs, hu⟩ | ⟨text, meant, hf, hr, hs, hu⟩ | ⟨text, hf, hr, hu⟩
  · simp [hf, hs, hu, eq_comm]
  · simp [hf, hs, hu, portText_eq_ok_iff (trimmed_of_filled? hf), hr, eq_comm]
  · simp [hf, hu, portText_eq_ok_iff (trimmed_of_filled? hf), hr]

/-! ### The environment -/

/-- The settings that variables with these values give. -/
def settingsOf (value? : String → Option String) : Settings where
  registryHost := (filled? (value? "BEACHHEAD_REDIS_HOST")).getD "localhost"
  registryPort := (said? portIn? (value? "BEACHHEAD_REDIS_PORT")).getD 6379
  registryDb := (said? integerIn? (value? "BEACHHEAD_REDIS_DB")).getD 0
  registryPassword := (value? "BEACHHEAD_REDIS_PASSWORD").filter (· ≠ "")
  keyPrefix := (value? "BEACHHEAD_KEY_PREFIX").getD "beachhead:"
  expire := expireOf ((said? integerIn? (value? "BEACHHEAD_EXPIRE")).getD 60)
  refresh := said? integerIn? (value? "BEACHHEAD_REFRESH")
  envVar := (filled? (value? "BEACHHEAD_ENVVAR")).getD "BEACHHEAD_DOMAINS"
  daemonUrl := filled? (value? "BEACHHEAD_DOCKER_URL")
  useNames := (said? flagIn? (value? "BEACHHEAD_DOCKER_NETWORK")).getD false
  enumerate := (said? flagIn? (value? "BEACHHEAD_ENUMERATE")).getD false
  missingVariable :=
    (said? (policyIn? MissingVariable.ofWord?) (value? "BEACHHEAD_MISSING_ENVVAR")).getD .automatic
  missingContainer :=
    (said? (policyIn? MissingContainer.ofWord?) (value? "BEACHHEAD_MISSING_CONTAINER")).getD .ignore

theorem registryPasswordIn_eq :
    registryPasswordIn env = (env.value? "BEACHHEAD_REDIS_PASSWORD").filter (· ≠ "") := by
  unfold registryPasswordIn
  cases env.value? "BEACHHEAD_REDIS_PASSWORD" with
  | none => rfl
  | some password => by_cases hp : password = "" <;> simp [Option.filter, hp]

theorem flag_eq (name : String) :
    env.flag name = (said? flagIn? (env.value? name)).getD false := by
  unfold Environment.flag said?
  cases env.value? name with
  | none => simp [filled?]
  | some value =>
    rw [Option.bind_some]
    by_cases hv : Text.strip value = ""
    · have hnone : flagWord? value = none := by
        rw [flagWord?, hv]
        decide
      rw [hnone, filled?_of_blank hv]
      rfl
    · rw [filled?_of_not_blank hv, Option.bind_some, flagIn?, flagWord?]
      -- A word for no and a word for neither come to the same.
      by_cases hyes : Text.lowerCase (Text.strip value) ∈ yesWords
      · simp [hyes]
      · by_cases hno : Text.lowerCase (Text.strip value) ∈ noWords <;> simp [hyes, hno]

theorem integer?_getD_eq_ok_iff {name : String} {default number : Int} :
    (do return (← env.integer? name).getD default : Except SettingFault Int) = .ok number ↔
      ¬Unreadable integerIn? (env.value? name) ∧
        number = (said? integerIn? (env.value? name)).getD default := by
  constructor
  · intro h
    obtain ⟨read, hread, h⟩ := exists_ok_of_bind h
    obtain ⟨hu, rfl⟩ := integer?_eq_ok_iff.1 hread
    exact ⟨hu, (Except.ok.inj h).symm⟩
  · rintro ⟨hu, rfl⟩
    rw [integer?_eq_ok_iff.2 ⟨hu, rfl⟩]
    rfl

/-- An environment is read exactly if none of its variables is malformed, and then as they say. -/
theorem fromEnvironment_eq_ok_iff {below : Settings} :
    fromEnvironment env = .ok below ↔ ¬Malformed env.value? ∧ below = settingsOf env.value? := by
  constructor
  · intro h
    -- The variables are read one after another, and each has to be readable for the next to be
    -- read.
    obtain ⟨expire, hexpire, h⟩ := exists_ok_of_bind h
    obtain ⟨port, hport, h⟩ := exists_ok_of_bind h
    obtain ⟨db, hdb, h⟩ := exists_ok_of_bind h
    obtain ⟨refresh, hrefresh, h⟩ := exists_ok_of_bind h
    obtain ⟨missingVariable, hvariable, h⟩ := exists_ok_of_bind h
    obtain ⟨missingContainer, hcontainer, h⟩ := exists_ok_of_bind h
    obtain ⟨uexpire, rfl⟩ := integer?_getD_eq_ok_iff.1 hexpire
    obtain ⟨uport, rfl⟩ := registryPortIn_eq_ok_iff.1 hport
    obtain ⟨udb, rfl⟩ := integer?_getD_eq_ok_iff.1 hdb
    obtain ⟨urefresh, rfl⟩ := integer?_eq_ok_iff.1 hrefresh
    obtain ⟨uvariable, rfl⟩ := choice_eq_ok_iff.1 hvariable
    obtain ⟨ucontainer, rfl⟩ := choice_eq_ok_iff.1 hcontainer
    refine ⟨fun hm => ?_, ?_⟩
    · -- Nothing else can be malformed than what has just been read.
      cases hm with
      | integer hn hu =>
        simp only [List.mem_cons, List.not_mem_nil, or_false] at hn
        rcases hn with rfl | rfl | rfl
        · exact uexpire hu
        · exact udb hu
        · exact urefresh hu
      | port hu => exact uport hu
      | missingVariable hu => exact uvariable hu
      | missingContainer hu => exact ucontainer hu
    · cases h
      simp only [registryHostIn, registryPasswordIn_eq, keyPrefixIn, envVarIn, daemonUrlIn,
        useNamesIn, enumerateIn, text?_eq, flag_eq, settingsOf]
  · rintro ⟨hm, rfl⟩
    have hexpire : expireIn env = .ok _ :=
      integer?_getD_eq_ok_iff.2 ⟨fun hu => hm (.integer (by decide) hu), rfl⟩
    have hport := registryPortIn_eq_ok_iff.2 ⟨fun hu => hm (.port hu), rfl⟩
    have hdb : registryDbIn env = .ok _ :=
      integer?_getD_eq_ok_iff.2 ⟨fun hu => hm (.integer (by decide) hu), rfl⟩
    have hrefresh : refreshIn env = .ok _ :=
      integer?_eq_ok_iff.2 ⟨fun hu => hm (.integer (by decide) hu), rfl⟩
    have hvariable : missingVariableIn env = .ok _ :=
      choice_eq_ok_iff.2 ⟨fun hu => hm (.missingVariable hu), rfl⟩
    have hcontainer : missingContainerIn env = .ok _ :=
      choice_eq_ok_iff.2 ⟨fun hu => hm (.missingContainer hu), rfl⟩
    rw [fromEnvironment, hexpire, hport, hdb, hrefresh, hvariable, hcontainer]
    refine congrArg Except.ok ?_
    simp only [registryHostIn, registryPasswordIn_eq, keyPrefixIn, envVarIn, daemonUrlIn,
      useNamesIn, enumerateIn, text?_eq, flag_eq, settingsOf]

/-! ### All layers -/

variable {chosen : Overrides}

theorem expire_withOverrides (value? : String → Option String) :
    ((settingsOf value?).withOverrides chosen).expire = layeredExpire value? chosen := by
  unfold layeredExpire layered
  show (chosen.expire.map expireOf).getD
    (expireOf ((said? integerIn? (value? "BEACHHEAD_EXPIRE")).getD 60)) = _
  cases chosen.expire <;> rfl

theorem refresh_withOverrides (value? : String → Option String) :
    ((settingsOf value?).withOverrides chosen).refresh = layeredRefresh value? chosen := rfl

theorem intervalOf_of_resolveRefresh {expire refresh interval : Option Int}
    (h : resolveRefresh expire refresh = .ok interval) : interval = intervalOf expire refresh := by
  unfold resolveRefresh at h
  unfold intervalOf
  split at h
  · exact (Except.ok.inj h).symm
  · split at h
    · exact (Except.ok.inj h).symm
    · split at h
      · rename_i hdefault
        rw [Option.bind_some, hdefault]
        exact (Except.ok.inj h).symm
      · cases h

/-- A choice stands above what a variable tells, and both above the default. -/
theorem getD_layered (chosen told : Option α) (default : α) :
    chosen.getD (told.getD default) = layered chosen told default := by
  cases chosen <;> rfl

theorem inForce_of_resolve {settings : Settings} (h : resolve env chosen = .ok settings) :
    InForce env.value? chosen settings := by
  obtain ⟨below, hbelow, h⟩ := exists_ok_of_bind h
  obtain ⟨-, rfl⟩ := fromEnvironment_eq_ok_iff.1 hbelow
  obtain ⟨interval, hinterval, h⟩ := exists_ok_of_bind h
  -- The interval is worked out from the layers, not from the environment alone.
  have hrefresh := intervalOf_of_resolveRefresh hinterval
  rw [expire_withOverrides, refresh_withOverrides] at hrefresh
  obtain rfl := Except.ok.inj h
  exact {
    registryHost := getD_layered _ _ _
    registryPort := getD_layered _ _ _
    registryDb := getD_layered _ _ _
    registryPassword := rfl
    keyPrefix := getD_layered _ _ _
    expire := expire_withOverrides _
    refresh := by rw [hrefresh, expire_withOverrides]
    envVar := getD_layered _ _ _
    daemonUrl := rfl
    useNames := getD_layered _ _ _
    dryRun := rfl
    enumerate := getD_layered _ _ _
    missingVariable := getD_layered _ _ _
    missingContainer := getD_layered _ _ _ }

theorem noInterval_iff (hm : ¬Malformed env.value?) :
    NoInterval env.value? chosen ↔ ExpireTooLarge env chosen := by
  have hread : fromEnvironment env = .ok (settingsOf env.value?) :=
    fromEnvironment_eq_ok_iff.2 ⟨hm, rfl⟩
  unfold NoInterval ExpireTooLarge
  constructor
  · rintro ⟨hrefresh, seconds, hexpire, hnone⟩
    exact ⟨_, seconds, hread, hrefresh, (expire_withOverrides _).trans hexpire,
      defaultRefresh?_eq_none_iff.1 hnone⟩
  · rintro ⟨below, seconds, hbelow, hrefresh, hexpire, hlarge⟩
    cases hread.symm.trans hbelow
    exact ⟨hrefresh, seconds, (expire_withOverrides _).symm.trans hexpire,
      defaultRefresh?_eq_none_iff.2 hlarge⟩

/-- Settings are refused exactly for a malformed variable or for want of an interval. -/
theorem exists_refusal_iff :
    (∃ fault, resolve env chosen = .error fault) ↔
      Malformed env.value? ∨ NoInterval env.value? chosen := by
  constructor
  · rintro ⟨fault, h⟩
    by_cases hm : Malformed env.value?
    · exact Or.inl hm
    · rcases resolve_eq_error_iff.1 h with hread | ⟨-, hlarge⟩
      · rw [fromEnvironment_eq_ok_iff.2 ⟨hm, rfl⟩] at hread
        cases hread
      · exact Or.inr ((noInterval_iff hm).2 hlarge)
  · intro h
    by_cases hm : Malformed env.value?
    · cases hread : fromEnvironment env with
      | error fault => exact ⟨fault, resolve_eq_error_iff.2 (Or.inl hread)⟩
      | ok below => exact absurd hm (fromEnvironment_eq_ok_iff.1 hread).1
    · exact ⟨_, resolve_eq_error_iff.2 (Or.inr ⟨rfl, (noInterval_iff hm).1 (h.resolve_left hm)⟩)⟩

end Settings

/-! ### Environment files -/

/-- An environment with variables added to it, where those that were there stay as they were. -/
def Adds (env loaded : Environment) : Prop :=
  ∀ name value, env.value? name = some value → loaded.value? name = some value

theorem Adds.refl (env : Environment) : Adds env env := fun _ _ h => h

theorem Adds.trans {a b c : Environment} (hab : Adds a b) (hbc : Adds b c) : Adds a c :=
  fun name value h => hbc name value (hab name value h)

theorem Environment.value?_set_other (env : Environment) {name other : String} (h : other ≠ name)
    (value : String) : (env.set name value).value? other = env.value? other := by
  have hne : (other == name) = false := by simpa using h
  unfold Environment.value? Environment.set
  rw [List.lookup_cons, hne]
  -- What is left of the variables are all but the one that is set.
  induction env with
  | nil => rfl
  | cons pair rest ih =>
    by_cases hp : pair.1 = name
    · have hother : (other == pair.1) = false := by rw [hp]; exact hne
      rw [List.filter_cons_of_neg (by simpa using hp), List.lookup_cons, hother]
      exact ih
    · rw [List.filter_cons_of_pos (by simpa using hp), List.lookup_cons, List.lookup_cons]
      cases other == pair.1 with
      | true => rfl
      | false => exact ih

theorem adds_set {env : Environment} {name : String} (h : env.value? name = none)
    (value : String) : Adds env (env.set name value) := by
  intro other found hfound
  have hne : other ≠ name := by
    rintro rfl
    rw [h] at hfound
    cases hfound
  rw [Environment.value?_set_other env hne, hfound]

namespace EnvFile

theorem adds_addBindings {env loaded : Environment} {bindings : Bindings}
    (h : addBindings env bindings = .ok loaded) : Adds env loaded := by
  -- The environment grows with each binding, so it is not fixed.
  induction bindings generalizing env with
  | nil =>
    cases h
    exact .refl _
  | cons binding rest ih =>
    obtain ⟨name, value⟩ := binding
    cases value with
    | none => exact ih h
    | some value =>
      rw [addBindings] at h
      split at h
      · exact ih h
      · rename_i hset
        split at h
        · cases h
        · have hnone : env.value? name = none := by simpa using hset
          exact (adds_set hnone value).trans (ih h)

theorem adds_load {files : Files.Tree} {cwd : List String} {env loaded : Environment}
    {path : Option String} (h : (load files cwd env path).2 = .ok loaded) : Adds env loaded := by
  unfold load at h
  split at h
  · cases h
    exact .refl _
  · simp only at h
    split at h
    · cases h
    · split at h
      · exact adds_addBindings h
      · cases h
        exact .refl _

end EnvFile

namespace Settings

/-- The settings in force come from four layers: the choices for one run, the variables of the
process, those of an environment file, which only adds to them, and the defaults.

Where settings are resolved, each of them is the choice if there is one, else what its variable
tells, else the default; the expiry and the interval that all layers give decide on the interval in
force. Settings are refused exactly if a variable that must be an integer, a port or a policy is
none, be it needed or not, or if no interval is chosen and the expiry gives none. -/
theorem resolve_layers {env loaded : Environment} (h : Adds env loaded) (chosen : Overrides) :
    let value? := fun name => env.value? name <|> loaded.value? name
    (∀ settings, resolve loaded chosen = .ok settings → InForce value? chosen settings) ∧
      ((∃ fault, resolve loaded chosen = .error fault) ↔
        Malformed value? ∨ NoInterval value? chosen) := by
  intro value?
  have hvalue : value? = loaded.value? := by
    funext name
    show (env.value? name <|> loaded.value? name) = _
    cases hv : env.value? name with
    | none => rfl
    | some value => rw [h name value hv]; rfl
  rw [hvalue]
  exact ⟨fun settings hresolve => inForce_of_resolve hresolve, exists_refusal_iff⟩

/-- A directory with an environment file. -/
def filedTree : Files.Tree where
  nodes :=
    [(["srv"], .directory),
      (["srv", ".env"],
        .file "BEACHHEAD_REDIS_HOST=cache\nBEACHHEAD_EXPIRE=0\nBEACHHEAD_ENUMERATE=on\n")]

/-- What is loaded from it into a process that has a host of its own. -/
def filedEnvironment : Environment :=
  [("BEACHHEAD_ENUMERATE", "on"), ("BEACHHEAD_EXPIRE", "0"), ("BEACHHEAD_REDIS_HOST", "db")]

theorem resolve_layers_file :
    let env : Environment := [("BEACHHEAD_REDIS_HOST", "db")]
    let value? := fun name => env.value? name <|> filedEnvironment.value? name
    (EnvFile.load filedTree ["srv"] env none).2 = .ok filedEnvironment ∧
      resolve filedEnvironment { expire := some 100 } = .ok
        { registryHost := "db", expire := some 100, refresh := some 45, enumerate := true } ∧
      InForce value? { expire := some 100 }
        { registryHost := "db", expire := some 100, refresh := some 45, enumerate := true } ∧
      ¬(Malformed value? ∨ NoInterval value? { expire := some 100 }) := by
  intro env value?
  have hload : (EnvFile.load filedTree ["srv"] env none).2 = .ok filedEnvironment := by
    decide +kernel
  have hresolve : resolve filedEnvironment { expire := some 100 } = .ok
      { registryHost := "db", expire := some 100, refresh := some 45, enumerate := true } := by
    decide +kernel
  obtain ⟨hinForce, hrefused⟩ := resolve_layers (EnvFile.adds_load hload) { expire := some 100 }
  refine ⟨hload, hresolve, hinForce _ hresolve, fun h => ?_⟩
  obtain ⟨fault, hfault⟩ := hrefused.2 h
  cases hresolve.symm.trans hfault

end Settings

end RegistrySync
