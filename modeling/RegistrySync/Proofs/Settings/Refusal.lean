/-
Why settings are refused, and with which words.

* `mem_environmentFaults` — the faults of an environment are those of its single variables;
* `ExpireTooLarge`, `resolve_eq_expireTooLarge_iff` — the one fault that the layers can have
  together: no interval is chosen, and the expiry gives none;
* `oneLine_environmentFault`, `oneLine_problem` — whatever is refused is refused in one line.
-/
import RegistrySync.Proofs.Text.OneLine
import RegistrySync.Settings.Layers

namespace RegistrySync

open Text (OneLine)

namespace Settings

/-! ### Variables -/

/-- The faults that the variables of an environment can have. -/
def environmentFaults : List SettingFault :=
  [.notInteger "BEACHHEAD_EXPIRE", .unreadablePort "BEACHHEAD_REDIS_PORT",
    .portOutOfRange "BEACHHEAD_REDIS_PORT", .notInteger "BEACHHEAD_REDIS_DB",
    .notInteger "BEACHHEAD_REFRESH",
    .notAmong "BEACHHEAD_MISSING_ENVVAR" (MissingVariable.all.map (·.word)),
    .notAmong "BEACHHEAD_MISSING_CONTAINER" (MissingContainer.all.map (·.word))]

theorem fault_of_integer? {env : Environment} {name : String} {fault : SettingFault}
    (h : env.integer? name = .error fault) : fault = .notInteger name := by
  unfold Environment.integer? at h
  split at h
  · cases h
  · split at h
    · cases h
    · cases h
      rfl

theorem fault_of_choice {α : Type} {env : Environment} {name : String} {default : α}
    {ofWord? : String → Option α} {words : List String} {fault : SettingFault}
    (h : env.choice name default ofWord? words = .error fault) : fault = .notAmong name words := by
  unfold Environment.choice at h
  split at h
  · cases h
  · split at h
    · cases h
    · cases h
      rfl

theorem fault_of_portText {name text : String} {fault : SettingFault}
    (h : portText name text = .error fault) :
    fault = .unreadablePort name ∨ fault = .portOutOfRange name := by
  unfold portText at h
  split at h
  · cases h
    exact Or.inl rfl
  · split at h
    · cases h
      exact Or.inr rfl
    · cases h

/-- A fault of two steps is one of the first, or of the second if the first comes to a value. -/
theorem error_of_bind {ε α β : Type} {first : Except ε α} {next : α → Except ε β} {fault : ε}
    (h : first >>= next = .error fault) :
    first = .error fault ∨ ∃ value, first = .ok value ∧ next value = .error fault := by
  cases first with
  | error other =>
    cases h
    exact Or.inl rfl
  | ok value => exact Or.inr ⟨value, rfl, h⟩

theorem fault_of_integer?_getD {env : Environment} {name : String} {default : Int}
    {fault : SettingFault}
    (h : (do return (← env.integer? name).getD default : Except SettingFault Int) = .error fault) :
    fault = .notInteger name := by
  obtain hvalue | ⟨value, -, hvalue⟩ := error_of_bind h
  · exact fault_of_integer? hvalue
  · cases hvalue

theorem fault_of_registryPortIn {env : Environment} {fault : SettingFault}
    (h : registryPortIn env = .error fault) :
    fault = .unreadablePort "BEACHHEAD_REDIS_PORT" ∨
      fault = .portOutOfRange "BEACHHEAD_REDIS_PORT" := by
  unfold registryPortIn at h
  split at h
  · cases h
  · exact fault_of_portText h

/-- The faults of an environment are those of its variables, each of which is read on its own. -/
theorem mem_environmentFaults {env : Environment} {fault : SettingFault}
    (h : fromEnvironment env = .error fault) : fault ∈ environmentFaults := by
  unfold fromEnvironment at h
  obtain hexpire | ⟨expire, -, h⟩ := error_of_bind h
  · rw [fault_of_integer?_getD hexpire]
    decide
  obtain hport | ⟨port, -, h⟩ := error_of_bind h
  · rcases fault_of_registryPortIn hport with rfl | rfl <;> decide
  obtain hdb | ⟨db, -, h⟩ := error_of_bind h
  · rw [fault_of_integer?_getD hdb]
    decide
  obtain hrefresh | ⟨refresh, -, h⟩ := error_of_bind h
  · rw [fault_of_integer? hrefresh]
    decide
  obtain hvariable | ⟨missingVariable, -, h⟩ := error_of_bind h
  · rw [fault_of_choice hvariable]
    decide
  obtain hcontainer | ⟨missingContainer, -, h⟩ := error_of_bind h
  · rw [fault_of_choice hcontainer]
    decide
  · cases h

/-! ### Layers -/

/-- An expiry that no floating-point number holds, where no interval is chosen that would make up
for it. -/
def ExpireTooLarge (env : Environment) (chosen : Overrides) : Prop :=
  ∃ below expire, fromEnvironment env = .ok below ∧ (below.withOverrides chosen).refresh = none ∧
    (below.withOverrides chosen).expire = some expire ∧ fitsDouble expire.natAbs = false

theorem defaultRefresh?_eq_none_iff {expire : Int} :
    defaultRefresh? expire = none ↔ fitsDouble expire.natAbs = false := by
  unfold defaultRefresh?
  split
  · rename_i hfits
    rw [hfits]
    exact ⟨fun h => (nomatch h), fun h => (nomatch h)⟩
  · rename_i hfits
    exact ⟨fun _ => Bool.eq_false_iff.2 hfits, fun _ => rfl⟩

theorem resolveRefresh_eq_error_iff {expire refresh : Option Int} {fault : SettingFault} :
    resolveRefresh expire refresh = .error fault ↔ fault = .expireTooLarge ∧
      refresh = none ∧ ∃ seconds, expire = some seconds ∧ fitsDouble seconds.natAbs = false := by
  unfold resolveRefresh
  constructor
  · intro h
    split at h
    · cases h
    · split at h
      · cases h
      · rename_i seconds
        split at h
        · cases h
        · -- Only an interval that is worked out can fail, and only on a number that is too large
          -- for a float.
          rename_i hnone
          cases h
          exact ⟨rfl, rfl, seconds, rfl, defaultRefresh?_eq_none_iff.1 hnone⟩
  · rintro ⟨rfl, rfl, seconds, rfl, hlarge⟩
    simp only [defaultRefresh?_eq_none_iff.2 hlarge]

/-- What settings are refused for: a variable, or an expiry that is too large. -/
theorem resolve_eq_error_iff {env : Environment} {chosen : Overrides} {fault : SettingFault} :
    resolve env chosen = .error fault ↔
      fromEnvironment env = .error fault ∨
        fault = .expireTooLarge ∧ ExpireTooLarge env chosen := by
  constructor
  · intro h
    obtain hbelow | ⟨below, hbelow, h⟩ := error_of_bind h
    · exact Or.inl hbelow
    · obtain hrefresh | ⟨refresh, -, h⟩ := error_of_bind h
      · obtain ⟨hfault, hnone, seconds, hexpire, hlarge⟩ := resolveRefresh_eq_error_iff.1 hrefresh
        exact Or.inr ⟨hfault, below, seconds, hbelow, hnone, hexpire, hlarge⟩
      · cases h
  · rintro (hbelow | ⟨hfault, below, seconds, hbelow, hnone, hexpire, hlarge⟩)
    · rw [resolve, hbelow]
      rfl
    · have hrefresh := resolveRefresh_eq_error_iff.2 ⟨hfault, hnone, seconds, hexpire, hlarge⟩
      rw [resolve, hbelow]
      show (resolveRefresh _ _ >>= _) = _
      rw [hrefresh]
      rfl

theorem resolve_eq_expireTooLarge_iff {env : Environment} {chosen : Overrides} :
    resolve env chosen = .error .expireTooLarge ↔ ExpireTooLarge env chosen := by
  rw [resolve_eq_error_iff]
  have hvariable : fromEnvironment env ≠ .error .expireTooLarge := fun h =>
    absurd (mem_environmentFaults h) (by decide)
  simp [hvariable]

/-! ### Words -/

theorem oneLine_environmentFault {fault : SettingFault} (h : fault ∈ environmentFaults) :
    OneLine fault.message := by
  have hall : ∀ fault ∈ environmentFaults, OneLine fault.message := by decide +kernel
  exact hall fault h

theorem oneLine_problem (problem : Problem) : OneLine problem.message := by
  cases problem with
  | emptyHost => decide
  | portOutOfRange port => exact OneLine.append (by decide) (Text.oneLine_showInt port)
  | negativeDb db => exact OneLine.append (by decide) (Text.oneLine_showInt db)
  | expireNotPositive seconds => exact OneLine.append (by decide) (Text.oneLine_showInt seconds)
  | refreshNotPositive seconds => exact OneLine.append (by decide) (Text.oneLine_showInt seconds)
  | badVariableName name => exact OneLine.append (by decide) (Text.oneLine_quoted name)

end Settings

end RegistrySync
