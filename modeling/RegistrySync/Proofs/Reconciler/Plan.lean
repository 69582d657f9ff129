/-
The plan of a cycle, by the names in it.

* `create?_eq_ok_iff` — a reconciler is made exactly from usable settings;
* `nodup_mergedNames` — the names given on purpose and then the others that were found,
  each once;
* `Early`, `exists_earlyFaults` — the fault of a listing that failed as listings do;
* `planOf_eq` — the plan has one entry for each of these names.
-/
import RegistrySync.Proofs.Reconciler.Steps
import RegistrySync.Proofs.Settings.Usable

namespace RegistrySync

namespace Reconciler

variable {ω : Type}

theorem create?_eq_ok_iff {settings : Settings} {inspector : Inspector ω}
    {publisher : Publisher ω} {alarm : Alarm ω} {containers : List Json} {r : Reconciler ω} :
    create? settings inspector publisher alarm containers = .ok r ↔
      settings.problems = [] ∧
        r = ⟨settings, inspector, publisher, alarm, uniqueNames containers⟩ := by
  unfold create?
  cases settings.problems with
  | nil => simp [eq_comm]
  | cons problem rest => simp

/-- Settings with problems are refused with all of them. -/
theorem create?_of_problems {settings : Settings} (h : settings.problems ≠ [])
    (inspector : Inspector ω) (publisher : Publisher ω) (alarm : Alarm ω) (containers : List Json) :
    create? settings inspector publisher alarm containers =
      .error ⟨.invalidSettings settings.problems, none⟩ := by
  unfold create?
  split
  · rename_i hnone
    exact absurd hnone h
  · rfl

theorem ne_empty_of_mem_uniqueNames {values : List Json} {name : String}
    (h : name ∈ uniqueNames values) : name ≠ "" := by
  have hf := (List.mem_filter.1 (Text.mem_distinct_iff.1 h)).2
  rintro rfl
  simp at hf

/-! ### Names -/

/-- The names of a cycle in the order in which they are refreshed: those that were given on
purpose, then the others that were found. -/
def mergedNames (settings : Settings) (names : List String)
    (listing : Except Fault (List String)) : List String :=
  names ++
    if settings.enumerate then
      match listing with
      | .ok discovered => Text.distinct (discovered.filter fun name => name ∉ names)
      | .error _ => []
    else []

theorem nodup_mergedNames {names : List String} (h : names.Nodup) (settings : Settings)
    (listing : Except Fault (List String)) : (mergedNames settings names listing).Nodup := by
  unfold mergedNames
  split
  · split
    · refine List.nodup_append.2 ⟨h, Text.distinct_nodup _, ?_⟩
      rintro name hn other ho rfl
      simpa [hn] using Text.mem_distinct_iff.1 ho
    · simpa using h
  · simpa using h

theorem mem_mergedNames {settings : Settings} {names : List String}
    {listing : Except Fault (List String)} {name : String}
    (h : name ∈ mergedNames settings names listing) :
    name ∈ names ∨ ∃ discovered, listing = .ok discovered ∧ name ∈ discovered := by
  rcases List.mem_append.1 h with hn | hn
  · exact Or.inl hn
  · split at hn
    · split at hn
      · rename_i discovered
        exact Or.inr ⟨discovered, rfl,
          (List.mem_filter.1 (Text.mem_distinct_iff.1 hn)).1⟩
      · cases hn
    · cases hn

/-! ### Entries -/

/-- The entry of a name: it is explicit if the name was given on purpose. -/
def entryOf (names : List String) (name : String) : String × Pending :=
  (name, ⟨decide (name ∈ names), name⟩)

theorem explicitPlan_eq (names : List String) :
    explicitPlan names = names.map (entryOf names) := by
  refine List.map_congr_left fun name hn => ?_
  simp [entryOf, hn]

theorem discoveredPlan_eq (names discovered : List String) :
    discoveredPlan names discovered =
      (Text.distinct (discovered.filter fun name => name ∉ names)).map (entryOf names) := by
  refine List.map_congr_left fun name hn => ?_
  have hf := (List.mem_filter.1 (Text.mem_distinct_iff.1 hn)).2
  simpa [entryOf] using hf

/-- The faults that count before any container is looked at: that of an enumeration that was
asked for and failed. -/
def earlyFaults (settings : Settings) (listing : Except Fault (List String)) :
    Except Fault (List Fault) :=
  if settings.enumerate then
    match listing with
    | .ok _ => .ok []
    | .error fault =>
      if fault.kind.isReported then .ok [enumerationFault fault] else .error fault
  else .ok []

/-- The fault of a failed listing, which counts before all others. -/
structure Early (faults : List Fault) : Prop where
  length_le : faults.length ≤ 1
  enumeration : ∀ fault ∈ faults, fault.kind = .enumeration

theorem Early.nil : Early [] := by
  refine ⟨Nat.zero_le _, fun fault hm => ?_⟩
  cases hm

theorem kind_enumerationFault (fault : Fault) : (enumerationFault fault).kind = .enumeration := by
  unfold enumerationFault
  split
  · assumption
  · rfl

theorem early_enumerationFault (fault : Fault) : Early [enumerationFault fault] := by
  refine ⟨Nat.le_refl _, fun other hm => ?_⟩
  rw [List.mem_singleton.1 hm]
  exact kind_enumerationFault fault

theorem early_of_earlyFaults {settings : Settings} {listing : Except Fault (List String)}
    {early : List Fault} (h : earlyFaults settings listing = .ok early) : Early early := by
  unfold earlyFaults at h
  split at h
  · split at h
    · cases h
      exact .nil
    · split at h
      · cases h
        exact early_enumerationFault _
      · cases h
  · cases h
    exact .nil

/-- A listing that fails only as listings do leaves a plan. -/
theorem exists_earlyFaults {listing : Except Fault (List String)}
    (h : ∀ fault, listing = .error fault → fault.kind.isReported = true) (settings : Settings) :
    ∃ early, earlyFaults settings listing = .ok early := by
  unfold earlyFaults
  split
  · cases listing with
    | ok discovered => exact ⟨[], rfl⟩
    | error fault => exact ⟨_, if_pos (h fault rfl)⟩
  · exact ⟨[], rfl⟩

/-- A plan has one entry for each name, in their order. -/
theorem planOf_eq (settings : Settings) (names : List String)
    (listing : Except Fault (List String)) :
    planOf settings names listing =
      (earlyFaults settings listing).map fun early =>
        ((mergedNames settings names listing).map (entryOf names), early) := by
  unfold planOf earlyFaults mergedNames
  by_cases hs : settings.enumerate = true
  · simp only [hs, if_true]
    cases listing with
    | ok discovered => simp [explicitPlan_eq, discoveredPlan_eq, Except.map]
    | error fault =>
      by_cases hk : fault.kind.isReported = true
      · simp [hk, explicitPlan_eq, Except.map]
      · simp [hk, Except.map]
  · simp [hs, explicitPlan_eq, Except.map]

end Reconciler

end RegistrySync
