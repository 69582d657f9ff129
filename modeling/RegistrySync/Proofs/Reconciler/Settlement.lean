/-
A cycle settles the registry.

With the inspector that asks the daemon and the publisher that writes to the
registry, a wet cycle changes the registry exactly as a fold over the answers about
the merged containers does:

* `declaredWrite` — the write that the attributes of a container declare, if they
  declare one at all;
* `Registry.settle` — the registry after one container: its declared write is
  attempted, and nothing else happens;
* `refresh_settles`, `refreshAll_settles` — one container, and a whole plan;
* `cycle_settles` — a cycle, whatever the daemon and the registry answer.

Consequently a record outlasts the cycle unless some container without a single
bad port declares a write under its key.
-/
import RegistrySync.Proofs.Inspection.Declaration
import RegistrySync.Proofs.Reconciler.Stage

namespace RegistrySync

open Inspection Rehearsal

/-! ### What attributes declare -/

/-- The values of the variable in the lines of a container. -/
def assignedValues (settings : Settings) (items : List Json) : List String :=
  items.filterMap fun item => assigned? settings.envVar item.text

/-- The tokens of these values, in order. -/
def assignedTokens (settings : Settings) (items : List Json) : List DomainSpec.Token :=
  (assignedValues settings items).flatMap fun value => DomainSpec.tokens value.toList

/-- The write that the attributes of a container declare: the key of its host, and the records
of all domains in all values of the variable. There is none without a list of lines, without a
line for the variable, with a token at fault in any value, or without a host. -/
def declaredWrite (settings : Settings) (name : String) (attributes : Json) :
    Option (String × Entry) :=
  match environmentItems? attributes with
  | none => none
  | some items =>
    let host := hostOf settings name attributes
    if assignedValues settings items ≠ [] ∧
        (∀ token ∈ assignedTokens settings items, token.read.stop = none) ∧ host ≠ "" then
      some (settings.keyPrefix ++ host,
        ⟨Publication.encode ⟨host, (assignedTokens settings items).flatMap (·.read.specs)⟩,
          settings.expire⟩)
    else none

/-- Whether some token in some line for the variable is at fault. -/
def HasBadPort (settings : Settings) (attributes : Json) : Prop :=
  ∃ items, environmentItems? attributes = some items ∧
    ∃ token ∈ assignedTokens settings items, token.read.stop ≠ none

/-- A bad port anywhere takes back the whole declaration. -/
theorem declaredWrite_of_badPort {settings : Settings} {attributes : Json}
    (h : HasBadPort settings attributes) (name : String) :
    declaredWrite settings name attributes = none := by
  obtain ⟨items, hi, token, ht, hs⟩ := h
  rw [declaredWrite, hi]
  refine if_neg ?_
  rintro ⟨-, hc, -⟩
  exact hs (hc token ht)

/-- The write that an inspection leads to. -/
def inspectedWrite (settings : Settings) (result : Except Fault Inspection) :
    Option (String × Entry) :=
  match result with
  | .ok inspection =>
    if inspection.declared then
      some (recordKey settings inspection.host,
        Publication.entry settings (.ofInspection inspection))
    else none
  | .error _ => none

/-- The declared write is the one to which the inspection of the attributes leads. -/
theorem declaredWrite_eq {settings : Settings} (he : '=' ∉ settings.envVar.toList) {name : String}
    (hn : name ≠ "") (attributes : Json) :
    declaredWrite settings name attributes =
      inspectedWrite settings (ofAttributes settings name attributes).2 := by
  unfold declaredWrite
  cases hi : environmentItems? attributes with
  | none =>
    rcases environmentLines?_of_no_items hi with hl | hl
    · simp [ofAttributes, hl, inspectedWrite]
    · have hr : readEnvironment [] settings.envVar [] = ⟨false, ⟨[], [], none⟩⟩ := rfl
      by_cases hu : settings.useNames = true
      · simp [ofAttributes, hl, hr, hu, DomainSpec.Parse.result, inspectedWrite]
      · simp [ofAttributes, hl, hr, hu, DomainSpec.Parse.result, inspectedWrite]
  | some items =>
    -- All that is left is whether a token is at fault, and whether there is a host.
    have hl := environmentLines?_of_items hi
    have hr : readEnvironment (items.map Json.text) settings.envVar [] =
        ⟨!(assignedValues settings items).isEmpty,
          readValues (assignedValues settings items) []⟩ := by
      rw [readEnvironment, declaredValues_eq he, List.filterMap_map]
      rfl
    cases hs : (readValues (assignedValues settings items) []).stop with
    | some stop =>
      have hb : ¬∀ token ∈ assignedTokens settings items, token.read.stop = none := by
        intro hc
        rw [stop_readValues_eq_none_iff.2 hc] at hs
        cases hs
      rw [ofAttributes_of_stop hl (by rw [hr]; exact hs)]
      exact if_neg fun h => hb h.2.1
    | none =>
      have hc : ∀ token ∈ assignedTokens settings items, token.read.stop = none :=
        stop_readValues_eq_none_iff.1 hs
      have hsp := specs_readValues hs
      rw [ofAttributes_of_clean hl (by rw [hr]; exact hs), hr]
      simp only
      by_cases hv : assignedValues settings items = []
      · simp [hv, inspectedWrite]
      · have hp : (!(assignedValues settings items).isEmpty) = true := by simpa using hv
        by_cases hh : hostOf settings name attributes = ""
        · have hu : settings.useNames = false := by
            cases hu : settings.useNames with
            | false => rfl
            | true => exact absurd (by simpa [hostOf, hu] using hh) hn
          rw [if_neg fun h => h.2.2 hh, if_pos ⟨hu, hh, hp⟩]
          rfl
        · rw [if_pos ⟨hv, hc, hh⟩, if_neg fun h => hh h.2.1, hsp]
          exact (if_pos hp).symm

/-! ### One container -/

/-- The registry after one container, by what the daemon answered about it: the declared write
is attempted, and nothing else happens. -/
def Registry.settle (settings : Settings) (registry : Registry)
    (answered : String × Except Fault Json) : Registry :=
  match answered.2 with
  | .ok attributes =>
    match declaredWrite settings answered.1 attributes with
    | some (key, entry) => registry.attempt key entry
    | none => registry
  | .error _ => registry

@[simp] theorem Registry.settle_refusal (settings : Settings) (registry : Registry)
    (answered : String × Except Fault Json) :
    (registry.settle settings answered).refusal = registry.refusal := by
  unfold settle
  split
  · split
    · exact attempt_refusal ..
    · rfl
  · rfl

/-- A container changes the entry of a key only if its attributes hold no bad port and declare a
write under that key. -/
theorem Registry.settle_store_of_not_declared {settings : Settings} {name : String}
    {answer : Except Fault Json} {key : String}
    (h : ∀ attributes entry, answer = .ok attributes → ¬HasBadPort settings attributes →
      declaredWrite settings name attributes ≠ some (key, entry)) (registry : Registry) :
    (registry.settle settings (name, answer)).store key = registry.store key := by
  cases answer with
  | error fault => rfl
  | ok attributes =>
    cases hw : declaredWrite settings name attributes with
    | none => simp only [settle, hw]
    | some write =>
      obtain ⟨k, entry⟩ := write
      -- Something is written only of attributes that can be read.
      have hb : ¬HasBadPort settings attributes := by
        intro hb
        rw [declaredWrite_of_badPort hb] at hw
        cases hw
      have hk : key ≠ k := by
        rintro rfl
        exact h attributes entry rfl hb hw
      simp only [settle, hw]
      exact attempt_other registry hk entry

/-- A container is settled by the write to which its inspection leads. -/
theorem Registry.settle_eq {settings : Settings} (he : '=' ∉ settings.envVar.toList)
    {name : String} (hn : name ≠ "") (registry : Registry) (answer : Except Fault Json) :
    registry.settle settings (name, answer) =
      match inspectedWrite settings (inspected settings name answer) with
      | some (key, entry) => registry.attempt key entry
      | none => registry := by
  cases answer with
  | ok attributes =>
    rw [settle]
    simp only [declaredWrite_eq he hn]
    rfl
  | error fault => rfl

namespace Reconciler

variable {r : Reconciler Stage}

/-- A container is settled by the answer about it, and the link to the daemon is used once. -/
theorem refresh_settles (hr : OnStage r) (hd : r.settings.dryRun = false) {name : String}
    (hn : name ≠ "") (explicit : Bool) {stage : Stage} (ht : stage.kept.Tame) :
    ∃ faults,
      ((r.refresh name ⟨explicit, name⟩).run stage).value = .ok faults ∧
        ((r.refresh name ⟨explicit, name⟩).run stage).world.daemon = stage.daemon.used ∧
          ((r.refresh name ⟨explicit, name⟩).run stage).world.kept =
            stage.kept.settle r.settings (name, stage.answer name) := by
  rw [run_refresh, run_stageInspect hr,
    Registry.settle_eq (Settings.not_mem_envVar hr.usable) hn]
  simp only [Outcome.after_value, Outcome.after_world]
  cases hi : inspected r.settings name (stage.answer name) with
  | error fault =>
    have hh : handlesInspection fault = true := by
      simp [handlesInspection, isInspection_of_inspected r.settings hi]
    rw [afterInspection, if_pos hh, run_onInspectionFault]
    exact ⟨_, rfl, rfl, rfl⟩
  | ok inspection =>
    cases hdec : inspection.declared with
    | false =>
      simp only [afterInspection, inspectedWrite, hdec]
      exact ⟨_, rfl, rfl, rfl⟩
    | true =>
      -- Only here does the registry get to see anything.
      have hp := run_publish r name ⟨explicit, name⟩ (.ofInspection inspection) stage.asked
      rw [run_stagePublish hr] at hp
      obtain ⟨faults, hf⟩ := publicationFaults_of_handled
        (fun fault => Publication.kind_of_published ht) name
      have ha : r.afterInspection name ⟨explicit, name⟩ (.ok inspection) =
          r.publish name ⟨explicit, name⟩ (.ofInspection inspection) := by
        simp [afterInspection, hdec, hd]
      simp only [ha, hp, inspectedWrite, hdec, if_true]
      exact ⟨faults, hf, rfl, rfl⟩

/-! ### A cycle -/

/-- The containers of a plan are settled one after another. -/
theorem refreshAll_settles (hr : OnStage r) (hd : r.settings.dryRun = false) (given : List String)
    {names : List String} (hn : ∀ name ∈ names, name ≠ "") {stage : Stage}
    (ht : stage.kept.Tame) :
    ∃ faults,
      ((r.refreshAll (names.map (entryOf given))).run stage).value = .ok faults ∧
        ((r.refreshAll (names.map (entryOf given))).run stage).world.kept =
          (stage.daemon.answers names).foldl (Registry.settle r.settings) stage.kept := by
  induction names generalizing stage with
  | nil => exact ⟨[], rfl, rfl⟩
  | cons name rest ih =>
    obtain ⟨hname, hrest⟩ := List.forall_mem_cons.1 hn
    obtain ⟨first, hv, hl, hk⟩ := refresh_settles hr hd hname (decide (name ∈ given)) ht
    -- The step leaves the refusals as they are, so the registry is still tame for the others.
    set step := (r.refresh name ⟨decide (name ∈ given), name⟩).run stage with hstep
    have ht' : step.world.kept.Tame := by
      rw [hk]
      intro key fault hf
      exact ht key fault (by simpa using hf)
    obtain ⟨others, hvs, hks⟩ := ih hrest ht'
    rw [List.map_cons, entryOf, run_refreshAll_cons hv, ← hstep]
    refine ⟨first ++ others, ?_, ?_⟩
    · rw [hvs]
      rfl
    · rw [hks, hl, hk, DaemonLink.answers, List.foldl_cons]
      rfl

/-- What no answer declares is not touched. -/
theorem foldl_settle_store {settings : Settings} {key : String}
    {answers : List (String × Except Fault Json)}
    (h : ∀ name attributes entry, (name, .ok attributes) ∈ answers →
      ¬HasBadPort settings attributes → declaredWrite settings name attributes ≠ some (key, entry))
    (registry : Registry) :
    (answers.foldl (Registry.settle settings) registry).store key = registry.store key := by
  induction answers generalizing registry with
  | nil => rfl
  | cons answered rest ih =>
    obtain ⟨name, answer⟩ := answered
    rw [List.foldl_cons, ih fun name attributes entry hm => h name attributes entry (.tail _ hm)]
    refine Registry.settle_store_of_not_declared (fun attributes entry ha => ?_) registry
    exact h name attributes entry (ha ▸ .head _)

/-- **A cycle settles the registry.** -/
theorem cycle_settles {settings : Settings} {alarm : Alarm Stage} {containers : List Json}
    {r : Reconciler Stage}
    (hr : create? settings (stageInspector settings) (stagePublisher settings) alarm containers =
      .ok r)
    (hd : settings.dryRun = false) {stage : Stage} (ht : stage.kept.Tame) :
    let link := if settings.enumerate then stage.daemon.used else stage.daemon
    let answers := link.answers (mergedNames settings (uniqueNames containers) stage.listing)
    let outcome := r.cycle.run stage
    (∃ faults, outcome.value = .ok faults) ∧
      outcome.world.kept = answers.foldl (Registry.settle settings) stage.kept ∧
        ∀ key, (∀ name attributes entry, (name, .ok attributes) ∈ answers →
            ¬HasBadPort settings attributes →
              declaredWrite settings name attributes ≠ some (key, entry)) →
          outcome.world.kept.store key = stage.kept.store key := by
  have hstage := onStage_of_create? hr
  obtain ⟨hsettings, hnames⟩ : r.settings = settings ∧ r.names = uniqueNames containers := by
    rw [(create?_eq_ok_iff.1 hr).2]
    exact ⟨rfl, rfl⟩
  subst hsettings
  -- Names are never empty, whichever way they came into the plan.
  have hne : ∀ name ∈ mergedNames r.settings r.names stage.listing, name ≠ "" := by
    intro name hm
    rcases mem_mergedNames hm with hg | ⟨discovered, hl, hg⟩
    · exact ne_empty_of_mem_uniqueNames (hnames ▸ hg)
    · exact ne_empty_of_mem_listed hl hg
  obtain ⟨early, hm, hw⟩ := merge_stage hstage stage
  have hkept : (r.merge.run stage).world.kept = stage.kept := by
    rw [hw]
    split <;> rfl
  have hlink : (r.merge.run stage).world.daemon =
      if r.settings.enumerate then stage.daemon.used else stage.daemon := by
    rw [hw]
    split <;> rfl
  obtain ⟨faults, hv, hk⟩ := refreshAll_settles hstage hd r.names hne
    (show (r.merge.run stage).world.kept.Tame by rwa [hkept])
  rw [hkept, hlink] at hk
  rw [← hnames]
  intro link answers outcome
  have hc : outcome = _ := run_cycle hm
  have hfold : outcome.world.kept = answers.foldl (Registry.settle r.settings) stage.kept := by
    rw [hc]
    exact hk
  refine ⟨⟨early ++ faults, ?_⟩, hfold, fun key h => ?_⟩
  · rw [hc]
    exact congrArg (Except.map (early ++ ·)) hv
  · rw [hfold]
    exact foldl_settle_store h stage.kept

/-- Attributes whose environment is a single line. -/
def oneLine (line : String) : Json := .obj [("Config", .obj [("Env", .arr [.str line])])]

/-- A stage with two containers, one of which has a bad port behind a good domain, and with an
older record of each. -/
def twoContainers : Stage where
  daemon := { daemon := {
    attributes := fun name =>
      if name = "web" then .ok (oneLine "BEACHHEAD_DOMAINS=example.org:https")
      else .ok (oneLine "BEACHHEAD_DOMAINS=example.net www.example.net:http=65536") } }
  registry := { registry := { store := fun _ => some ⟨"[]", none⟩ } }
  roster := { inspections := fun _ => .error ⟨.noAddress, none⟩ }
  veto := { fault := ⟨.noAddress, none⟩ }

theorem cycle_settles_two_containers :
    ∃ r : Reconciler Stage,
      create? { useNames := true } (stageInspector { useNames := true })
          (stagePublisher { useNames := true }) (stageAlarm fun _ stage => stage)
          [.str " web", .str "bad"] = .ok r ∧
        twoContainers.kept.Tame ∧
          (r.cycle.run twoContainers).world.kept.store "beachhead:web" =
            some ⟨"[\x7b\"domain\":\"example.org\"," ++
              "\"https\":\x7b\"host\":\"web\",\"port\":443\x7d," ++
              "\"id\":\"example_org\"\x7d]", some 60⟩ ∧
            (r.cycle.run twoContainers).world.kept.store "beachhead:bad" = some ⟨"[]", none⟩ := by
  have hr : create? { useNames := true } (stageInspector { useNames := true })
      (stagePublisher { useNames := true }) (stageAlarm fun _ stage => stage)
      [.str " web", .str "bad"] = .ok _ := create?_eq_ok_iff.2 ⟨by decide, rfl⟩
  have ht : twoContainers.kept.Tame := by
    intro key fault hf
    cases hf
  -- The store is a fold over the answers now, which evaluates where the cycle would not.
  obtain ⟨-, hk, -⟩ := cycle_settles hr rfl ht
  refine ⟨_, hr, ht, ?_, ?_⟩
  · rw [hk]
    decide +kernel
  · rw [hk]
    decide +kernel

end Reconciler

end RegistrySync
