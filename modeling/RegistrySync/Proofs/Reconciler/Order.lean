/-
The order of the containers does not count.

Two cycles get the same names in different orders, from the command line and from the listing,
and their collaborators answer alike. What each name adds to a cycle does not depend on where it
stands, so both cycles add up to the same:

* `SameUpToOrder` — two answers that are the same up to the order of what they list;
* `mergedNames_perm`, `earlyFaults_congr` — both cycles refresh the same names, behind the same
  fault of the listing;
* `nodup_hosts` — if hosts are names, no two publications have the same host;
* `cycle_order_independent` — the same calls to publish, the same faults, and the same store if
  the hosts are distinct; else the last publication that succeeds under a key has it.
-/
import RegistrySync.Proofs.Reconciler.Overwriting
import RegistrySync.Proofs.Reconciler.Stage
import RegistrySync.Proofs.Reconciler.Survival

namespace RegistrySync

/-- Both are the same fault, or both are lists, of the same items in any order. -/
inductive SameUpToOrder {α : Type} : Except Fault (List α) → Except Fault (List α) → Prop
  | ok {a b : List α} (perm : a.Perm b) : SameUpToOrder (.ok a) (.ok b)
  | error (fault : Fault) : SameUpToOrder (.error fault) (.error fault)

/-- The same words in another order, without repetitions. -/
theorem Text.distinct_perm {a b : List String} (h : a.Perm b) :
    (distinct a).Perm (distinct b) := by
  refine (List.perm_ext_iff_of_nodup (distinct_nodup a) (distinct_nodup b)).2 fun word => ?_
  rw [mem_distinct_iff, mem_distinct_iff, h.mem_iff]

namespace Reconciler

/-! ### Names -/

section

variable {names names' : List String} {listing listing' : Except Fault (List String)}

/-- Both cycles refresh the same names. -/
theorem mergedNames_perm (hn : names.Perm names') (hl : SameUpToOrder listing listing')
    (settings : Settings) :
    (mergedNames settings names listing).Perm (mergedNames settings names' listing') := by
  refine hn.append ?_
  cases settings.enumerate with
  | false => exact .refl _
  | true =>
    cases hl with
    | error fault => exact .refl _
    | ok perm =>
      -- Whether a name that was found had been given does not depend on the order either.
      simp only [hn.mem_iff]
      exact Text.distinct_perm (perm.filter _)

/-- Both cycles have the same fault of the listing, or both have none. -/
theorem earlyFaults_congr (hl : SameUpToOrder listing listing') (settings : Settings) :
    earlyFaults settings listing = earlyFaults settings listing' := by
  cases hl <;> rfl

end

/-! ### Hosts -/

section

variable {settings : Settings} {inspected : String → Except Fault Inspection}
  {published : Publication → Except Fault Unit}

/-- If its host is its name, a container publishes under its name or not at all. -/
theorem hosts_contribution {name : String}
    (h : ∀ inspection, inspected name = .ok inspection → inspection.host = name)
    (explicit : Bool) :
    ((contribution settings inspected published name explicit).publications.map (·.host)).Sublist
      [name] := by
  unfold contribution
  cases hi : inspected name with
  | error fault =>
    simp only
    split <;> exact List.nil_sublist _
  | ok inspection =>
    simp only [h inspection hi]
    split
    · split <;> exact List.nil_sublist _
    · split
      · exact List.nil_sublist _
      · split <;> exact .refl _

/-- If hosts are names, publications of distinct names have distinct hosts. -/
theorem nodup_hosts (h : ∀ name inspection, inspected name = .ok inspection →
    inspection.host = name) (explicit : String → Bool) {names : List String}
    (hn : names.Nodup) :
    ((names.flatMap fun name =>
      (contribution settings inspected published name (explicit name)).publications).map
        (·.host)).Nodup := by
  refine hn.sublist ?_
  clear hn
  induction names with
  | nil => exact .refl _
  | cons name rest ih =>
    rw [List.flatMap_cons, List.map_append]
    exact (hosts_contribution (h name) (explicit name)).append ih

end

/-- In a setting that takes names for hosts, an inspection that succeeds has its name as host. -/
theorem host_of_inspected {settings : Settings} (hu : settings.useNames = true) {name : String}
    {answer : Except Fault Json} {inspection : Inspection}
    (h : Inspection.inspected settings name answer = .ok inspection) : inspection.host = name := by
  cases answer with
  | error fault => cases h
  | ok attributes =>
    have hresult : (Inspection.ofAttributes settings name attributes).2 = .ok inspection := h
    unfold Inspection.ofAttributes at hresult
    split at hresult
    · cases hresult
    · simp only [hu, if_true] at hresult
      split at hresult <;> cases hresult
      rfl

/-! ### Cycles -/

theorem parts_of_create? {ω : Type} {settings : Settings} {inspector : Inspector ω}
    {publisher : Publisher ω} {alarm : Alarm ω} {containers : List Json} {r : Reconciler ω}
    (hr : create? settings inspector publisher alarm containers = .ok r) :
    r.settings = settings ∧ r.inspector = inspector ∧ r.publisher = publisher ∧
      r.names = uniqueNames containers := by
  obtain ⟨-, rfl⟩ := create?_eq_ok_iff.1 hr
  exact ⟨rfl, rfl, rfl, rfl⟩

section

variable {ω : Type} {I I' : ω → Prop} {settings : Settings} {inspector inspector' : Inspector ω}
  {publisher publisher' : Publisher ω} {alarm alarm' : Alarm ω} {containers containers' : List Json}
  {r r' : Reconciler ω} {listing listing' : Except Fault (List String)}
  {inspected : String → Except Fault Inspection} {published : Publication → Except Fault Unit}
  {world world' : ω}
  (hr : create? settings inspector.heard publisher.heard alarm containers = .ok r)
  (hs : Steady I inspector publisher listing inspected published) (hw : I world)

include hr hs hw

/-- The faults and the publications of a cycle come in the order of the merged names. -/
theorem cycle_sum {early : List Fault} (he : earlyFaults settings listing = .ok early) :
    let names := mergedNames settings (uniqueNames containers) listing
    let share := fun name =>
      contribution settings inspected published name (decide (name ∈ uniqueNames containers))
    (r.cycle.run world).value = .ok (early ++ names.flatMap fun name => (share name).faults) ∧
      publicationsIn (r.cycle.run world).trace =
        names.flatMap fun name => (share name).publications := by
  obtain ⟨rfl, hi, hp, hnames⟩ := parts_of_create? hr
  obtain ⟨hv, -, hc⟩ := cycle_answers hs hi hp he world hw
  rw [← hnames]
  refine ⟨hv, ?_⟩
  rw [publicationsIn, hc, List.filterMap_append, List.filterMap_flatMap]
  simp only [filterMap_published?_calls]
  split <;> rfl

/-- Without a plan there is nothing but the fault of the listing. -/
theorem cycle_sum_fault {fault : Fault} (he : earlyFaults settings listing = .error fault) :
    (r.cycle.run world).value = .error fault ∧
      publicationsIn (r.cycle.run world).trace = [] := by
  obtain ⟨rfl, hi, -, -⟩ := parts_of_create? hr
  obtain ⟨hv, -, hc⟩ := cycle_answers_fault hs hi he world hw
  refine ⟨hv, ?_⟩
  rw [publicationsIn, hc]
  rfl

/-- Cycles that get the same in different orders publish the same and end in the same way. -/
theorem cycle_perm
    (hr' : create? settings inspector'.heard publisher'.heard alarm' containers' = .ok r')
    (hs' : Steady I' inspector' publisher' listing' inspected published) (hw' : I' world')
    (hnames : (uniqueNames containers).Perm (uniqueNames containers'))
    (hlisting : SameUpToOrder listing listing') :
    (publicationsIn (r.cycle.run world).trace).Perm (publicationsIn (r'.cycle.run world').trace) ∧
      SameUpToOrder (r.cycle.run world).value (r'.cycle.run world').value := by
  have hsame := earlyFaults_congr hlisting settings
  have hmerged := mergedNames_perm hnames hlisting settings
  cases he : earlyFaults settings listing with
  | error fault =>
    have he' : earlyFaults settings listing' = .error fault := hsame.symm.trans he
    obtain ⟨hv, hc⟩ := cycle_sum_fault hr hs hw he
    obtain ⟨hv', hc'⟩ := cycle_sum_fault hr' hs' hw' he'
    rw [hv, hc, hv', hc']
    exact ⟨.refl _, .error fault⟩
  | ok early =>
    have he' : earlyFaults settings listing' = .ok early := hsame.symm.trans he
    obtain ⟨hv, hc⟩ := cycle_sum hr hs hw he
    obtain ⟨hv', hc'⟩ := cycle_sum hr' hs' hw' he'
    rw [hv, hc, hv', hc']
    -- A name was given on purpose in both cycles or in neither.
    simp only [hnames.mem_iff]
    exact ⟨hmerged.flatMap_right _, .ok ((hmerged.flatMap_right _).append_left early)⟩

/-- If names are taken for hosts and the daemon is asked, publications have distinct hosts. -/
theorem nodup_hosts_cycle (hu : settings.useNames = true) {ask : ω → DaemonLink}
    {reask : DaemonLink → ω → ω}
    (hask : inspector = (Inspection.daemonInspector settings).onPart ask reask) :
    ((publicationsIn (r.cycle.run world).trace).map (·.host)).Nodup := by
  have hhosts : ∀ name inspection, inspected name = .ok inspection → inspection.host = name := by
    intro name inspection hi
    obtain ⟨hv, -, -⟩ := hs.inspect name world hw
    rw [hask, value_inspect_onPart] at hv
    exact host_of_inspected hu (hv.trans hi)
  cases he : earlyFaults settings listing with
  | error fault =>
    rw [(cycle_sum_fault hr hs hw he).2]
    exact List.nodup_nil
  | ok early =>
    rw [(cycle_sum hr hs hw he).2]
    exact nodup_hosts hhosts _ (nodup_mergedNames (uniqueNames_nodup containers) settings listing)

/-- The store behind a cycle is what its publications leave, one after another. -/
theorem store_cycle {link : ω → RegistryLink} {relink : RegistryLink → ω → ω}
    (hg : Registering settings I link relink inspector publisher) :
    (link (r.cycle.run world).world).registry.store =
      (publicationsIn (r.cycle.run world).trace).foldl (Store.put settings published)
        (link world).registry.store := by
  obtain ⟨rfl, hi, hp, -⟩ := parts_of_create? hr
  exact cycle_puts hs hg hi hp hw

end

/-! ### On a stage -/

section

variable {settings : Settings} {daemon : Daemon} {refusal : String → Option Fault}

/-- The stages with this daemon and with a registry that refuses these keys. -/
def Keeping (daemon : Daemon) (refusal : String → Option Fault) (stage : Rehearsal.Stage) : Prop :=
  stage.daemon.daemon = daemon ∧ stage.kept.refusal = refusal

/-- A daemon that refuses no client answers. -/
theorem through_of_willing {link : DaemonLink} (h : link.daemon.refusals = []) {α : Type}
    (answer : Except Fault α) : link.through answer = answer := by
  simp [DaemonLink.through, DaemonLink.refusal?, h]

theorem daemon_used_of_willing {link : DaemonLink} (h : link.daemon.refusals = []) :
    link.used.daemon = link.daemon := by
  unfold DaemonLink.used
  rw [h]
  split <;> rfl

/-- Using the link to the daemon is no call to an inspector. -/
theorem callsOf_useTrace (link : DaemonLink) {request : Request} (h : request.isCall = false) :
    callsOf (Inspection.useTrace settings link request) = [] := by
  have hopen : (Request.openDaemon (Inspection.clientUrl settings)).isCall = false := rfl
  unfold Inspection.useTrace
  split
  · simp [callsOf, requestsOf, h]
  · split
    · simp [callsOf, requestsOf, hopen]
    · simp [callsOf, requestsOf, h, hopen]

theorem callsOf_records (records : List Journal.Record) : callsOf (records.map .record) = [] := by
  simp [callsOf, requestsOf]

theorem callsOf_inspectedNotes (name : String) (answer : Except Fault Json) :
    callsOf (Inspection.inspectedNotes settings name answer) = [] := by
  cases answer with
  | ok attributes => exact callsOf_records _
  | error fault => rfl

theorem callsOf_listedNotes (answer : Except Fault (List Json)) :
    callsOf (Inspection.listedNotes answer) = [] := by
  cases answer <;> rfl

/-- Nor is anything that the registry's publisher does. -/
theorem callsOf_connectTrace (link : RegistryLink) :
    callsOf (Publication.connectTrace settings link) = [] := by
  unfold Publication.connectTrace
  split <;> rfl

theorem callsOf_publishedNotes (publication : Publication) (cause : Option Fault) :
    callsOf (Publication.publishedNotes settings publication cause) = [] := by
  cases cause <;> rfl

/-- The daemon's inspector and the registry's publisher answer as functions on a stage whose daemon
refuses no client and whose registry refuses keys only in its own words. -/
theorem steady_stage (hp : settings.problems = []) (hd : daemon.refusals = [])
    (ht : ({ refusal := refusal } : Registry).Tame) :
    Steady (Keeping daemon refusal) (Rehearsal.stageInspector settings)
      (Rehearsal.stagePublisher settings) (Inspection.listed daemon.running)
      (fun name => Inspection.inspected settings name (daemon.attributes name))
      (fun publication => Publication.published (recordKey settings publication.host)
        (refusal (recordKey settings publication.host))) := by
  -- The names and the alarm of a reconciler on the stage do not matter here.
  have hstage : OnStage ⟨settings, Rehearsal.stageInspector settings,
      Rehearsal.stagePublisher settings, ⟨fun _ => true, fun _ => pure ()⟩, []⟩ := ⟨rfl, rfl, hp⟩
  have hasked : ∀ stage, Keeping daemon refusal stage → Keeping daemon refusal stage.asked := by
    rintro stage ⟨rfl, hkept⟩
    exact ⟨daemon_used_of_willing hd, hkept⟩
  constructor
  case enumerate =>
    intro stage hk
    rw [run_stageEnumerate hstage]
    refine ⟨?_, hasked stage hk, ?_⟩
    · obtain ⟨rfl, -⟩ := hk
      exact congrArg Inspection.listed (through_of_willing hd _)
    · -- Neither connecting nor writing a record is a call of the inspector.
      rw [callsOf_append, callsOf_useTrace _ rfl, callsOf_listedNotes, List.append_nil]
  case inspect =>
    intro name stage hk
    rw [run_stageInspect hstage]
    refine ⟨?_, hasked stage hk, ?_⟩
    · obtain ⟨rfl, -⟩ := hk
      exact congrArg (Inspection.inspected settings name) (through_of_willing hd _)
    · rw [callsOf_append, callsOf_useTrace _ rfl, callsOf_inspectedNotes, List.append_nil]
  case publish =>
    rintro publication stage ⟨hdaemon, rfl⟩
    rw [run_stagePublish hstage]
    refine ⟨rfl, ⟨hdaemon, Registry.attempt_refusal ..⟩, ?_⟩
    rw [callsOf_append, callsOf_connectTrace, List.nil_append]
    exact callsOf_publishedNotes publication _
  case handled =>
    intro name fault h
    rw [handlesInspection, Inspection.isInspection_of_inspected settings h]
    rfl
  case publishing =>
    intro publication fault h
    exact Publication.kind_of_published ht h

/-- On a stage the inspector leaves the link to the registry alone. -/
theorem registering_stage (settings : Settings) (I : Rehearsal.Stage → Prop) :
    Registering settings I (·.registry) (fun link stage => { stage with registry := link })
      (Rehearsal.stageInspector settings) (Rehearsal.stagePublisher settings) where
  publisher := rfl
  link_relink _ _ := rfl
  enumerate _ _ := rfl
  inspect _ _ _ := rfl

end

/-- **Order independence.** Let two cycles have the same settings, collaborators that answer alike,
and the same names and the same listing up to their order. Then they make the same calls to
publish and end with the same faults, up to order; or both end with the same foreign fault of the
listing.

The publications come in the order of the merged names, and if names are taken for hosts and the
daemon is asked, their hosts are distinct. If the publisher writes to the registry, each key holds
what the last publication wrote that succeeded under it, or what it held before. If those that
succeed have distinct hosts, both cycles leave the same store. -/
theorem cycle_order_independent {ω : Type} {I I' : ω → Prop} {settings : Settings}
    {inspector inspector' : Inspector ω} {publisher publisher' : Publisher ω}
    {alarm alarm' : Alarm ω} {containers containers' : List Json} {r r' : Reconciler ω}
    {listing listing' : Except Fault (List String)} {inspected : String → Except Fault Inspection}
    {published : Publication → Except Fault Unit} {world world' : ω}
    (hr : create? settings inspector.heard publisher.heard alarm containers = .ok r)
    (hr' : create? settings inspector'.heard publisher'.heard alarm' containers' = .ok r')
    (hs : Steady I inspector publisher listing inspected published) (hw : I world)
    (hs' : Steady I' inspector' publisher' listing' inspected published) (hw' : I' world')
    (hnames : (uniqueNames containers).Perm (uniqueNames containers'))
    (hlisting : SameUpToOrder listing listing') :
    let outcome := r.cycle.run world
    let outcome' := r'.cycle.run world'
    let publications := publicationsIn outcome.trace
    publications.Perm (publicationsIn outcome'.trace) ∧
      SameUpToOrder outcome.value outcome'.value ∧
      (∀ early, earlyFaults settings listing = .ok early →
        publications = (mergedNames settings (uniqueNames containers) listing).flatMap fun name =>
          (contribution settings inspected published name
            (decide (name ∈ uniqueNames containers))).publications) ∧
      (∀ ask reask, inspector = (Inspection.daemonInspector settings).onPart ask reask →
        settings.useNames = true → (publications.map (·.host)).Nodup) ∧
      ∀ link relink, Registering settings I link relink inspector publisher →
        (∀ key, (link outcome.world).registry.store key =
          match (writersOf settings published key publications).getLast? with
          | some publication => some (publication.entry settings)
          | none => (link world).registry.store key) ∧
        (Registering settings I' link relink inspector' publisher' →
          (link world).registry.store = (link world').registry.store →
          ((successes published publications).map (·.host)).Nodup →
          (link outcome.world).registry.store = (link outcome'.world).registry.store) := by
  intro outcome outcome' publications
  obtain ⟨hpublications, hvalues⟩ := cycle_perm hr hs hw hr' hs' hw' hnames hlisting
  refine ⟨hpublications, hvalues, fun early he => (cycle_sum hr hs hw he).2,
    fun ask reask hask hu => nodup_hosts_cycle hr hs hw hu hask, fun link relink hg => ⟨?_, ?_⟩⟩
  · -- What is left under a key is what its last successful writer left, or what was there before.
    intro key
    rw [store_cycle hr hs hw hg]
    exact foldl_put_apply publications _ key
  · intro hg' hstores hhosts
    -- Only where no two of the publications that succeed write to one key can they change places.
    calc (link outcome.world).registry.store
        = publications.foldl (Store.put settings published) (link world).registry.store :=
          store_cycle hr hs hw hg
      _ = (publicationsIn outcome'.trace).foldl (Store.put settings published)
            (link world).registry.store := foldl_put_perm hpublications hhosts _
      _ = (publicationsIn outcome'.trace).foldl (Store.put settings published)
            (link world').registry.store := by rw [hstores]
      _ = (link outcome'.world).registry.store := (store_cycle hr' hs' hw' hg').symm

/-- A stage on which these containers are running, each with a domain of its own. -/
def stageWith (running : List String) : Rehearsal.Stage where
  daemon := { daemon := {
    running := .ok (running.map fun name => .obj [("name", .str name)])
    attributes := fun name => .ok (.obj [("Config", .obj [("Env",
      .arr [.str ("BEACHHEAD_DOMAINS=" ++ name ++ ".example.org:https")])])]) } }
  registry := {}
  roster := { inspections := fun _ => .error ⟨.noAddress, none⟩ }
  veto := { fault := ⟨.noAddress, none⟩ }

theorem cycle_order_independent_two_orders :
    let settings : Settings := { useNames := true, enumerate := true }
    let make := create? settings (Rehearsal.stageInspector settings).heard
      (Rehearsal.stagePublisher settings).heard (Rehearsal.stageAlarm fun _ stage => stage)
    ∃ r r', make [.str "web", .str "api"] = .ok r ∧ make [.str " api", .str "web"] = .ok r' ∧
      (publicationsIn (r.cycle.run (stageWith ["db", "web", "mail"])).trace).map (·.host) =
        ["web", "api", "db", "mail"] ∧
      (r.cycle.run (stageWith ["db", "web", "mail"])).world.kept.store =
        (r'.cycle.run (stageWith ["mail", "db", "web"])).world.kept.store := by
  intro settings make
  have hr : make [.str "web", .str "api"] = .ok _ := create?_eq_ok_iff.2 ⟨by decide, rfl⟩
  have hr' : make [.str " api", .str "web"] = .ok _ := create?_eq_ok_iff.2 ⟨by decide, rfl⟩
  have ht : ({} : Registry).Tame := by
    intro key fault h
    cases h
  have hs (running : List String) : Steady (Keeping (stageWith running).daemon.daemon fun _ => none)
      (Rehearsal.stageInspector settings) (Rehearsal.stagePublisher settings) _ _ _ :=
    steady_stage (by decide) rfl ht
  obtain ⟨-, -, hmerge, hhosts, hstores⟩ := cycle_order_independent hr hr'
    (hs ["db", "web", "mail"]) ⟨rfl, rfl⟩ (hs ["mail", "db", "web"]) ⟨rfl, rfl⟩
    (by decide +kernel) (.ok (by decide +kernel))
  refine ⟨_, _, hr, hr', ?_, ?_⟩
  · -- The theorem gives the publications as those of the merged names, which is easy to evaluate.
    rw [hmerge [] rfl]
    decide +kernel
  · have hregistry := (hstores _ _ (registering_stage settings _)).2
    have hdistinct := hhosts _ _ rfl rfl
    unfold Rehearsal.Stage.kept
    exact hregistry (registering_stage settings _) rfl (nodup_hosts_successes hdistinct)

end Reconciler

end RegistrySync
