/-
A dry run and a wet run side by side.

The world has two parts: what the inspector sees, and the registry. Two reconcilers that
differ in nothing but the dry run (`twin`) stay in step on the first part, and what the dry
one announces is what the wet one sets:

* `Mirrors` — how an outcome of the dry reconciler and one of the wet one belong together;
* `refresh_mirrors`, `refreshAll_mirrors`, `cycle_mirrors` — one container, a plan, a cycle;
* `runFor_mirrors` — any number of cycles;
* `dry_run_faithful` — no request to the registry is made in a dry run, its announcements are
  the keys that a wet run sets, and its faults are those of the wet run that are not about
  publishing.
-/
import RegistrySync.Proofs.Publication.Steps
import RegistrySync.Proofs.Reconciler.Announcement
import RegistrySync.Proofs.Reconciler.Plan
import RegistrySync.Proofs.Reconciler.Rounds

namespace RegistrySync

variable {σ α : Type}

/-- An inspector beside a registry. -/
def Inspector.beside (inspector : Inspector σ) : Inspector (σ × RegistryLink) :=
  inspector.onPart Prod.fst fun state world => (state, world.2)

/-- The publisher that writes to a registry beside something else. -/
def Publication.publisherBeside (σ : Type) (settings : Settings) : Publisher (σ × RegistryLink) :=
  (Publication.registryPublisher settings).onPart Prod.snd fun link world => (world.1, link)

namespace Reconciler

/-- An alarm that does not look at the registry. A wait may change the registry, but not in a
way that makes its refusals strange. -/
structure BlindAlarm (alarm : Alarm (σ × RegistryLink)) : Prop where
  isSet : ∀ state a b, alarm.isSet (state, a) = alarm.isSet (state, b)
  wait : ∀ seconds state a b, ((alarm.wait seconds).run (state, a)).world.1 =
    ((alarm.wait seconds).run (state, b)).world.1
  value : ∀ seconds state a b, ((alarm.wait seconds).run (state, a)).value =
    ((alarm.wait seconds).run (state, b)).value
  tame : ∀ seconds state link, link.registry.Tame →
    ((alarm.wait seconds).run (state, link)).world.2.registry.Tame
  plain : ∀ seconds world, Plain ((alarm.wait seconds).run world).trace

/-- The reconciler of these settings with or without the dry run, over an inspector and the
registry. -/
def twin (settings : Settings) (inspector : Inspector σ) (alarm : Alarm (σ × RegistryLink))
    (names : List String) (dryRun : Bool) : Reconciler (σ × RegistryLink) :=
  ⟨{ settings with dryRun }, inspector.beside, Publication.publisherBeside σ
    { settings with dryRun }, alarm, names⟩

/-- Faults without those of publications. -/
def withoutPublishing (faults : List Fault) : List Fault :=
  faults.filter fun fault => fault.kind ≠ .publishing

theorem map_withoutPublishing_append (first : List Fault) (others : Except Fault (List Fault)) :
    (others.map (first ++ ·)).map withoutPublishing =
      (others.map withoutPublishing).map (withoutPublishing first ++ ·) := by
  cases others with
  | error fault => rfl
  | ok others => exact congrArg Except.ok (List.filter_append ..)

theorem withoutPublishing_eq_self {faults : List Fault}
    (h : ∀ fault ∈ faults, fault.kind ≠ .publishing) : withoutPublishing faults = faults :=
  List.filter_eq_self.2 (by simpa using h)

/-- How an outcome of the dry reconciler mirrors one of the wet reconciler: what the inspector
sees is the same, the dry one has not touched its registry, and what it announces is what the
wet one sets. Its faults are those that are not about publishing. -/
structure Mirrors (idle : RegistryLink)
    (dry wet : Outcome (σ × RegistryLink) (Except Fault (List Fault))) : Prop
    extends Echoes dry.trace wet.trace where
  value : dry.value = wet.value.map withoutPublishing
  state : dry.world.1 = wet.world.1
  idle : dry.world.2 = idle
  tame : wet.world.2.registry.Tame

theorem Mirrors.world {idle : RegistryLink}
    {dry wet : Outcome (σ × RegistryLink) (Except Fault (List Fault))} (h : Mirrors idle dry wet) :
    dry.world = (wet.world.1, idle) :=
  Prod.ext h.state h.idle

/-- What both have done before makes no difference if it is plain. -/
theorem Mirrors.after {idle : RegistryLink}
    {dry wet : Outcome (σ × RegistryLink) (Except Fault (List Fault))} (h : Mirrors idle dry wet)
    {a b : List Event} (ha : Plain a) (hb : Plain b) : Mirrors idle (dry.after a) (wet.after b) :=
  { (ha.echoes hb).append h.toEchoes with
    value := h.value
    state := h.state
    idle := h.idle
    tame := h.tame }

section

variable (settings : Settings) (inspector : Inspector σ) (alarm : Alarm (σ × RegistryLink))
  (names : List String)

/-! ### One container -/

theorem kind_of_inspectionFaults {name : String} {pending : Pending} {fault : Fault}
    (h : handlesInspection fault = true) :
    ∀ counted ∈ inspectionFaults settings name pending fault, counted.kind ≠ .publishing := by
  intro counted hm hk
  unfold inspectionFaults at hm
  split at hm
  · rw [List.mem_singleton] at hm
    rw [hm, Fault.kind_about] at hk
    rw [handlesInspection, hk] at h
    cases h
  · cases hm

theorem kind_of_undeclaredFaults {name : String} {pending : Pending} :
    ∀ counted ∈ undeclaredFaults settings name pending, counted.kind ≠ .publishing := by
  intro counted hm hk
  unfold undeclaredFaults at hm
  split at hm
  · rw [List.mem_singleton] at hm
    rw [hm] at hk
    cases hk
  · cases hm

/-- Two outcomes that differ in the registry only mirror each other if they are plain. -/
theorem mirrors_of_plain {state : σ} {idle link : RegistryLink} {value : Except Fault (List Fault)}
    {trace : List Event} (hv : value.map withoutPublishing = value) (ht : link.registry.Tame)
    (hp : Plain trace) :
    Mirrors idle ⟨value, (state, idle), trace⟩ ⟨value, (state, link), trace⟩ :=
  { hp.echoes hp with
    value := hv.symm
    state := rfl
    idle := rfl
    tame := ht }

theorem run_publishBeside (publication : Publication) (state : σ) (link : RegistryLink) :
    ((Publication.publisherBeside σ settings).publish publication).run (state, link) =
      ⟨((Publication.publish settings publication).run link).value,
        (state, ((Publication.publish settings publication).run link).world),
        ((Publication.publish settings publication).run link).trace⟩ := rfl

/-- What one publication sets: its key, to its records. -/
theorem setsIn_publish (publication : Publication) (link : RegistryLink) :
    setsIn ((Publication.publish settings publication).run link).trace =
      [(recordKey settings publication.host, publication.encode)] := by
  have hconnect : setsIn (Publication.connectTrace settings link) = [] := by
    unfold Publication.connectTrace
    split <;> rfl
  have hnotes : ∀ refusal,
      setsIn (Publication.publishedNotes settings publication refusal) = [] := by
    rintro (_ | _) <;> rfl
  rw [Publication.run_publish, setsIn_append, hconnect, List.nil_append]
  exact congrArg (_ :: ·) (hnotes _)

/-- A publication leaves a tame registry tame, and fails only as publications do. -/
theorem tame_publish (publication : Publication) {link : RegistryLink} (h : link.registry.Tame) :
    ((Publication.publish settings publication).run link).world.registry.Tame ∧
      ∀ fault, ((Publication.publish settings publication).run link).value = .error fault →
        fault.kind = .publishing := by
  rw [Publication.run_publish]
  refine ⟨fun key fault hf => ?_, fun fault hf => Publication.kind_of_published h hf⟩
  exact h key fault (by simpa using hf)

/-- Faults of a publication are about publishing, so none of them is left. -/
theorem publicationFaults_withoutPublishing {name : String} {published : Except Fault Unit}
    (h : ∀ fault, published = .error fault → fault.kind = .publishing) :
    (publicationFaults name published).map withoutPublishing = .ok [] := by
  cases published with
  | ok _ => rfl
  | error fault =>
    have hk := h fault rfl
    rw [publicationFaults, if_pos hk]
    simp [Except.map, withoutPublishing, hk]

/-- A container that is announced in a dry run and published in a wet one. -/
theorem publish_mirrors (name : String) (pending : Pending) (publication : Publication)
    (state : σ) (idle : RegistryLink) {link : RegistryLink} (ht : link.registry.Tame) :
    Mirrors idle
      (((twin settings inspector alarm names true).announce publication).run (state, idle))
      (((twin settings inspector alarm names false).publish name pending publication).run
        (state, link)) := by
  obtain ⟨htame, hkind⟩ := tame_publish { settings with dryRun := false } publication ht
  have hsets := setsIn_publish { settings with dryRun := false } publication link
  have hpub : (twin settings inspector alarm names false).publisher =
      Publication.publisherBeside σ { settings with dryRun := false } := rfl
  rw [run_announce, run_publish, hpub, run_publishBeside]
  -- The one announces, and the other one writes the same record.
  exact {
    value := (publicationFaults_withoutPublishing hkind).symm
    state := rfl
    idle := rfl
    tame := htame
    silent := rfl
    announced := by
      rw [announcedIn_announcement, setsIn_append, hsets, (plain_publicationNotes ..).sets]
      rfl }

/-- What follows an inspection, whatever it was answered. -/
theorem afterInspection_mirrors (name : String) (pending : Pending)
    (inspected : Except Fault Inspection) (state : σ) (idle : RegistryLink) {link : RegistryLink}
    (ht : link.registry.Tame) :
    Mirrors idle
      (((twin settings inspector alarm names true).afterInspection name pending inspected).run
        (state, idle))
      (((twin settings inspector alarm names false).afterInspection name pending inspected).run
        (state, link)) := by
  cases inspected with
  | error fault =>
    -- The two differ only where there is something to publish; everywhere else they write the
    -- same records.
    by_cases hh : handlesInspection fault = true
    · simp only [afterInspection, if_pos hh, run_onInspectionFault]
      refine mirrors_of_plain (congrArg Except.ok ?_) ht (plain_inspectionNote ..)
      exact withoutPublishing_eq_self (kind_of_inspectionFaults _ hh)
    · simp only [afterInspection, if_neg hh, Task.run_fail]
      exact mirrors_of_plain rfl ht Plain.nil
  | ok inspection =>
    cases hd : inspection.declared with
    | false =>
      simp only [afterInspection, hd, Bool.not_false, if_true, run_onUndeclared]
      refine mirrors_of_plain (congrArg Except.ok ?_) ht (plain_undeclaredNote ..)
      exact withoutPublishing_eq_self (kind_of_undeclaredFaults _)
    | true =>
      have hmirrors := publish_mirrors settings inspector alarm names name pending
        (.ofInspection inspection) state idle ht
      simpa [afterInspection, hd, twin] using hmirrors

/-- One container. -/
theorem refresh_mirrors {inspector : Inspector σ} (hi : PlainInspector inspector)
    (name : String) (pending : Pending) (state : σ) (idle : RegistryLink) {link : RegistryLink}
    (ht : link.registry.Tame) :
    Mirrors idle
      (((twin settings inspector alarm names true).refresh name pending).run (state, idle))
      (((twin settings inspector alarm names false).refresh name pending).run (state, link)) := by
  have hplain := (plain_refreshNote name).append (hi.inspect pending.value state)
  rw [run_refresh, run_refresh]
  exact (afterInspection_mirrors settings inspector alarm names name pending _ _ idle ht).after
    hplain hplain

/-! ### A cycle -/

/-- All containers of a plan. -/
theorem refreshAll_mirrors {inspector : Inspector σ} (hi : PlainInspector inspector) (plan : Plan)
    (state : σ) (idle : RegistryLink) {link : RegistryLink} (ht : link.registry.Tame) :
    Mirrors idle (((twin settings inspector alarm names true).refreshAll plan).run (state, idle))
      (((twin settings inspector alarm names false).refreshAll plan).run (state, link)) := by
  -- Both reconcilers walk the same plan; the registry link of one of them changes on the way, so
  -- it is not fixed.
  induction plan generalizing state link with
  | nil =>
    rw [run_refreshAll_nil, run_refreshAll_nil]
    exact mirrors_of_plain rfl ht Plain.nil
  | cons entry rest ih =>
    obtain ⟨name, pending⟩ := entry
    have hfirst := refresh_mirrors settings alarm names hi name pending state idle ht
    have hv := hfirst.value
    cases hw : (((twin settings inspector alarm names false).refresh name pending).run
        (state, link)).value with
    | error fault =>
      rw [hw] at hv
      rw [run_refreshAll_fault hv, run_refreshAll_fault hw]
      -- A fault of the first container ends both walks at the same place.
      exact { hfirst with value := rfl }
    | ok first =>
      rw [hw] at hv
      have hrest := ih (((twin settings inspector alarm names false).refresh name pending).run
        (state, link)).world.1 hfirst.tame
      rw [run_refreshAll_cons hv, run_refreshAll_cons hw, hfirst.world]
      exact { hfirst.toEchoes.append hrest.toEchoes with
        value := by
          rw [hrest.value]
          exact (map_withoutPublishing_append first _).symm
        state := hrest.state
        idle := hrest.idle
        tame := hrest.tame }

/-- No fault that counts before any container is looked at is about publishing. -/
theorem kind_of_earlyFaults {listing : Except Fault (List String)} {early : List Fault}
    (h : earlyFaults settings listing = .ok early) :
    ∀ fault ∈ early, fault.kind ≠ .publishing := by
  intro fault hf
  rw [(early_of_earlyFaults h).enumeration fault hf]
  decide

/-- The plan, which is the same for both. -/
theorem run_merge_twin {inspector : Inspector σ} (hi : PlainInspector inspector) (state : σ) :
    ∃ planned seen trace, Plain trace ∧
      (∀ plan early, planned = .ok (plan, early) → withoutPublishing early = early) ∧
      ∀ dryRun link, (twin settings inspector alarm names dryRun).merge.run (state, link) =
        ⟨planned, (seen, link), trace⟩ := by
  -- Merging does not look at the registry, so it is the same for both, whatever the link is.
  cases he : settings.enumerate with
  | false =>
    refine ⟨.ok (explicitPlan names, []), state, [], Plain.nil, ?_, fun dryRun link => ?_⟩
    · rintro plan early ⟨⟩
      rfl
    · exact run_merge_alone he (state, link)
  | true =>
    refine ⟨planOf settings names (inspector.enumerate.run state).value,
      (inspector.enumerate.run state).world,
      (inspector.enumerate.run state).trace ++ listingNotes (inspector.enumerate.run state).value,
      (hi.enumerate state).append (plain_listingNotes _), ?_, fun dryRun link => ?_⟩
    · intro plan early hplan
      rw [planOf_eq] at hplan
      cases hearly : earlyFaults settings (inspector.enumerate.run state).value with
      | error fault =>
        rw [hearly] at hplan
        cases hplan
      | ok counted =>
        rw [hearly] at hplan
        cases hplan
        exact withoutPublishing_eq_self (kind_of_earlyFaults settings hearly)
    · exact run_merge he (state, link)

/-- One cycle. -/
theorem cycle_mirrors {inspector : Inspector σ} (hi : PlainInspector inspector) (state : σ)
    (idle : RegistryLink) {link : RegistryLink} (ht : link.registry.Tame) :
    Mirrors idle ((twin settings inspector alarm names true).cycle.run (state, idle))
      ((twin settings inspector alarm names false).cycle.run (state, link)) := by
  obtain ⟨planned, seen, trace, hplain, hearly, hmerge⟩ :=
    run_merge_twin settings alarm names hi state
  cases planned with
  | error fault =>
    rw [run_cycle_fault (by rw [hmerge]), run_cycle_fault (by rw [hmerge]), hmerge, hmerge]
    exact mirrors_of_plain rfl ht hplain
  | ok planned =>
    obtain ⟨plan, early⟩ := planned
    have hall := refreshAll_mirrors settings alarm names hi plan seen idle ht
    have hbefore := hplain.append (plain_emptyNotes plan)
    rw [run_cycle (by rw [hmerge]), run_cycle (by rw [hmerge]), hmerge, hmerge]
    -- The closing notices differ, since the wet cycle may count more faults, but both are plain.
    have hclosing : ∀ counted counted', Echoes (closingNotes plan counted)
        (closingNotes plan counted') := fun counted counted' =>
      (plain_closingNotes plan counted).echoes (plain_closingNotes plan counted')
    exact {
      toEchoes := ((hbefore.echoes hbefore).append hall.toEchoes).append (hclosing _ _)
      value := by
        rw [hall.value, map_withoutPublishing_append, hearly plan early rfl]
      state := hall.state
      idle := hall.idle
      tame := hall.tame }

/-! ### A run -/

theorem plain_roundNotes (faults : List Fault) : Plain (roundNotes faults) := by
  unfold roundNotes
  split
  · exact Plain.nil
  · exact Plain.note (by simp)

/-- How the waits of both belong together. -/
structure WaitsAlike (dry wet : Outcome (σ × RegistryLink) (Except Fault Bool)) : Prop where
  value : dry.value = wet.value
  state : dry.world.1 = wet.world.1
  tame : wet.world.2.registry.Tame
  dryPlain : Plain dry.trace
  wetPlain : Plain wet.trace

/-- Both wait, or neither does, and then both go on, or neither does, or both fail alike. -/
theorem wait_alike {alarm : Alarm (σ × RegistryLink)} (ha : BlindAlarm alarm) (state : σ)
    (idle : RegistryLink) {link : RegistryLink} (ht : link.registry.Tame) :
    WaitsAlike ((twin settings inspector alarm names true).wait.run (state, idle))
      ((twin settings inspector alarm names false).wait.run (state, link)) := by
  by_cases hstop : settings.refresh = none ∨ alarm.isSet (state, link) = true
  · have hdry : settings.refresh = none ∨ alarm.isSet (state, idle) = true :=
      hstop.imp_right fun hset => (ha.isSet state idle link).trans hset
    rw [run_wait_stop hdry, run_wait_stop hstop]
    exact ⟨rfl, rfl, ht, Plain.nil, Plain.nil⟩
  · obtain ⟨hrefresh, hset⟩ := not_or.1 hstop
    obtain ⟨seconds, hseconds⟩ := Option.ne_none_iff_exists'.1 hrefresh
    have hwet : alarm.isSet (state, link) = false := Bool.eq_false_iff.2 hset
    have hdry : alarm.isSet (state, idle) = false := (ha.isSet state idle link).trans hwet
    have hseen := ha.wait seconds state idle link
    rw [run_wait_go hseconds hdry, run_wait_go hseconds hwet]
    -- The alarm sees the same world apart from the registry, which it does not look at.
    have hthen : alarm.isSet ((alarm.wait seconds).run (state, idle)).world =
        alarm.isSet ((alarm.wait seconds).run (state, link)).world :=
      (ha.isSet _ _ _).trans (congrArg (fun seen => alarm.isSet (seen, _)) hseen)
    refine ⟨?_, hseen, ha.tame seconds state link ht, ha.plain .., ha.plain ..⟩
    show ((alarm.wait seconds).run (state, idle)).value.map
        (fun _ => !alarm.isSet ((alarm.wait seconds).run (state, idle)).world) = _
    rw [hthen, ha.value seconds state idle link]
    rfl

/-- Any number of cycles. -/
theorem runFor_mirrors {inspector : Inspector σ} {alarm : Alarm (σ × RegistryLink)}
    (hi : PlainInspector inspector) (ha : BlindAlarm alarm) (bound : Nat) (state : σ)
    (idle : RegistryLink) {link : RegistryLink} (ht : link.registry.Tame) :
    let dry := twin settings inspector alarm names true
    let wet := twin settings inspector alarm names false
    Echoes ((dry.runFor bound).run (state, idle)).trace
        ((wet.runFor bound).run (state, link)).trace ∧
      dry.rounds bound (state, idle) =
        (wet.rounds bound (state, link)).map (Except.map withoutPublishing) := by
  intro dry wet
  induction bound generalizing state idle link with
  | zero => exact ⟨Plain.nil.echoes Plain.nil, rfl⟩
  | succ bound ih =>
    have hcycle : Mirrors idle (dry.cycle.run (state, idle)) (wet.cycle.run (state, link)) :=
      cycle_mirrors settings alarm names hi state idle ht
    have hv := hcycle.value
    have hwait : WaitsAlike (dry.wait.run (dry.cycle.run (state, idle)).world)
        (wet.wait.run (wet.cycle.run (state, link)).world) := by
      rw [hcycle.world]
      exact wait_alike settings inspector names ha _ idle hcycle.tame
    have htrace := hcycle.toEchoes.append (hwait.dryPlain.echoes hwait.wetPlain)
    have hsame := hwait.value
    -- The round of the wet run goes in one of four ways, and that of the dry run in the same one.
    cases wet.round (state, link) with
    | failed hw =>
      rw [hw] at hv
      rw [run_runFor_fault hv, run_runFor_fault hw, rounds_fault hv, rounds_fault hw]
      exact ⟨hcycle.toEchoes, rfl⟩
    | unwaited hw hgo =>
      rw [hw] at hv
      rw [hgo] at hsame
      rw [run_runFor_unwaited hv hsame, run_runFor_unwaited hw hgo,
        rounds_last hv (by rw [hsame]; exact nofun), rounds_last hw (by rw [hgo]; exact nofun)]
      exact ⟨htrace, rfl⟩
    | last hw hgo =>
      rw [hw] at hv
      rw [hgo] at hsame
      rw [run_runFor_last hv hsame, run_runFor_last hw hgo,
        rounds_last hv (by rw [hsame]; exact nofun), rounds_last hw (by rw [hgo]; exact nofun)]
      exact ⟨htrace, rfl⟩
    | @next faults hw hgo =>
      rw [hw] at hv
      rw [hgo] at hsame
      -- The wait may have changed the registry of the dry run as well, so the rest of the run
      -- starts from whatever it has become.
      obtain ⟨hrest, hrounds⟩ := ih
        (wet.wait.run (wet.cycle.run (state, link)).world).world.1
        (dry.wait.run (dry.cycle.run (state, idle)).world).world.2 hwait.tame
      have hworld : (dry.wait.run (dry.cycle.run (state, idle)).world).world =
          ((wet.wait.run (wet.cycle.run (state, link)).world).world.1,
            (dry.wait.run (dry.cycle.run (state, idle)).world).world.2) :=
        Prod.ext hwait.state rfl
      rw [← hworld] at hrest hrounds
      rw [run_runFor_next hv hsame, run_runFor_next hw hgo, rounds_next hv hsame,
        rounds_next hw hgo, hrounds]
      have hnotes := (plain_roundNotes (withoutPublishing faults)).echoes
        (plain_roundNotes faults)
      exact ⟨(htrace.append hnotes).append hrest, rfl⟩

end

/-- A dry run is faithful. Let two reconcilers differ in nothing but the dry run, and let each
have the publisher of its own settings. Over any number of cycles the dry one makes no request to
the registry, it announces the keys and values that the wet one sets, in the same order, and each of
its cycles ends with the faults of the wet one's that are not about publishing. -/
theorem dry_run_faithful {settings : Settings} {inspector : Inspector σ}
    {alarm : Alarm (σ × RegistryLink)} {containers : List Json}
    {dry wet : Reconciler (σ × RegistryLink)}
    (hdry : create? { settings with dryRun := true } inspector.beside
      (Publication.publisherBeside σ { settings with dryRun := true }) alarm containers = .ok dry)
    (hwet : create? { settings with dryRun := false } inspector.beside
      (Publication.publisherBeside σ { settings with dryRun := false }) alarm containers = .ok wet)
    (hi : PlainInspector inspector) (ha : BlindAlarm alarm) {link : RegistryLink}
    (ht : link.registry.Tame) (bound : Nat) (state : σ) (idle : RegistryLink) :
    let dryTrace := ((dry.runFor bound).run (state, idle)).trace
    let wetTrace := ((wet.runFor bound).run (state, link)).trace
    registryRequests dryTrace = [] ∧
      announcedIn dryTrace = (setsIn wetTrace).map announcementOf ∧
      dry.rounds bound (state, idle) =
        (wet.rounds bound (state, link)).map (Except.map withoutPublishing) ∧
      ∀ world, (dry.cycle.run world).world.2 = world.2 := by
  obtain ⟨-, hd⟩ := create?_eq_ok_iff.1 hdry
  obtain ⟨-, hw⟩ := create?_eq_ok_iff.1 hwet
  -- Both are the same reconciler but for the one setting, which is what the lemmas about twins
  -- are about.
  have hd : dry = twin settings inspector alarm (uniqueNames containers) true := hd
  have hw : wet = twin settings inspector alarm (uniqueNames containers) false := hw
  intro dryTrace wetTrace
  have hrun := runFor_mirrors settings (uniqueNames containers) hi ha bound state idle ht
  rw [← hd, ← hw] at hrun
  obtain ⟨htrace, hrounds⟩ := hrun
  refine ⟨htrace.silent, htrace.announced, hrounds, fun world => ?_⟩
  have hcycle := cycle_mirrors settings alarm (uniqueNames containers) hi world.1 world.2 ht
  rw [← hd] at hcycle
  exact hcycle.idle

/-- An alarm that is never set. -/
def silentAlarm : Alarm (σ × RegistryLink) where
  isSet _ := false
  wait seconds := Task.ofAct (Act.request (.wait seconds))

theorem blind_silentAlarm : BlindAlarm (silentAlarm : Alarm (σ × RegistryLink)) where
  isSet _ _ _ := rfl
  wait _ _ _ _ := rfl
  value _ _ _ _ := rfl
  tame _ _ _ h := h
  plain _ _ := ⟨rfl, rfl⟩

/-- Settings for two cycles and more, over containers that are reached by their names. -/
def pacedSettings : Settings := { useNames := true, refresh := some 5 }

/-- Attributes that declare one domain, which is made from the container's name. -/
def oneDomain (name : String) : Json :=
  .obj [("Config", .obj [("Env", .arr [.str ("BEACHHEAD_DOMAINS=" ++ name ++ ".org:http")])])]

/-- A daemon whose containers declare one domain each. -/
def declaringDaemon : DaemonLink where
  daemon := { attributes := fun name => .ok (oneDomain name) }

/-- A registry that refuses the key of one of them. -/
def refusingRegistry : RegistryLink where
  registry := { refusal := fun key =>
    if key = "beachhead:one" then some ⟨.stated .registryTimeout "timed out", none⟩ else none }

theorem dry_run_faithful_two_cycles :
    ∃ dry wet : Reconciler (DaemonLink × RegistryLink),
      create? { pacedSettings with dryRun := true }
          (Inspection.daemonInspector pacedSettings).beside
          (Publication.publisherBeside DaemonLink { pacedSettings with dryRun := true }) silentAlarm
          [.str "one", .str "two"] = .ok dry ∧
        create? { pacedSettings with dryRun := false }
            (Inspection.daemonInspector pacedSettings).beside
            (Publication.publisherBeside DaemonLink { pacedSettings with dryRun := false })
            silentAlarm [.str "one", .str "two"] = .ok wet ∧
          refusingRegistry.registry.Tame ∧
            announcedIn ((dry.runFor 2).run (declaringDaemon, {})).trace =
              (setsIn ((wet.runFor 2).run (declaringDaemon, refusingRegistry)).trace).map
                announcementOf ∧
            (setsIn ((wet.runFor 2).run (declaringDaemon, refusingRegistry)).trace).map Prod.fst =
              ["beachhead:one", "beachhead:two", "beachhead:one", "beachhead:two"] ∧
            (wet.rounds 2 (declaringDaemon, refusingRegistry)).map
              (fun round => round.toOption.map List.length) = [some 1, some 1] ∧
            (dry.rounds 2 (declaringDaemon, {})).map Except.toOption = [some [], some []] := by
  have hdry : create? { pacedSettings with dryRun := true }
      (Inspection.daemonInspector pacedSettings).beside
      (Publication.publisherBeside DaemonLink { pacedSettings with dryRun := true }) silentAlarm
      [.str "one", .str "two"] = .ok _ := create?_eq_ok_iff.2 ⟨by decide, rfl⟩
  have hwet : create? { pacedSettings with dryRun := false }
      (Inspection.daemonInspector pacedSettings).beside
      (Publication.publisherBeside DaemonLink { pacedSettings with dryRun := false }) silentAlarm
      [.str "one", .str "two"] = .ok _ := create?_eq_ok_iff.2 ⟨by decide, rfl⟩
  -- The registry refuses one key, and in a way that the cycle handles.
  have ht : refusingRegistry.registry.Tame := by
    intro key fault hf
    simp only [refusingRegistry] at hf
    split at hf
    · cases hf
      rfl
    · cases hf
  obtain ⟨-, hannounced, hrounds, -⟩ := dry_run_faithful hdry hwet
    (plain_daemonInspector pacedSettings) blind_silentAlarm ht 2 declaringDaemon {}
  refine ⟨_, _, hdry, hwet, ht, hannounced, ?_, ?_, ?_⟩
  · decide +kernel
  · decide +kernel
  · rw [hrounds]
    decide +kernel

end Reconciler

end RegistrySync
