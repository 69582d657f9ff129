/-
Cycles on a stage: the inspector asks the daemon of the stage, and the publisher
writes to its registry.

* `OnStage` — a reconciler with these collaborators, over usable settings;
* `run_stageEnumerate`, `run_stageInspect`, `run_stagePublish` — what each of them
  answers, and which part of the stage it changes;
* `earlyFaults_stage` — a listing that fails never ends a cycle.
-/
import RegistrySync.Proofs.Inspection.Link
import RegistrySync.Proofs.Publication.Steps
import RegistrySync.Proofs.Reconciler.Plan
import RegistrySync.Rehearsal

namespace RegistrySync

open Inspection Rehearsal

/-- A reconciler on a stage, with the collaborators of a real run and usable settings. -/
structure OnStage (r : Reconciler Stage) : Prop where
  inspector : r.inspector = stageInspector r.settings
  publisher : r.publisher = stagePublisher r.settings
  usable : r.settings.problems = []

theorem onStage_of_create? {settings : Settings} {alarm : Alarm Stage} {containers : List Json}
    {r : Reconciler Stage}
    (h : Reconciler.create? settings (stageInspector settings) (stagePublisher settings) alarm
      containers = .ok r) : OnStage r := by
  obtain ⟨hp, rfl⟩ := Reconciler.create?_eq_ok_iff.1 h
  exact ⟨rfl, rfl, hp⟩

namespace Rehearsal

/-- The registry of a stage. -/
def Stage.kept (stage : Stage) : Registry := stage.registry.registry

/-- What the daemon of a stage answers about a container. -/
def Stage.answer (stage : Stage) (name : String) : Except Fault Json :=
  stage.daemon.through (stage.daemon.daemon.attributes name)

/-- The names that the daemon of a stage lists. -/
def Stage.listing (stage : Stage) : Except Fault (List String) :=
  listed (stage.daemon.through stage.daemon.daemon.running)

/-- The stage after one use of the link to the daemon. -/
def Stage.asked (stage : Stage) : Stage := { stage with daemon := stage.daemon.used }

end Rehearsal

variable {r : Reconciler Stage}

theorem run_stageEnumerate (hr : OnStage r) (stage : Stage) :
    r.inspector.enumerate.run stage =
      ⟨stage.listing, stage.asked,
        useTrace r.settings stage.daemon .listRunning ++
          listedNotes (stage.daemon.through stage.daemon.daemon.running)⟩ := by
  rw [hr.inspector]
  show ((enumerate r.settings).onPart _ _).run stage = _
  rw [Task.run_onPart, run_enumerate]
  rfl

theorem run_stageInspect (hr : OnStage r) (name : String) (stage : Stage) :
    (r.inspector.inspect name).run stage =
      ⟨inspected r.settings name (stage.answer name), stage.asked,
        useTrace r.settings stage.daemon (.fetch name) ++
          inspectedNotes r.settings name (stage.answer name)⟩ := by
  rw [hr.inspector]
  show ((inspect r.settings name).onPart _ _).run stage = _
  rw [Task.run_onPart, run_inspect]
  rfl

theorem run_stagePublish (hr : OnStage r) (publication : Publication) (stage : Stage) :
    (r.publisher.publish publication).run stage =
      ⟨Publication.published (recordKey r.settings publication.host)
          (stage.kept.refusal (recordKey r.settings publication.host)),
        { stage with
          registry := ⟨stage.kept.attempt (recordKey r.settings publication.host)
            (Publication.entry r.settings publication), true⟩ },
        Publication.connectTrace r.settings stage.registry ++
          .request (.setKey (recordKey r.settings publication.host) publication.encode
            r.settings.expire) ::
          Publication.publishedNotes r.settings publication
            (stage.kept.refusal (recordKey r.settings publication.host))⟩ := by
  rw [hr.publisher]
  show ((Publication.publish r.settings publication).onPart _ _).run stage = _
  rw [Task.run_onPart, Publication.run_publish]
  rfl

/-- Whatever the daemon lists, there is a plan: a failed listing counts as a fault and leaves the
names that were given on purpose. -/
theorem earlyFaults_stage (settings : Settings) (stage : Stage) :
    ∃ early, Reconciler.earlyFaults settings stage.listing = .ok early := by
  refine Reconciler.exists_earlyFaults (fun fault hl => ?_) settings
  rw [kind_of_listed hl]
  rfl

/-- The plan of a cycle on a stage, which uses the link to the daemon only to enumerate. -/
theorem merge_stage (hr : OnStage r) (stage : Stage) :
    ∃ early,
      (r.merge.run stage).value =
          .ok ((Reconciler.mergedNames r.settings r.names stage.listing).map
            (Reconciler.entryOf r.names), early) ∧
        (r.merge.run stage).world = if r.settings.enumerate then stage.asked else stage := by
  obtain ⟨early, he⟩ := earlyFaults_stage r.settings stage
  have hp := Reconciler.planOf_eq r.settings r.names stage.listing
  rw [he] at hp
  refine ⟨early, ?_⟩
  by_cases hs : r.settings.enumerate = true
  · rw [Reconciler.run_merge hs, run_stageEnumerate hr, if_pos hs]
    exact ⟨hp, rfl⟩
  · have hs : r.settings.enumerate = false := by simpa using hs
    rw [Reconciler.run_merge_alone hs, hs, ← Reconciler.planOf_alone hs r.names stage.listing]
    exact ⟨hp, rfl⟩

end RegistrySync
