/-
What a run writes to the registry.

The reconciler has the daemon's inspector and the registry's publisher, each on its part of a
world in which everything else may change at every call: what the daemon lists and tells, and what
the registry refuses.

* `IsName` — names without blanks at their ends, and not empty;
* `good_of_inspected` — what a container declares is a host with such a name and well-formed specs;
* `SoundWrite` — a key, a value and an expiry as they should be;
* `run_writes_records` — a run of any length writes nothing else.
-/
import RegistrySync.Proofs.Inspection.Declaration
import RegistrySync.Proofs.Inspection.Link
import RegistrySync.Proofs.Publication.Record
import RegistrySync.Proofs.Publication.Steps
import RegistrySync.Proofs.Reconciler.Requests
import RegistrySync.Proofs.Settings.Usable

namespace RegistrySync

open Inspection (inspected listed)
open Publication (IsRecordOf)

variable {ω : Type} {settings : Settings}

/-! ### Names -/

/-- A name without blanks at its ends, and not empty. -/
structure IsName (name : String) : Prop where
  ne_empty : name ≠ ""
  trimmed : Text.Trimmed name.toList

theorem isName_of_mem_uniqueNames {values : List Json} {name : String}
    (h : name ∈ Reconciler.uniqueNames values) : IsName name := by
  refine ⟨Reconciler.ne_empty_of_mem_uniqueNames h, ?_⟩
  have hmem := (List.mem_filter.1 (Text.mem_distinct_iff.1 h)).1
  obtain ⟨value, -, rfl⟩ := List.mem_map.1 hmem
  exact Text.trimmed_ite_strip value.isEmpty value.text

theorem trimmed_listedText (name : String) (container : Json) :
    Text.Trimmed (Inspection.listedText name container).toList := by
  unfold Inspection.listedText
  split
  · exact Text.trimmed_ite_strip _ _
  · exact Text.trimmed_nil

theorem isName_of_mem_listed {answer : Except Fault (List Json)} {names : List String}
    (h : listed answer = .ok names) {name : String} (hn : name ∈ names) : IsName name := by
  refine ⟨Inspection.ne_empty_of_mem_listed h hn, ?_⟩
  cases answer with
  | error fault => cases h
  | ok containers =>
    cases h
    obtain ⟨container, -, rfl⟩ := List.mem_map.1 (List.mem_filter.1 hn).1
    unfold Inspection.listedName
    simp only
    split
    · exact trimmed_listedText "id" container
    · exact trimmed_listedText "name" container

/-! ### Declarations -/

/-- A publication of well-formed specs for a host with a name. -/
structure Publication.Good (publication : Publication) : Prop where
  host : IsName publication.host
  specs : ∀ spec ∈ publication.specs, spec.WellFormed

theorem wellFormed_of_mem_readEnvironment {lines : List String} {name : String} {spec : DomainSpec}
    (h : spec ∈ (Inspection.readEnvironment lines name []).parse.specs) : spec.WellFormed := by
  have h : spec ∈ (Inspection.readValues (Inspection.declaredValues name lines) []).specs := h
  rw [Inspection.readValues_eq, List.nil_append] at h
  obtain ⟨parse, hp, hs⟩ := DomainSpec.Parse.mem_concat_specs h
  obtain ⟨value, -, rfl⟩ := List.mem_map.1 hp
  exact DomainSpec.wellFormed_of_mem_parse hs

/-- What a container declares is good to publish: its host is its own name, or an address without
which there is no inspection. -/
theorem good_of_inspected {name : String} (hn : IsName name) {answer : Except Fault Json}
    {inspection : Inspection} (h : inspected settings name answer = .ok inspection)
    (hd : inspection.declared = true) : (Publication.ofInspection inspection).Good := by
  cases answer with
  | error fault => cases h
  | ok attributes =>
    have h : (Inspection.ofAttributes settings name attributes).2 = .ok inspection := h
    cases hl : Inspection.environmentLines? attributes with
    | none =>
      rw [Inspection.ofAttributes, hl] at h
      cases h
    | some lines =>
      cases hs : (Inspection.readEnvironment lines settings.envVar []).parse.stop with
      | some stop =>
        rw [Inspection.ofAttributes_of_stop hl hs] at h
        cases h
      | none =>
        rw [Inspection.ofAttributes_of_clean hl hs] at h
        split at h
        · cases h
        · rename_i hhost
          cases h
          refine ⟨?_, fun spec => wellFormed_of_mem_readEnvironment⟩
          show IsName (Inspection.hostOf settings name attributes)
          cases hu : settings.useNames with
          | true => rwa [Inspection.hostOf, hu]
          | false =>
            -- Without an address a container that declares domains has no inspection.
            have hne : Inspection.hostOf settings name attributes ≠ "" := fun he =>
              hhost ⟨hu, he, hd⟩
            refine ⟨hne, ?_⟩
            rw [Inspection.hostOf, hu]
            exact Text.trimmed_ite_strip _ _

/-! ### Writes -/

/-- A write as it should be: the key is the one of a host with a name, the value reads as its
records, and the entry expires after some seconds, if it does. -/
structure SoundWrite (settings : Settings) (key value : String) (expire : Option Int) : Prop where
  record : ∃ host, IsName host ∧ key = settings.keyPrefix ++ host ∧
    ∃ items, Json.read? value = some (.arr items) ∧ ∀ item ∈ items, IsRecordOf host item
  bare : key ≠ settings.keyPrefix
  expire : ∀ seconds, expire = some seconds → 0 < seconds

/-- A request that writes nothing, or what is as it should be. -/
def SoundRequest (settings : Settings) (request : Request) : Prop :=
  ∀ key value expire, request = .setKey key value expire → SoundWrite settings key value expire

/-- What is good to publish is written as it should be. -/
theorem Publication.Good.soundWrite {publication : Publication} (h : publication.Good)
    (hp : settings.problems = []) :
    SoundWrite settings (recordKey settings publication.host) publication.encode
      settings.expire := by
  refine ⟨⟨publication.host, h.host, rfl, _, Publication.read?_encode publication, ?_⟩, ?_,
    fun seconds hs => settings.expire_pos hp hs⟩
  · rw [List.forall_mem_map]
    exact fun spec hs => Publication.isRecordOf_written (h.specs spec hs) publication.host
  · intro hkey
    have hlen := congrArg String.length hkey
    rw [recordKey, String.length_append] at hlen
    exact h.host.ne_empty (String.length_eq_zero_iff.1 (by omega))

/-! ### The parts of a run -/

/-- Using the link to the daemon writes nothing. -/
theorem requesting_useTrace (link : DaemonLink) {request : Request}
    (h : SoundRequest settings request) :
    Requesting (SoundRequest settings) (Inspection.useTrace settings link request) := by
  have hopen : SoundRequest settings (.openDaemon (Inspection.clientUrl settings)) := by
    rintro key value expire ⟨⟩
  unfold Inspection.useTrace
  split
  · simpa using h
  · split
    · simpa using hopen
    · simpa using ⟨hopen, h⟩

theorem requesting_connectTrace (link : RegistryLink) :
    Requesting (SoundRequest settings) (Publication.connectTrace settings link) := by
  unfold Publication.connectTrace
  split
  · exact .nil
  · rw [Requesting.request_iff, Requesting.record_iff]
    refine ⟨?_, .nil⟩
    rintro key value expire ⟨⟩

section

variable {getD : ω → DaemonLink} {putD : DaemonLink → ω → ω} {getR : ω → RegistryLink}
  {putR : RegistryLink → ω → ω}

/-- The daemon's inspector finds nothing but names. -/
theorem enumerate_sound :
    ((Inspection.daemonInspector settings).onPart getD putD).enumerate.Sound
      (SoundRequest settings) fun listing => ∀ name ∈ listing, IsName name := by
  constructor
  · intro world
    show Requesting _ (((Inspection.enumerate settings).onPart getD putD).run world).trace
    rw [Task.run_onPart, Inspection.run_enumerate, Requesting.append_iff]
    refine ⟨requesting_useTrace _ ?_, .of_requestsOf ?_⟩
    · rintro key value expire ⟨⟩
    · unfold Inspection.listedNotes
      split <;> rfl
  · intro world listing hv
    change (((Inspection.enumerate settings).onPart getD putD).run world).value = _ at hv
    rw [Task.run_onPart, Inspection.run_enumerate] at hv
    exact fun name hn => isName_of_mem_listed hv hn

/-- What it finds out about a name is good to publish. -/
theorem inspect_sound {name : String} (hn : IsName name) :
    (((Inspection.daemonInspector settings).onPart getD putD).inspect name).Sound
      (SoundRequest settings) fun inspection =>
        inspection.declared = true → (Publication.ofInspection inspection).Good := by
  constructor
  · intro world
    show Requesting _ (((Inspection.inspect settings name).onPart getD putD).run world).trace
    rw [Task.run_onPart, Inspection.run_inspect, Requesting.append_iff]
    refine ⟨requesting_useTrace _ ?_, ?_⟩
    · rintro key value expire ⟨⟩
    · unfold Inspection.inspectedNotes
      split
      · exact .records _
      · exact .nil
  · intro world inspection hv
    change (((Inspection.inspect settings name).onPart getD putD).run world).value = _ at hv
    rw [Task.run_onPart, Inspection.run_inspect] at hv
    exact good_of_inspected hn hv

/-- The registry's publisher writes what is good as it should be. -/
theorem publish_sound (hp : settings.problems = []) {publication : Publication}
    (h : publication.Good) :
    (((Publication.registryPublisher settings).onPart getR putR).publish publication).Sound
      (SoundRequest settings) fun _ => True := by
  refine ⟨fun world => ?_, fun _ _ _ => trivial⟩
  show Requesting _ (((Publication.publish settings publication).onPart getR putR).run world).trace
  rw [Task.run_onPart, Publication.run_publish, Requesting.append_iff, Requesting.request_iff]
  refine ⟨requesting_connectTrace _, ?_, .of_requestsOf ?_⟩
  · rintro key value expire ⟨⟩
    exact h.soundWrite hp
  · unfold Publication.publishedNotes
    split <;> rfl

end

namespace Reconciler

/-- Whatever the daemon and the registry do, and however long a run is, every key that it sets is
the prefix with the name of a host behind it; its value reads as the records of this host, each with
an id, a domain, and a port in range for at least one protocol; and it expires after a positive time
or not at all. -/
theorem run_writes_records {getD : ω → DaemonLink} {putD : DaemonLink → ω → ω}
    {getR : ω → RegistryLink} {putR : RegistryLink → ω → ω} {alarm : Alarm ω}
    {containers : List Json} {r : Reconciler ω}
    (hr : create? settings ((Inspection.daemonInspector settings).onPart getD putD)
      ((Publication.registryPublisher settings).onPart getR putR) alarm containers = .ok r)
    (ha : ∀ seconds world key value expire,
      .setKey key value expire ∉ requestsOf ((alarm.wait seconds).run world).trace)
    (bound : Nat) (world : ω) {key value : String} {expire : Option Int}
    (h : .setKey key value expire ∈ requestsOf ((r.runFor bound).run world).trace) :
    SoundWrite settings key value expire := by
  obtain ⟨hp, rfl⟩ := create?_eq_ok_iff.1 hr
  have hguarded : Guarded (SoundRequest settings) IsName Publication.Good
      ⟨settings, (Inspection.daemonInspector settings).onPart getD putD,
        (Publication.registryPublisher settings).onPart getR putR, alarm,
        uniqueNames containers⟩ := by
    -- The alarm is the one part that is not known, and it is assumed to write nothing.
    refine ⟨fun name => isName_of_mem_uniqueNames, enumerate_sound, fun name => inspect_sound,
      fun publication => publish_sound hp, fun seconds world request hq => ?_⟩
    rintro key value expire rfl
    exact absurd hq (ha seconds world key value expire)
  exact runFor_sound hguarded bound world _ h key value expire rfl

/-- Settings under which containers are found and reached at their addresses. -/
def findingSettings : Settings := { enumerate := true, refresh := some 5 }

/-- A reconciler over a daemon and a registry, whose waits end at once. -/
def findingReconciler : Reconciler (DaemonLink × RegistryLink) where
  settings := findingSettings
  inspector := (Inspection.daemonInspector findingSettings).onPart Prod.fst
    fun link world => (link, world.2)
  publisher := (Publication.registryPublisher findingSettings).onPart Prod.snd
    fun link world => (world.1, link)
  alarm := ⟨fun _ => false, fun seconds => Task.ofAct (Act.request (.wait seconds))⟩
  names := []

/-- A daemon that cannot be reached at first, and then lists a container without a name. -/
def lateDaemon : DaemonLink where
  daemon :=
    { refusals := ["connection refused"]
      running := .ok [.obj [("name", .null), ("id", .str " 4f2a\n")]]
      attributes := fun _ => .ok (.obj
        [("Config", .obj [("Env", .arr [.str "BEACHHEAD_DOMAINS=example.org.:https=8443"])]),
          ("NetworkSettings", .obj [("IPAddress", .str "10.0.0.2 ")])]) }

/-- The record of that container. -/
def foundRecord : String :=
  "[\x7b\"domain\":\"example.org\",\"https\":\x7b\"host\":\"10.0.0.2\",\"port\":8443\x7d," ++
    "\"id\":\"example_org\"\x7d]"

theorem run_writes_records_second_cycle :
    .setKey "beachhead:10.0.0.2" foundRecord (some 60) ∈
        requestsOf ((findingReconciler.runFor 2).run (lateDaemon, {})).trace ∧
      SoundWrite findingSettings "beachhead:10.0.0.2" foundRecord (some 60) := by
  have hr : create? findingSettings findingReconciler.inspector findingReconciler.publisher
      findingReconciler.alarm [] = .ok findingReconciler :=
    create?_eq_ok_iff.2 ⟨by decide, rfl⟩
  have hmem : .setKey "beachhead:10.0.0.2" foundRecord (some 60) ∈
      requestsOf ((findingReconciler.runFor 2).run (lateDaemon, {})).trace := by
    decide +kernel
  refine ⟨hmem, run_writes_records hr ?_ 2 (lateDaemon, {}) hmem⟩
  intro seconds world key value expire hwait
  simp [findingReconciler, requestsOf] at hwait

end Reconciler

end RegistrySync
