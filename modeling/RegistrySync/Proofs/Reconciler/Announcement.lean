/-
What a trace tells of the registry: requests to it, and announcements of a dry run.

* `registryRequests`, `setsIn` — the requests to the registry, and the pairs of keys and values
  that are set;
* `announcedIn` — the announcements of the reconciler;
* `Plain` — a trace with neither of them;
* `Echoes` — a trace that announces what another one sets;
* `plain_of_foreign` — a trace without requests to the registry in which nobody writes in the
  reconciler's name is plain, and so is all that the daemon's inspector does.
-/
import RegistrySync.Proofs.Inspection.Link
import RegistrySync.Proofs.Reconciler.Steps

namespace RegistrySync

open Journal (Level Record)

variable {σ : Type}

/-- Whether a request is one to the registry. -/
def Request.isRegistry : Request → Bool
  | .openRegistry .. | .setKey .. => true
  | _ => false

/-- The key and the value of a request to set a key. -/
def Request.set? : Request → Option (String × String)
  | .setKey key value _ => some (key, value)
  | _ => none

/-- The requests to the registry in a trace, in order. -/
def registryRequests (trace : List Event) : List Request :=
  (requestsOf trace).filter (·.isRegistry)

/-- The keys that are set in a trace, each with its value, in order. -/
def setsIn (trace : List Event) : List (String × String) :=
  (requestsOf trace).filterMap Request.set?

@[simp] theorem registryRequests_append (a b : List Event) :
    registryRequests (a ++ b) = registryRequests a ++ registryRequests b := by
  simp [registryRequests]

@[simp] theorem setsIn_append (a b : List Event) : setsIn (a ++ b) = setsIn a ++ setsIn b := by
  simp [setsIn]

/-- Without requests to the registry no key is set. -/
theorem setsIn_eq_nil {trace : List Event} (h : registryRequests trace = []) :
    setsIn trace = [] := by
  rw [setsIn, List.filterMap_eq_nil_iff]
  intro request hr
  have hn := List.filter_eq_nil_iff.1 h request hr
  cases request <;> first | rfl | exact absurd rfl hn

namespace Reconciler

/-- The record that announces that a key would be set to a value. -/
def announcementOf (pair : String × String) : Record :=
  ⟨.info, Journal.Source.reconciler, "Dry run; would publish " ++ pair.1 ++ " = " ++ pair.2⟩

/-- Whether a record is such an announcement. -/
def isAnnouncement (record : Record) : Bool :=
  record.source == Journal.Source.reconciler &&
    "Dry run; would publish ".toList.isPrefixOf record.text.toList

/-- The announcements in a trace, in order. -/
def announcedIn (trace : List Event) : List Record := (recordsOf trace).filter isAnnouncement

@[simp] theorem announcedIn_append (a b : List Event) :
    announcedIn (a ++ b) = announcedIn a ++ announcedIn b := by
  simp [announcedIn]

/-- A trace without requests to the registry and without announcements. -/
structure Plain (trace : List Event) : Prop where
  requests : registryRequests trace = []
  announced : announcedIn trace = []

namespace Plain

theorem nil : Plain [] := ⟨rfl, rfl⟩

theorem sets {trace : List Event} (h : Plain trace) : setsIn trace = [] := setsIn_eq_nil h.requests

theorem append {a b : List Event} (ha : Plain a) (hb : Plain b) : Plain (a ++ b) :=
  ⟨by rw [registryRequests_append, ha.requests, hb.requests]; rfl,
    by rw [announcedIn_append, ha.announced, hb.announced]; rfl⟩

/-- A notice of the reconciler that does not start as announcements do. -/
theorem note {level : Level} {text : String} (h : text.toList.head? ≠ some 'D') :
    Plain [Reconciler.note level text] := by
  have hprefix : ¬ "Dry run; would publish ".toList <+: text.toList := by
    rintro ⟨rest, hrest⟩
    rw [← hrest] at h
    exact h rfl
  refine ⟨rfl, ?_⟩
  simpa [announcedIn, recordsOf, Reconciler.note, isAnnouncement] using hprefix

end Plain

/-- How the trace of a dry run goes with that of a wet one: it makes no request to the registry,
and it announces what the other one sets. -/
structure Echoes (dry wet : List Event) : Prop where
  silent : registryRequests dry = []
  announced : announcedIn dry = (setsIn wet).map announcementOf

theorem Plain.echoes {dry wet : List Event} (hd : Plain dry) (hw : Plain wet) : Echoes dry wet :=
  ⟨hd.requests, by rw [hd.announced, hw.sets]; rfl⟩

theorem Echoes.append {dry wet dry' wet' : List Event} (h : Echoes dry wet)
    (h' : Echoes dry' wet') : Echoes (dry ++ dry') (wet ++ wet') :=
  ⟨by rw [registryRequests_append, h.silent, h'.silent]; rfl,
    by rw [announcedIn_append, setsIn_append, List.map_append, h.announced, h'.announced]⟩

/-- What others do is plain, as long as it is no request to the registry and no record in the
reconciler's name. -/
theorem plain_of_foreign {trace : List Event}
    (hq : ∀ request, .request request ∈ trace → request.isRegistry = false)
    (hr : ∀ record, .record record ∈ trace → record.source ≠ Journal.Source.reconciler) :
    Plain trace := by
  constructor
  · rw [registryRequests, List.filter_eq_nil_iff]
    intro request hm
    obtain ⟨event, he, hsome⟩ := List.mem_filterMap.1 hm
    cases event with
    -- A record is no request, and the other way round below.
    | record record => cases hsome
    | request made =>
      cases hsome
      simp [hq _ he]
  · rw [announcedIn, List.filter_eq_nil_iff]
    intro record hm
    obtain ⟨event, he, hsome⟩ := List.mem_filterMap.1 hm
    cases event with
    | request request => cases hsome
    | record written =>
      cases hsome
      simp [isAnnouncement, hr _ he]

/-! ### The notices of a cycle -/

theorem plain_refreshNote (name : String) : Plain [refreshNote name] :=
  Plain.note (by simp)

theorem plain_inspectionNote (settings : Settings) (name : String) (pending : Pending)
    (fault : Fault) : Plain [inspectionNote settings name pending fault] :=
  Plain.note (by simp)

theorem plain_undeclaredNote (settings : Settings) (name : String) (pending : Pending) :
    Plain [undeclaredNote settings name pending] :=
  Plain.note (by simp)

theorem plain_publicationNotes (name : String) (pending : Pending) (publication : Publication)
    (published : Except Fault Unit) :
    Plain (publicationNotes name pending publication published) := by
  unfold publicationNotes
  split
  · exact Plain.note (by simp)
  · split
    · exact Plain.note (by simp)
    · exact Plain.nil

theorem plain_listingNotes (listing : Except Fault (List String)) :
    Plain (listingNotes listing) := by
  unfold listingNotes
  split
  · exact Plain.nil
  · split
    · exact Plain.note (by simp)
    · exact Plain.nil

theorem plain_emptyNotes (plan : Plan) : Plain (emptyNotes plan) := by
  unfold emptyNotes
  split
  · exact Plain.note (by decide)
  · exact Plain.nil

theorem plain_closingNotes (plan : Plan) (faults : Except Fault (List Fault)) :
    Plain (closingNotes plan faults) := by
  unfold closingNotes
  split
  · exact Plain.note (by simp)
  · exact Plain.nil

/-- An announcement is announced. -/
theorem announcedIn_announcement (settings : Settings) (publication : Publication) :
    announcedIn [announcement settings publication] =
      [announcementOf (recordKey settings publication.host, publication.encode)] := by
  have hprefix : "Dry run; would publish ".toList <+:
      (announcementOf (recordKey settings publication.host, publication.encode)).text.toList := by
    rw [announcementOf]
    simp only [String.toList_append, List.append_assoc]
    exact List.prefix_append _ _
  have hyes : isAnnouncement
      (announcementOf (recordKey settings publication.host, publication.encode)) = true := by
    rw [isAnnouncement, List.isPrefixOf_iff_prefix.2 hprefix]
    rfl
  exact List.filter_cons_of_pos hyes

/-! ### Inspectors -/

/-- An inspector that makes no requests to the registry and no announcements. -/
structure PlainInspector (inspector : Inspector σ) : Prop where
  enumerate : ∀ state, Plain (inspector.enumerate.run state).trace
  inspect : ∀ name state, Plain ((inspector.inspect name).run state).trace

theorem plain_useTrace (settings : Settings) (link : DaemonLink) {request : Request}
    (h : request.isRegistry = false) : Plain (Inspection.useTrace settings link request) := by
  have hopen : (Request.openDaemon (Inspection.clientUrl settings)).isRegistry = false := rfl
  have hsource : Journal.Source.inspector ≠ Journal.Source.reconciler := by decide
  unfold Inspection.useTrace
  split
  · exact plain_of_foreign (by simpa using h) (by simp)
  · split
    · exact plain_of_foreign (by simpa using hopen) (by simp)
    · exact plain_of_foreign (by simpa using ⟨hopen, h⟩) (by simpa using hsource)

theorem plain_inspectedNotes (settings : Settings) (name : String) (answer : Except Fault Json) :
    Plain (Inspection.inspectedNotes settings name answer) := by
  cases answer with
  | error fault => exact Plain.nil
  | ok attributes =>
    refine plain_of_foreign (by simp [Inspection.inspectedNotes]) fun record hm => ?_
    obtain ⟨written, hw, heq⟩ := List.mem_map.1 hm
    cases heq
    unfold Inspection.ofAttributes at hw
    split at hw
    · cases hw
    · obtain ⟨param, -, rfl⟩ := List.mem_map.1 hw
      have hsource : Journal.Source.domainSpec ≠ Journal.Source.reconciler := by decide
      exact hsource

/-- The daemon's inspector is plain. -/
theorem plain_daemonInspector (settings : Settings) :
    PlainInspector (Inspection.daemonInspector settings) where
  enumerate link := by
    show Plain ((Inspection.enumerate settings).run link).trace
    have hsource : Journal.Source.inspector ≠ Journal.Source.reconciler := by decide
    rw [Inspection.run_enumerate]
    refine (plain_useTrace settings link rfl).append ?_
    unfold Inspection.listedNotes
    split
    · exact plain_of_foreign (by simp) (by simpa using hsource)
    · exact Plain.nil
  inspect name link := by
    show Plain ((Inspection.inspect settings name).run link).trace
    rw [Inspection.run_inspect]
    exact (plain_useTrace settings link rfl).append (plain_inspectedNotes ..)

end Reconciler

end RegistrySync
