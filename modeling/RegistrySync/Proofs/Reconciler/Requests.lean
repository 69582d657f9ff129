/-
What a run asks of others, from what its parts ask.

Names come from two sources, and what is published comes from the inspection of a name. So if
names are good, inspections of good names are, and publications of these make only good
requests, then a run makes no others:

* `Requesting` — a trace whose requests all have a property;
* `Task.Sound` — a task that makes only such requests, and what its value is like;
* `Guarded` — collaborators whose parts are sound for one another;
* `refresh_sound`, `cycle_sound` — one container, and a cycle;
* `runFor_sound` — all requests of a run, whatever its length.
-/
import RegistrySync.Proofs.Reconciler.Plan
import RegistrySync.Proofs.Reconciler.Rounds

namespace RegistrySync

variable {ω α : Type}

/-- All requests in a trace have the property. -/
def Requesting (P : Request → Prop) (trace : List Event) : Prop := ∀ q ∈ requestsOf trace, P q

namespace Requesting

variable {P : Request → Prop}

@[simp] theorem append_iff {a b : List Event} :
    Requesting P (a ++ b) ↔ Requesting P a ∧ Requesting P b := by
  simp [Requesting, or_imp, forall_and]

@[simp] theorem request_iff {request : Request} {trace : List Event} :
    Requesting P (.request request :: trace) ↔ P request ∧ Requesting P trace := by
  simp [Requesting, requestsOf]

@[simp] theorem record_iff {record : Journal.Record} {trace : List Event} :
    Requesting P (.record record :: trace) ↔ Requesting P trace := Iff.rfl

@[simp] theorem note_iff {level : Journal.Level} {text : String} {trace : List Event} :
    Requesting P (Reconciler.note level text :: trace) ↔ Requesting P trace := Iff.rfl

/-- A trace of nothing but records. -/
theorem records (records : List Journal.Record) : Requesting P (records.map .record) := by
  intro q hq
  simp [requestsOf] at hq

@[simp] theorem nil : Requesting P [] := by
  intro q hq
  cases hq

/-- A trace without requests. -/
theorem of_requestsOf {trace : List Event} (h : requestsOf trace = []) : Requesting P trace := by
  intro q hq
  rw [h] at hq
  cases hq

end Requesting

/-- The task makes only requests with this property, and if it ends with a value, the value has
that one. -/
structure Task.Sound (P : Request → Prop) (Q : α → Prop) (task : Task ω α) : Prop where
  requests : ∀ world, Requesting P (task.run world).trace
  value : ∀ world value, (task.run world).value = .ok value → Q value

namespace Reconciler

/-- Parts of a reconciler that are sound for one another: good names are inspected, what their
inspections declare is good to publish, and publishing it makes only good requests. -/
structure Guarded (P : Request → Prop) (Name : String → Prop) (Good : Publication → Prop)
    (r : Reconciler ω) : Prop where
  names : ∀ name ∈ r.names, Name name
  enumerate : r.inspector.enumerate.Sound P fun listing => ∀ name ∈ listing, Name name
  inspect : ∀ name, Name name → (r.inspector.inspect name).Sound P fun inspection =>
    inspection.declared = true → Good (.ofInspection inspection)
  publish : ∀ publication, Good publication →
    (r.publisher.publish publication).Sound P fun _ => True
  wait : ∀ seconds world, Requesting P ((r.alarm.wait seconds).run world).trace

variable {P : Request → Prop} {Name : String → Prop} {Good : Publication → Prop}
  {r : Reconciler ω}

/-! ### One container -/

/-- A container with a good name makes only good requests. -/
theorem refresh_sound (hg : Guarded P Name Good r) {name : String} (hn : Name name)
    (explicit : Bool) (world : ω) :
    Requesting P ((r.refresh name ⟨explicit, name⟩).run world).trace := by
  have hinspect := hg.inspect name hn
  rw [run_refresh, Outcome.after_trace, refreshNote, List.cons_append, Requesting.note_iff,
    Requesting.append_iff]
  refine ⟨hinspect.requests world, ?_⟩
  -- Whatever the answer, nothing but a publication of what is declared makes another request.
  simp only
  cases hv : ((r.inspector.inspect name).run world).value with
  | error fault =>
    rw [afterInspection]
    split
    · rw [run_onInspectionFault]
      exact .of_requestsOf rfl
    · exact .nil
  | ok inspection =>
    rw [afterInspection]
    split
    · rw [run_onUndeclared]
      exact .of_requestsOf rfl
    · rename_i hdeclared
      have hdeclared : inspection.declared = true := by simpa using hdeclared
      have hgood := hinspect.value world inspection hv hdeclared
      split
      · rw [run_announce]
        exact .of_requestsOf rfl
      · rw [run_publish, Requesting.append_iff]
        exact ⟨(hg.publish _ hgood).requests _, .of_requestsOf (requestsOf_publicationNotes ..)⟩

/-! ### A cycle -/

theorem refreshAll_sound (hg : Guarded P Name Good r) (given : List String) {names : List String}
    (hn : ∀ name ∈ names, Name name) (world : ω) :
    Requesting P ((r.refreshAll (names.map (entryOf given))).run world).trace := by
  -- Each container finds the world as the one before it has left it.
  induction names generalizing world with
  | nil =>
    rw [List.map_nil, run_refreshAll_nil]
    exact .nil
  | cons name rest ih =>
    obtain ⟨hname, hrest⟩ := List.forall_mem_cons.1 hn
    have hfirst := refresh_sound hg hname (decide (name ∈ given)) world
    rw [List.map_cons, entryOf]
    cases hv : ((r.refresh name ⟨decide (name ∈ given), name⟩).run world).value with
    | error fault =>
      rw [run_refreshAll_fault hv]
      exact hfirst
    | ok faults =>
      rw [run_refreshAll_cons hv, Requesting.append_iff]
      exact ⟨hfirst, ih hrest _⟩

/-- A plan has only good names, whichever way they came into it. -/
theorem merge_sound (hg : Guarded P Name Good r) :
    r.merge.Sound P fun planned => ∃ names : List String, (∀ name ∈ names, Name name) ∧
      planned.1 = names.map (entryOf r.names) := by
  constructor
  · intro world
    cases hs : r.settings.enumerate with
    | true =>
      rw [run_merge hs, Requesting.append_iff]
      exact ⟨hg.enumerate.requests world, .of_requestsOf (requestsOf_listingNotes _)⟩
    | false =>
      rw [run_merge_alone hs]
      exact .nil
  · intro world planned hp
    rw [value_merge, planOf_eq] at hp
    cases he : earlyFaults r.settings (r.inspector.enumerate.run world).value with
    | error fault =>
      rw [he] at hp
      cases hp
    | ok early =>
      rw [he] at hp
      cases hp
      refine ⟨_, fun name hm => ?_, rfl⟩
      -- A merged name was given, or the inspector has listed it.
      rcases mem_mergedNames hm with hgiven | ⟨discovered, hl, hfound⟩
      · exact hg.names name hgiven
      · exact hg.enumerate.value world discovered hl name hfound

/-- A cycle makes only good requests. -/
theorem cycle_sound (hg : Guarded P Name Good r) (world : ω) :
    Requesting P (r.cycle.run world).trace := by
  have hmerge := merge_sound hg
  cases hv : (r.merge.run world).value with
  | error fault =>
    rw [run_cycle_fault hv]
    exact hmerge.requests world
  | ok planned =>
    obtain ⟨plan, early⟩ := planned
    obtain ⟨names, hn, rfl⟩ := hmerge.value world _ hv
    rw [run_cycle hv]
    simp only [Requesting.append_iff]
    have hbefore : Requesting P (emptyNotes (names.map (entryOf r.names))) :=
      .of_requestsOf (requestsOf_emptyNotes _)
    exact ⟨⟨⟨hmerge.requests world, hbefore⟩, refreshAll_sound hg r.names hn _⟩,
      .of_requestsOf (requestsOf_closingNotes ..)⟩

/-! ### A run -/

theorem wait_sound (hg : Guarded P Name Good r) (world : ω) :
    Requesting P (r.wait.run world).trace := by
  obtain hstop | ⟨seconds, hs, hset⟩ := r.stops_or_waits world
  · rw [run_wait_stop hstop]
    exact .nil
  · rw [run_wait_go hs hset]
    exact hg.wait seconds world

/-- Whatever its length, a run makes only good requests. -/
theorem runFor_sound (hg : Guarded P Name Good r) (bound : Nat) (world : ω) :
    Requesting P ((r.runFor bound).run world).trace := by
  -- A cycle ends the run, or a shorter run follows behind the wait.
  induction bound generalizing world with
  | zero => exact .nil
  | succ bound ih =>
    have hcycle := cycle_sound hg world
    have hboth := Requesting.append_iff.2 ⟨hcycle, wait_sound hg (r.cycle.run world).world⟩
    cases r.round world with
    | failed hv =>
      rw [run_runFor_fault hv]
      exact hcycle
    | unwaited hv hgo =>
      rw [run_runFor_unwaited hv hgo]
      exact hboth
    | last hv hgo =>
      rw [run_runFor_last hv hgo]
      exact hboth
    | @next faults hv hgo =>
      rw [run_runFor_next hv hgo, Outcome.after_trace]
      have hnotes : Requesting P (roundNotes faults) :=
        .of_requestsOf (requestsOf_roundNotes faults)
      exact Requesting.append_iff.2 ⟨Requesting.append_iff.2 ⟨hboth, hnotes⟩, ih _⟩

end Reconciler

end RegistrySync
