/-
Calls to the inspector and to the publisher, put down in the trace.

* `callsOf` — the calls in a trace;
* `Inspector.heard`, `Publisher.heard` — every call is put down before it is made;
* `cycle_heard` — a cycle whose calls are heard is the same cycle: it ends in the same way, in
  the same world, with the same records.
-/
import RegistrySync.Proofs.Reconciler.Steps

namespace RegistrySync

variable {ω α β : Type}

/-- Whether a request is a call to an inspector or to a publisher. -/
def Request.isCall : Request → Bool
  | .enumerate | .inspect _ | .publish .. => true
  | _ => false

/-- The name in a call to inspect a container. -/
def Request.inspected? : Request → Option String
  | .inspect name => some name
  | _ => none

/-- The publication in a call to publish. -/
def Request.published? : Request → Option Publication
  | .publish host specs => some ⟨host, specs⟩
  | _ => none

/-- The calls to the inspector and to the publisher in a trace, in order. -/
def callsOf (trace : List Event) : List Request := (requestsOf trace).filter (·.isCall)

@[simp] theorem callsOf_append (a b : List Event) : callsOf (a ++ b) = callsOf a ++ callsOf b := by
  simp [callsOf]

@[simp] theorem callsOf_note (level : Journal.Level) (text : String) (trace : List Event) :
    callsOf (Reconciler.note level text :: trace) = callsOf trace := rfl

/-- The inspector, with every call to it put down in the trace. -/
def Inspector.heard (inspector : Inspector ω) : Inspector ω where
  enumerate := do
    Task.ofAct (Act.request .enumerate)
    inspector.enumerate
  inspect name := do
    Task.ofAct (Act.request (.inspect name))
    inspector.inspect name

/-- The publisher, with every call to it put down in the trace. -/
def Publisher.heard (publisher : Publisher ω) : Publisher ω where
  publish publication := do
    Task.ofAct (Act.request (.publish publication.host publication.specs))
    publisher.publish publication

/-- Whether an event is such a call. -/
def Event.isCall : Event → Bool
  | .request call => call.isCall
  | .record _ => false

/-- A trace without these calls. -/
def uncalled (trace : List Event) : List Event := trace.filter (!·.isCall)

@[simp] theorem uncalled_append (a b : List Event) :
    uncalled (a ++ b) = uncalled a ++ uncalled b := by
  simp [uncalled]

theorem uncalled_call {request : Request} (h : request.isCall = true) (trace : List Event) :
    uncalled (.request request :: trace) = uncalled trace := by
  simp [uncalled, Event.isCall, h]

@[simp] theorem uncalled_note (level : Journal.Level) (text : String) (trace : List Event) :
    uncalled (Reconciler.note level text :: trace) =
      Reconciler.note level text :: uncalled trace := rfl

/-- Two outcomes that differ in nothing but the calls in their traces. -/
structure Outcome.Alike (a b : Outcome ω α) : Prop where
  value : a.value = b.value
  world : a.world = b.world
  trace : uncalled a.trace = uncalled b.trace

theorem Outcome.Alike.refl (a : Outcome ω α) : a.Alike a := ⟨rfl, rfl, rfl⟩

theorem Inspector.run_heard_enumerate (inspector : Inspector ω) (world : ω) :
    inspector.heard.enumerate.run world =
      (inspector.enumerate.run world).after [.request .enumerate] :=
  Task.run_ofAct_bind ..

theorem Inspector.run_heard_inspect (inspector : Inspector ω) (name : String) (world : ω) :
    (inspector.heard.inspect name).run world =
      ((inspector.inspect name).run world).after [.request (.inspect name)] :=
  Task.run_ofAct_bind ..

theorem Publisher.run_heard_publish (publisher : Publisher ω) (publication : Publication)
    (world : ω) :
    (publisher.heard.publish publication).run world =
      ((publisher.publish publication).run world).after
        [.request (.publish publication.host publication.specs)] :=
  Task.run_ofAct_bind ..

namespace Reconciler

/-- The reconciler with all of its calls heard. -/
def heard (r : Reconciler ω) : Reconciler ω :=
  { r with inspector := r.inspector.heard, publisher := r.publisher.heard }

theorem afterInspection_heard (r : Reconciler ω) (name : String) (pending : Pending)
    (inspected : Except Fault Inspection) (world : ω) :
    ((r.heard.afterInspection name pending inspected).run world).Alike
      ((r.afterInspection name pending inspected).run world) := by
  cases inspected with
  | error fault => exact .refl _
  | ok inspection =>
    simp only [afterInspection, show r.heard.settings = r.settings from rfl]
    split
    · exact .refl _
    · split
      · exact .refl _
      · simp only [run_publish, show r.heard.publisher = r.publisher.heard from rfl,
          Publisher.run_heard_publish]
        refine ⟨rfl, rfl, ?_⟩
        simp only [Outcome.after_value, Outcome.after_trace, List.cons_append, List.nil_append]
        rw [uncalled_call rfl]

theorem refresh_heard (r : Reconciler ω) (name : String) (pending : Pending) (world : ω) :
    ((r.heard.refresh name pending).run world).Alike ((r.refresh name pending).run world) := by
  rw [run_refresh, run_refresh]
  simp only [show r.heard.inspector = r.inspector.heard from rfl, Inspector.run_heard_inspect,
    Outcome.after_value, Outcome.after_world]
  obtain ⟨hv, hw, ht⟩ := r.afterInspection_heard name pending
    ((r.inspector.inspect pending.value).run world).value
    ((r.inspector.inspect pending.value).run world).world
  refine ⟨hv, hw, ?_⟩
  simp only [Outcome.after_trace, refreshNote, List.cons_append, List.nil_append, uncalled_note]
  rw [uncalled_call rfl, uncalled_append, uncalled_append, ht]

theorem refreshAll_heard (r : Reconciler ω) (plan : Plan) (world : ω) :
    ((r.heard.refreshAll plan).run world).Alike ((r.refreshAll plan).run world) := by
  induction plan generalizing world with
  | nil =>
    rw [run_refreshAll_nil, run_refreshAll_nil]
    exact .refl _
  | cons entry rest ih =>
    obtain ⟨name, pending⟩ := entry
    obtain ⟨hv, hw, ht⟩ := r.refresh_heard name pending world
    -- Both cycles end at this container, or both go on from the same world.
    cases hr : ((r.refresh name pending).run world).value with
    | error fault =>
      rw [run_refreshAll_fault hr, run_refreshAll_fault (hv.trans hr), hw]
      exact ⟨rfl, rfl, ht⟩
    | ok first =>
      rw [run_refreshAll_cons hr, run_refreshAll_cons (hv.trans hr), hw]
      obtain ⟨hv', hw', ht'⟩ := ih ((r.refresh name pending).run world).world
      refine ⟨congrArg (Except.map (first ++ ·)) hv', hw', ?_⟩
      rw [uncalled_append, uncalled_append, ht, ht']

theorem merge_heard (r : Reconciler ω) (world : ω) :
    (r.heard.merge.run world).Alike (r.merge.run world) := by
  cases he : r.settings.enumerate with
  | false =>
    rw [run_merge_alone he, run_merge_alone (show r.heard.settings.enumerate = false from he)]
    exact .refl _
  | true =>
    rw [run_merge he, run_merge (show r.heard.settings.enumerate = true from he)]
    simp only [heard, Inspector.run_heard_enumerate]
    refine ⟨rfl, rfl, ?_⟩
    simp only [Outcome.after_value, Outcome.after_trace, List.cons_append, List.nil_append]
    rw [uncalled_call rfl]

/-- A cycle whose calls are heard differs in nothing else from one whose calls are not. -/
theorem cycle_heard (r : Reconciler ω) (world : ω) :
    (r.heard.cycle.run world).Alike (r.cycle.run world) := by
  obtain ⟨hv, hw, ht⟩ := r.merge_heard world
  cases hm : (r.merge.run world).value with
  | error fault =>
    rw [run_cycle_fault hm, run_cycle_fault (hv.trans hm), hw]
    exact ⟨rfl, rfl, ht⟩
  | ok planned =>
    obtain ⟨plan, early⟩ := planned
    obtain ⟨hv', hw', ht'⟩ := r.refreshAll_heard plan (r.merge.run world).world
    rw [run_cycle hm, run_cycle (hv.trans hm), hw]
    refine ⟨congrArg (Except.map (early ++ ·)) hv', hw', ?_⟩
    simp only [uncalled_append, ht, ht', hv']

end Reconciler

end RegistrySync
