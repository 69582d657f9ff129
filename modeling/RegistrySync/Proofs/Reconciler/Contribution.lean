/-
What each container contributes to a cycle.

Let the inspector answer as a function of the name, and the publisher as a
function of the publication. Then a container adds the same faults and the same
publications to every cycle, whatever else is in its plan:

* `Task.Answers` — a task that ends in the same way in every world of an invariant;
* `Steady` — collaborators that answer as functions;
* `contribution` — the faults and the publications of one container;
* `refresh_answers`, `refreshAll_answers` — one container, and all of a plan;
* `cycle_decomposes` — a cycle is the sum of the contributions.
-/
import RegistrySync.Proofs.Reconciler.Heard
import RegistrySync.Proofs.Reconciler.Plan

namespace RegistrySync

variable {ω α β : Type}

/-! ### Answers -/

/-- In every world of `I` the task ends with this result, stays in `I`, and makes these calls. -/
def Task.Answers (I : ω → Prop) (task : Task ω α) (result : Except Fault α)
    (calls : List Request) : Prop :=
  ∀ world, I world → (task.run world).value = result ∧ I (task.run world).world ∧
    callsOf (task.run world).trace = calls

namespace Task

variable {I : ω → Prop}

/-- A task that leaves the world alone and writes no more than notices. -/
theorem answers_of_run {task : Task ω α} {result : Except Fault α} {notes : List Event}
    (h : ∀ world, task.run world = ⟨result, world, notes⟩) (hn : callsOf notes = [])
    (I : ω → Prop) : task.Answers I result [] := by
  intro world hw
  rw [h world]
  exact ⟨rfl, hw, hn⟩

/-- A request that is a call, and then a task. -/
theorem Answers.after_call {task : Task ω α} {result : Except Fault α} {calls : List Request}
    (h : task.Answers I result calls) {request : Request} (hr : request.isCall = true) :
    (ofAct (Act.request request) >>= fun _ => task).Answers I result (request :: calls) := by
  intro world hw
  obtain ⟨hv, hI, hc⟩ := h world hw
  rw [run_ofAct_bind, Act.run_request]
  refine ⟨hv, hI, ?_⟩
  rw [Outcome.after_trace, callsOf_append, hc]
  simp [callsOf, requestsOf, hr]

end Task

namespace Reconciler

/-- Collaborators that answer as functions, of the name and of the publication, and that fail
only as inspections and publications do. What they keep to themselves may change within `I`. -/
structure Steady (I : ω → Prop) (inspector : Inspector ω) (publisher : Publisher ω)
    (listing : Except Fault (List String)) (inspected : String → Except Fault Inspection)
    (published : Publication → Except Fault Unit) : Prop where
  enumerate : inspector.enumerate.Answers I listing []
  inspect : ∀ name, (inspector.inspect name).Answers I (inspected name) []
  publish : ∀ publication, (publisher.publish publication).Answers I (published publication) []
  handled : ∀ name fault, inspected name = .error fault → handlesInspection fault = true
  publishing : ∀ publication fault, published publication = .error fault →
    fault.kind = .publishing

section

variable {I : ω → Prop} {inspector : Inspector ω} {publisher : Publisher ω}
  {listing : Except Fault (List String)} {inspected : String → Except Fault Inspection}
  {published : Publication → Except Fault Unit}

theorem Steady.enumerate_heard (h : Steady I inspector publisher listing inspected published) :
    inspector.heard.enumerate.Answers I listing [.enumerate] :=
  h.enumerate.after_call rfl

theorem Steady.inspect_heard (h : Steady I inspector publisher listing inspected published)
    (name : String) : (inspector.heard.inspect name).Answers I (inspected name) [.inspect name] :=
  (h.inspect name).after_call rfl

theorem Steady.publish_heard (h : Steady I inspector publisher listing inspected published)
    (publication : Publication) :
    (publisher.heard.publish publication).Answers I (published publication)
      [.publish publication.host publication.specs] :=
  (h.publish publication).after_call rfl

end

/-! ### One container -/

/-- What one container adds to a cycle. -/
structure Contribution where
  faults : List Fault
  publications : List Publication

/-- What a container adds: a fault if it cannot be inspected or declares no domains and the
policy counts that, else its publication and the fault if this fails, or nothing in a dry run. -/
def contribution (settings : Settings) (inspected : String → Except Fault Inspection)
    (published : Publication → Except Fault Unit) (name : String) (explicit : Bool) :
    Contribution :=
  match inspected name with
  | .error fault =>
    if settings.missingContainer = .report ∨ explicit = true then ⟨[fault.about name], []⟩
    else ⟨[], []⟩
  | .ok inspection =>
    if inspection.declared = false then
      if settings.missingVariable = .report ∨
          (settings.missingVariable = .automatic ∧ explicit = true) then
        ⟨[⟨.variableMissing settings.envVar, some name⟩], []⟩
      else ⟨[], []⟩
    else if settings.dryRun then ⟨[], []⟩
    else
      match published ⟨inspection.host, inspection.specs⟩ with
      | .ok () => ⟨[], [⟨inspection.host, inspection.specs⟩]⟩
      | .error fault => ⟨[fault.about name], [⟨inspection.host, inspection.specs⟩]⟩

/-- The calls for one container: to inspect it, and to publish what it declares. -/
def Contribution.calls (contribution : Contribution) (name : String) : List Request :=
  .inspect name :: contribution.publications.map fun p => .publish p.host p.specs

section

variable {I : ω → Prop} {inspector : Inspector ω} {publisher : Publisher ω}
  {listing : Except Fault (List String)} {inspected : String → Except Fault Inspection}
  {published : Publication → Except Fault Unit} {r : Reconciler ω}

theorem callsOf_publicationNotes (name : String) (pending : Pending) (publication : Publication)
    (result : Except Fault Unit) :
    callsOf (publicationNotes name pending publication result) = [] := by
  rw [callsOf, requestsOf_publicationNotes, List.filter_nil]

theorem publish_answers (hs : Steady I inspector publisher listing inspected published)
    (hp : r.publisher = publisher.heard) (name : String) (pending : Pending)
    (publication : Publication) :
    (r.publish name pending publication).Answers I
      (publicationFaults name (published publication))
      [.publish publication.host publication.specs] := by
  intro world hw
  obtain ⟨hv, hI, hc⟩ := hs.publish_heard publication world hw
  rw [run_publish, hp, hv]
  refine ⟨rfl, hI, ?_⟩
  rw [callsOf_append, hc, callsOf_publicationNotes, List.append_nil]

/-- Once a container has been inspected, what follows is its contribution. -/
theorem afterInspection_answers (hs : Steady I inspector publisher listing inspected published)
    (hp : r.publisher = publisher.heard) (name : String) (explicit : Bool) :
    (r.afterInspection name ⟨explicit, name⟩ (inspected name)).Answers I
      (.ok (contribution r.settings inspected published name explicit).faults)
      ((contribution r.settings inspected published name explicit).publications.map fun p =>
        .publish p.host p.specs) := by
  unfold contribution
  -- The cases are those of the code; in each, the trace is known, and what is left is to see that
  -- the contribution makes the same choices.
  cases hi : inspected name with
  | error fault =>
    have hanswers := Task.answers_of_run
      (r.run_onInspectionFault name ⟨explicit, name⟩ fault) rfl I
    rw [afterInspection, if_pos (hs.handled name fault hi)]
    by_cases hreport : r.settings.missingContainer = .report ∨ explicit = true
    · rw [inspectionFaults, if_pos (MissingContainer.report_iff.2 hreport)] at hanswers
      simpa only [if_pos hreport, List.map_nil] using hanswers
    · rw [inspectionFaults, if_neg (mt MissingContainer.report_iff.1 hreport)] at hanswers
      simpa only [if_neg hreport, List.map_nil] using hanswers
  | ok inspection =>
    cases hd : inspection.declared with
    | false =>
      have hanswers := Task.answers_of_run (r.run_onUndeclared name ⟨explicit, name⟩) rfl I
      rw [afterInspection, hd]
      by_cases hreport : r.settings.missingVariable = .report ∨
          (r.settings.missingVariable = .automatic ∧ explicit = true)
      · rw [undeclaredFaults, if_pos (MissingVariable.report_iff.2 hreport)] at hanswers
        simpa [hreport, hd] using hanswers
      · rw [undeclaredFaults, if_neg (mt MissingVariable.report_iff.1 hreport)] at hanswers
        simpa [hreport, hd] using hanswers
    | true =>
      cases hdry : r.settings.dryRun with
      | true =>
        have hanswers := Task.answers_of_run (r.run_announce (.ofInspection inspection)) rfl I
        simpa [afterInspection, hd, hdry] using hanswers
      | false =>
        have hanswers := publish_answers hs hp name ⟨explicit, name⟩ (.ofInspection inspection)
        cases hpub : published ⟨inspection.host, inspection.specs⟩ with
        | ok _ =>
          simpa [afterInspection, hd, hdry, hpub, Publication.ofInspection, publicationFaults]
            using hanswers
        | error fault =>
          have hkind := hs.publishing _ fault hpub
          simpa [afterInspection, hd, hdry, hpub, hkind, Publication.ofInspection,
            publicationFaults] using hanswers

/-- One container: it is inspected once, and it adds its contribution. -/
theorem refresh_answers (hs : Steady I inspector publisher listing inspected published)
    (hi : r.inspector = inspector.heard) (hp : r.publisher = publisher.heard) (name : String)
    (explicit : Bool) :
    (r.refresh name ⟨explicit, name⟩).Answers I
      (.ok (contribution r.settings inspected published name explicit).faults)
      ((contribution r.settings inspected published name explicit).calls name) := by
  intro world hw
  obtain ⟨hv, hI, hc⟩ := hs.inspect_heard name world hw
  rw [run_refresh, hi, hv]
  obtain ⟨hv', hI', hc'⟩ := afterInspection_answers hs hp name explicit _ hI
  refine ⟨hv', hI', ?_⟩
  rw [Outcome.after_trace, refreshNote, List.cons_append, callsOf_note, callsOf_append, hc, hc']
  rfl

/-! ### All of a plan -/

/-- All containers of a plan: each adds its contribution, in the order of the plan. -/
theorem refreshAll_answers (hs : Steady I inspector publisher listing inspected published)
    (hi : r.inspector = inspector.heard) (hp : r.publisher = publisher.heard)
    (explicit : String → Bool) (names : List String) :
    (r.refreshAll (names.map fun name => (name, ⟨explicit name, name⟩))).Answers I
      (.ok (names.flatMap fun name =>
        (contribution r.settings inspected published name (explicit name)).faults))
      (names.flatMap fun name =>
        (contribution r.settings inspected published name (explicit name)).calls name) := by
  induction names with
  | nil =>
    intro world hw
    rw [List.map_nil, run_refreshAll_nil]
    exact ⟨rfl, hw, rfl⟩
  | cons name rest ih =>
    intro world hw
    -- The invariant holds again behind the first container, so the others answer as ever.
    obtain ⟨hv, hI, hc⟩ := refresh_answers hs hi hp name (explicit name) world hw
    obtain ⟨hv', hI', hc'⟩ := ih _ hI
    rw [List.map_cons, run_refreshAll_cons hv]
    refine ⟨?_, hI', ?_⟩
    · rw [hv', List.flatMap_cons]
      rfl
    · rw [callsOf_append, hc, hc', List.flatMap_cons]

/-! ### A cycle -/

theorem merge_answers (hs : Steady I inspector publisher listing inspected published)
    (hi : r.inspector = inspector.heard) :
    r.merge.Answers I (planOf r.settings r.names listing)
      (if r.settings.enumerate then [.enumerate] else []) := by
  intro world hw
  cases he : r.settings.enumerate with
  | false =>
    rw [run_merge_alone he, planOf_alone he]
    exact ⟨rfl, hw, rfl⟩
  | true =>
    obtain ⟨hv, hI, hc⟩ := hs.enumerate_heard world hw
    have hnotes : callsOf (listingNotes listing) = [] := by
      rw [callsOf, requestsOf_listingNotes, List.filter_nil]
    rw [run_merge he, hi, hv]
    refine ⟨rfl, hI, ?_⟩
    rw [callsOf_append, hc, hnotes, List.append_nil, if_pos rfl]

theorem callsOf_emptyNotes (plan : Plan) : callsOf (emptyNotes plan) = [] := by
  rw [callsOf, requestsOf_emptyNotes, List.filter_nil]

theorem callsOf_closingNotes (plan : Plan) (faults : Except Fault (List Fault)) :
    callsOf (closingNotes plan faults) = [] := by
  rw [callsOf, requestsOf_closingNotes, List.filter_nil]

/-- What a container adds to the cycles of a reconciler whose collaborators answer so. -/
def shareOf (r : Reconciler ω) (inspected : String → Except Fault Inspection)
    (published : Publication → Except Fault Unit) (name : String) : Contribution :=
  contribution r.settings inspected published name (decide (name ∈ r.names))

/-- A cycle that has a plan: the fault of an enumeration that failed, and then what each
container adds. -/
theorem cycle_answers (hs : Steady I inspector publisher listing inspected published)
    (hi : r.inspector = inspector.heard) (hp : r.publisher = publisher.heard) {early : List Fault}
    (he : earlyFaults r.settings listing = .ok early) :
    r.cycle.Answers I
      (.ok (early ++ (mergedNames r.settings r.names listing).flatMap fun name =>
        (r.shareOf inspected published name).faults))
      ((if r.settings.enumerate then [.enumerate] else []) ++
        (mergedNames r.settings r.names listing).flatMap fun name =>
          (r.shareOf inspected published name).calls name) := by
  intro world hw
  obtain ⟨hv, hI, hc⟩ := merge_answers hs hi world hw
  rw [planOf_eq, he] at hv
  obtain ⟨hv', hI', hc'⟩ := refreshAll_answers hs hi hp (fun name => decide (name ∈ r.names))
    (mergedNames r.settings r.names listing) _ hI
  rw [run_cycle hv]
  refine ⟨congrArg (Except.map (early ++ ·)) hv', hI', ?_⟩
  rw [callsOf_append, callsOf_append, callsOf_append, hc, callsOf_emptyNotes, callsOf_closingNotes,
    List.append_nil, List.append_nil]
  exact congrArg _ hc'

/-- A cycle without a plan: the enumeration failed in a way that is not handled. -/
theorem cycle_answers_fault (hs : Steady I inspector publisher listing inspected published)
    (hi : r.inspector = inspector.heard) {fault : Fault}
    (he : earlyFaults r.settings listing = .error fault) :
    r.cycle.Answers I (.error fault) [.enumerate] := by
  intro world hw
  obtain ⟨hv, hI, hc⟩ := merge_answers hs hi world hw
  have hasked : r.settings.enumerate = true := by
    cases hb : r.settings.enumerate with
    | true => rfl
    | false => simp [earlyFaults, hb] at he
  rw [planOf_eq, he] at hv
  rw [run_cycle_fault hv]
  refine ⟨rfl, hI, ?_⟩
  rw [hc, if_pos hasked]

end

/-- A container adds at most one fault and at most one publication. -/
theorem contribution_length_le (settings : Settings)
    (inspected : String → Except Fault Inspection) (published : Publication → Except Fault Unit)
    (name : String) (explicit : Bool) :
    (contribution settings inspected published name explicit).faults.length ≤ 1 ∧
      (contribution settings inspected published name explicit).publications.length ≤ 1 := by
  unfold contribution
  repeat' split
  all_goals simp

theorem filterMap_inspected?_calls (contribution : Contribution) (name : String) :
    (contribution.calls name).filterMap Request.inspected? = [name] := by
  simp [Contribution.calls, Request.inspected?, List.filterMap_map, Function.comp_def]

theorem filterMap_published?_calls (contribution : Contribution) (name : String) :
    (contribution.calls name).filterMap Request.published? = contribution.publications := by
  rw [Contribution.calls, List.filterMap_cons_none rfl, List.filterMap_map]
  exact List.filterMap_some

/-- A cycle is the sum of what its containers add. Each of the merged names is inspected once,
in their order. The faults that count, and the calls to publish, are those that the containers add,
in the same order, behind the fault of an enumeration that was asked for and failed. What a
container adds does not depend on any other one, and is at most one fault and one publication.

Only an enumeration that fails in a foreign way ends the cycle, before anything is inspected. -/
theorem cycle_decomposes {I : ω → Prop} {settings : Settings} {inspector : Inspector ω}
    {publisher : Publisher ω} {alarm : Alarm ω} {containers : List Json} {r : Reconciler ω}
    {listing : Except Fault (List String)} {inspected : String → Except Fault Inspection}
    {published : Publication → Except Fault Unit} {world : ω}
    (hr : create? settings inspector.heard publisher.heard alarm containers = .ok r)
    (hs : Steady I inspector publisher listing inspected published) (hw : I world) :
    (∀ early, earlyFaults settings listing = .ok early →
      let names := mergedNames settings (uniqueNames containers) listing
      let share := fun name => contribution settings inspected published name
        (decide (name ∈ uniqueNames containers))
      let calls := callsOf (r.cycle.run world).trace
      (r.cycle.run world).value = .ok (early ++ names.flatMap fun name => (share name).faults) ∧
        calls = (if settings.enumerate then [.enumerate] else []) ++
          names.flatMap (fun name => (share name).calls name) ∧
        calls.filterMap Request.inspected? = names ∧ names.Nodup ∧
        calls.filterMap Request.published? = names.flatMap (fun name => (share name).publications) ∧
        ∀ name, (share name).faults.length ≤ 1 ∧ (share name).publications.length ≤ 1) ∧
    ∀ fault, earlyFaults settings listing = .error fault →
      (r.cycle.run world).value = .error fault ∧
        callsOf (r.cycle.run world).trace = [.enumerate] := by
  obtain ⟨-, hr⟩ := create?_eq_ok_iff.1 hr
  have hi : r.inspector = inspector.heard := by rw [hr]
  have hp : r.publisher = publisher.heard := by rw [hr]
  have hset : r.settings = settings := by rw [hr]
  have hnames : r.names = uniqueNames containers := by rw [hr]
  constructor
  · intro early he names share calls
    obtain ⟨hv, -, hc⟩ := cycle_answers hs hi hp (hset ▸ he) world hw
    simp only [shareOf, hset, hnames] at hv hc
    -- From here on the trace does not matter any more: the calls alone are picked apart.
    have hcalls : calls = (if settings.enumerate then [.enumerate] else []) ++
        names.flatMap (fun name => (share name).calls name) := hc
    refine ⟨hv, hcalls, ?_, ?_, ?_, fun name => contribution_length_le ..⟩
    · rw [hcalls, List.filterMap_append, List.filterMap_flatMap]
      simp only [filterMap_inspected?_calls, List.flatMap_singleton']
      split <;> rfl
    · exact nodup_mergedNames (uniqueNames_nodup containers) settings listing
    · rw [hcalls, List.filterMap_append, List.filterMap_flatMap]
      simp only [filterMap_published?_calls]
      split <;> rfl
  · intro fault he
    obtain ⟨hv, -, hc⟩ := cycle_answers_fault hs hi (hset ▸ he) world hw
    exact ⟨hv, hc⟩

/-- An inspector that is nothing but its answers. -/
def statedInspector (listing : Except Fault (List String))
    (inspected : String → Except Fault Inspection) : Inspector ω where
  enumerate := Task.ofExcept listing
  inspect name := Task.ofExcept (inspected name)

/-- A publisher that is nothing but its answers. -/
def statedPublisher (published : Publication → Except Fault Unit) : Publisher ω where
  publish publication := Task.ofExcept (published publication)

/-- Two containers that are named, one of which is not there, and one that is found and declares
nothing. -/
def threeContainers (name : String) : Except Fault Inspection :=
  if name = "web" then .ok ⟨"10.0.0.2", [⟨"example.org", some 80, none⟩], true⟩
  else if name = "cache" then .ok ⟨"10.0.0.3", [], false⟩
  else .error ⟨.noAddress, none⟩

theorem cycle_decomposes_three_containers :
    ∃ r : Reconciler Unit,
      create? { enumerate := true }
          (statedInspector (.ok ["cache", "web"]) threeContainers).heard
          (statedPublisher fun _ => .ok ()).heard ⟨fun _ => true, fun _ => pure ()⟩
          [.str "web", .str "gone"] = .ok r ∧
        (r.cycle.run ()).value = .ok [⟨.noAddress, some "gone"⟩] ∧
        callsOf (r.cycle.run ()).trace =
          [.enumerate, .inspect "web", .publish "10.0.0.2" [⟨"example.org", some 80, none⟩],
            .inspect "gone", .inspect "cache"] := by
  have hr : create? { enumerate := true }
      (statedInspector (.ok ["cache", "web"]) threeContainers).heard
      (statedPublisher fun _ => .ok ()).heard ⟨fun _ : Unit => true, fun _ => pure ()⟩
      [.str "web", .str "gone"] = .ok _ := create?_eq_ok_iff.2 ⟨by decide, rfl⟩
  have hs : Steady (fun world : Unit => world = ())
      (statedInspector (.ok ["cache", "web"]) threeContainers) (statedPublisher fun _ => .ok ())
      (.ok ["cache", "web"]) threeContainers fun _ => .ok () := by
    refine ⟨fun _ _ => ⟨rfl, rfl, rfl⟩, fun _ _ _ => ⟨rfl, rfl, rfl⟩,
      fun _ _ _ => ⟨rfl, rfl, rfl⟩, ?_, fun _ _ h => by cases h⟩
    -- One container answers with a fault, and it is one that the cycle handles.
    intro name fault h
    unfold threeContainers at h
    split at h
    · cases h
    · split at h
      · cases h
      · cases h
        rfl
  obtain ⟨hv, hc, -⟩ := (cycle_decomposes hr hs rfl).1 [] rfl
  refine ⟨_, hr, ?_, ?_⟩
  · exact hv.trans (congrArg Except.ok (by decide +kernel))
  · exact hc.trans (by decide +kernel)

end Reconciler

end RegistrySync
