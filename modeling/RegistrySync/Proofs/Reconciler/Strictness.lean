/-
Stricter policies.

A policy says how loudly a fault is told of and whether it counts, and nothing else. Let one
reconciler have stricter policies than another, or more of its containers named on purpose. Then
both go through a cycle side by side, and no fault that counts for the first is lost for the second:

* `MissingVariable.report_of_stricter`, `MissingContainer.report_of_stricter` — what counts under a
  policy counts under a stricter one;
* `TightenedTo`, `Promotes` — a reconciler with stricter policies, and an entry of a plan that may
  have become explicit;
* `Within` — how an outcome of the milder reconciler and one of the stricter one belong together;
* `refresh_within`, `refreshAll_within`, `cycle_within` — one container, a plan, a cycle;
* `stricter_policies_lose_nothing` — the same calls are made under all policies, and a stricter
  cycle counts what a milder one does, in the same order.
-/
import RegistrySync.Proofs.Reconciler.Contribution
import RegistrySync.Proofs.Reconciler.Tally

namespace RegistrySync

variable {ω : Type}

/-! ### The order of the policies -/

/-- How much counts under a policy. -/
def MissingVariable.strictness : MissingVariable → Nat
  | .ignore => 0
  | .automatic => 1
  | .report => 2

/-- How much counts under a policy. -/
def MissingContainer.strictness : MissingContainer → Nat
  | .ignore => 0
  | .report => 1

theorem MissingVariable.strictness_le_report (choice : MissingVariable) :
    choice.strictness ≤ report.strictness := by
  cases choice <;> decide

theorem MissingContainer.strictness_le_report (choice : MissingContainer) :
    choice.strictness ≤ report.strictness := by
  cases choice <;> decide

/-- What counts under a policy counts under a stricter one, also if the container has come to be
named on purpose. -/
theorem MissingVariable.report_of_stricter {mild strict : MissingVariable}
    (h : mild.strictness ≤ strict.strictness) {explicit promoted : Bool}
    (hp : explicit = true → promoted = true) (hr : (mild.escalation explicit).report = true) :
    (strict.escalation promoted).report = true := by
  rw [report_iff] at hr ⊢
  rcases hr with rfl | ⟨rfl, he⟩
  · left
    cases strict <;> simp [strictness] at h ⊢
  · rw [hp he]
    cases strict <;> simp [strictness] at h ⊢

theorem MissingContainer.report_of_stricter {mild strict : MissingContainer}
    (h : mild.strictness ≤ strict.strictness) {explicit promoted : Bool}
    (hp : explicit = true → promoted = true) (hr : (mild.escalation explicit).report = true) :
    (strict.escalation promoted).report = true := by
  rw [report_iff] at hr ⊢
  rcases hr with rfl | he
  · left
    cases strict <;> simp [strictness] at h ⊢
  · exact Or.inr (hp he)

namespace Reconciler

/-! ### Two reconcilers side by side -/

/-- The second reconciler is the first one with policies that are at least as strict. Which
containers were named on purpose, and when to stop, is left open. -/
structure TightenedTo (mild strict : Reconciler ω) : Prop where
  inspector : strict.inspector = mild.inspector
  publisher : strict.publisher = mild.publisher
  settings : strict.settings =
    { mild.settings with
      missingVariable := strict.settings.missingVariable
      missingContainer := strict.settings.missingContainer }
  variableChoice :
    mild.settings.missingVariable.strictness ≤ strict.settings.missingVariable.strictness
  containerChoice :
    mild.settings.missingContainer.strictness ≤ strict.settings.missingContainer.strictness

/-- The same container in two plans. It may have become explicit in the second one. -/
structure Promotes (entry promoted : String × Pending) : Prop where
  name : promoted.1 = entry.1
  value : promoted.2.value = entry.2.value
  explicit : entry.2.explicit = true → promoted.2.explicit = true

/-- Both end with the same fault, or the faults that count for the first all count for the second,
in the same order. -/
inductive FaultsWithin : Except Fault (List Fault) → Except Fault (List Fault) → Prop
  | counted {few many : List Fault} (h : few.Sublist many) : FaultsWithin (.ok few) (.ok many)
  | ended (fault : Fault) : FaultsWithin (.error fault) (.error fault)

/-- How an outcome of the milder reconciler and one of the stricter one belong together: the same
requests have been made, they have left the same world, and no fault is lost. -/
structure Within (mild strict : Outcome ω (Except Fault (List Fault))) : Prop where
  world : strict.world = mild.world
  requests : requestsOf strict.trace = requestsOf mild.trace
  value : FaultsWithin mild.value strict.value

theorem FaultsWithin.append {few many : List Fault} (h : few.Sublist many)
    {others others' : Except Fault (List Fault)} (ho : FaultsWithin others others') :
    FaultsWithin (others.map (few ++ ·)) (others'.map (many ++ ·)) := by
  cases ho with
  | counted h' => exact .counted (h.append h')
  | ended fault => exact .ended fault

/-- What both have done before makes no difference if the same requests were made. -/
theorem Within.after {mild strict : Outcome ω (Except Fault (List Fault))} (h : Within mild strict)
    {a b : List Event} (hr : requestsOf b = requestsOf a) :
    Within (mild.after a) (strict.after b) := by
  refine ⟨h.world, ?_, h.value⟩
  rw [Outcome.after_trace, Outcome.after_trace, requestsOf_append, requestsOf_append, hr,
    h.requests]

theorem within_of_notes {few many : List Fault} (h : few.Sublist many) (world : ω)
    {a b : List Event} (ha : requestsOf a = []) (hb : requestsOf b = []) :
    Within ⟨.ok few, world, a⟩ ⟨.ok many, world, b⟩ :=
  ⟨rfl, hb.trans ha.symm, .counted h⟩

theorem sublist_ite {few many : Bool} (h : few = true → many = true) (fault : Fault) :
    (if few then [fault] else []).Sublist (if many then [fault] else []) := by
  cases few with
  | false => exact List.nil_sublist _
  | true => rw [h rfl]

section

variable {mild strict : Reconciler ω}

theorem TightenedTo.heard (h : TightenedTo mild strict) : TightenedTo mild.heard strict.heard where
  inspector := congrArg Inspector.heard h.inspector
  publisher := congrArg Publisher.heard h.publisher
  settings := h.settings
  variableChoice := h.variableChoice
  containerChoice := h.containerChoice

theorem TightenedTo.enumerate (h : TightenedTo mild strict) :
    strict.settings.enumerate = mild.settings.enumerate := by
  rw [h.settings]

/-! ### One container -/

theorem publish_within (h : TightenedTo mild strict) (name : String) (pending promoted : Pending)
    (publication : Publication) (world : ω) :
    Within ((mild.publish name pending publication).run world)
      ((strict.publish name promoted publication).run world) := by
  rw [run_publish, run_publish, h.publisher]
  refine ⟨rfl, by simp, ?_⟩
  cases publicationFaults name ((mild.publisher.publish publication).run world).value with
  | ok faults => exact .counted (List.Sublist.refl _)
  | error fault => exact .ended fault

theorem afterInspection_within (h : TightenedTo mild strict) (name : String)
    {pending promoted : Pending} (hp : pending.explicit = true → promoted.explicit = true)
    (inspected : Except Fault Inspection) (world : ω) :
    Within ((mild.afterInspection name pending inspected).run world)
      ((strict.afterInspection name promoted inspected).run world) := by
  -- The policies decide in two places, and there only on what is counted.
  cases inspected with
  | error fault =>
    by_cases hh : handlesInspection fault = true
    · simp only [afterInspection, if_pos hh, run_onInspectionFault]
      have hreport := MissingContainer.report_of_stricter h.containerChoice hp
      exact within_of_notes (sublist_ite hreport _) world rfl rfl
    · simp only [afterInspection, if_neg hh, Task.run_fail]
      exact ⟨rfl, rfl, .ended fault⟩
  | ok inspection =>
    have henvVar : strict.settings.envVar = mild.settings.envVar := by rw [h.settings]
    have hdryRun : strict.settings.dryRun = mild.settings.dryRun := by rw [h.settings]
    simp only [afterInspection, hdryRun]
    split
    · rw [run_onUndeclared, run_onUndeclared, undeclaredFaults, undeclaredFaults, henvVar]
      have hreport := MissingVariable.report_of_stricter h.variableChoice hp
      exact within_of_notes (sublist_ite hreport _) world rfl rfl
    · split
      · rw [run_announce, run_announce]
        exact within_of_notes (List.Sublist.refl _) world rfl rfl
      · exact publish_within h name pending promoted _ world

theorem refresh_within (h : TightenedTo mild strict) {entry promoted : String × Pending}
    (hp : Promotes entry promoted) (world : ω) :
    Within ((mild.refresh entry.1 entry.2).run world)
      ((strict.refresh promoted.1 promoted.2).run world) := by
  rw [run_refresh, run_refresh, hp.name, hp.value, h.inspector]
  exact (afterInspection_within h entry.1 hp.explicit _ _).after rfl

/-! ### A cycle -/

theorem refreshAll_within (h : TightenedTo mild strict) {plan promoted : Plan}
    (hp : List.Forall₂ Promotes plan promoted) (world : ω) :
    Within ((mild.refreshAll plan).run world) ((strict.refreshAll promoted).run world) := by
  -- Along both plans at once: each container leaves the same world for the next one.
  induction hp generalizing world with
  | nil =>
    rw [run_refreshAll_nil, run_refreshAll_nil]
    exact within_of_notes (List.Sublist.refl _) world rfl rfl
  | @cons entry entry' rest rest' hentry _ ih =>
    have hfirst := refresh_within h hentry world
    have hv := hfirst.value
    cases hm : ((mild.refresh entry.1 entry.2).run world).value with
    | error fault =>
      rw [hm] at hv
      cases hs : ((strict.refresh entry'.1 entry'.2).run world).value with
      | ok others => rw [hs] at hv; cases hv
      | error other =>
        rw [hs] at hv
        cases hv
        rw [run_refreshAll_fault hm, run_refreshAll_fault hs]
        exact ⟨hfirst.world, hfirst.requests, .ended fault⟩
    | ok few =>
      rw [hm] at hv
      cases hs : ((strict.refresh entry'.1 entry'.2).run world).value with
      | error other => rw [hs] at hv; cases hv
      | ok many =>
        rw [hs] at hv
        cases hv with
        | counted hsub =>
          obtain ⟨hworld, hrequests, hvalue⟩ := ih ((mild.refresh entry.1 entry.2).run world).world
          rw [run_refreshAll_cons hm, run_refreshAll_cons hs, hfirst.world]
          refine ⟨hworld, ?_, hvalue.append hsub⟩
          rw [requestsOf_append, requestsOf_append, hfirst.requests, hrequests]

theorem cycle_within_of_plans (h : TightenedTo mild strict) {plan promoted : Plan}
    (hp : List.Forall₂ Promotes plan promoted) {early : List Fault} {world : ω}
    (hm : (mild.merge.run world).value = .ok (plan, early))
    (hs : (strict.merge.run world).value = .ok (promoted, early))
    (hworld : (strict.merge.run world).world = (mild.merge.run world).world)
    (hrequests : requestsOf (strict.merge.run world).trace =
      requestsOf (mild.merge.run world).trace) :
    Within (mild.cycle.run world) (strict.cycle.run world) := by
  have hall := refreshAll_within h hp (mild.merge.run world).world
  rw [run_cycle hm, run_cycle hs, hworld]
  refine ⟨hall.world, ?_, hall.value.append (List.Sublist.refl early)⟩
  simp only [requestsOf_append, requestsOf_emptyNotes, requestsOf_closingNotes, hrequests,
    hall.requests]

theorem promotes_entryOf {given more : List String} (hn : ∀ name ∈ given, name ∈ more)
    (names : List String) :
    List.Forall₂ Promotes (names.map (entryOf given)) (names.map (entryOf more)) := by
  rw [List.forall₂_map_left_iff, List.forall₂_map_right_iff, List.forall₂_same]
  exact fun name _ => ⟨rfl, rfl, by simpa [entryOf] using hn name⟩

/-- A cycle whose merged names stay where they are, while more of them may be given on purpose. -/
theorem cycle_within (h : TightenedTo mild strict) (hn : ∀ name ∈ mild.names, name ∈ strict.names)
    (world : ω) (hnames : strict.cycleNames world = mild.cycleNames world) :
    Within (mild.cycle.run world) (strict.cycle.run world) := by
  have hmerge : (strict.merge.run world).world = (mild.merge.run world).world ∧
      requestsOf (strict.merge.run world).trace = requestsOf (mild.merge.run world).trace := by
    cases he : mild.settings.enumerate with
    | false =>
      rw [run_merge_alone he, run_merge_alone (h.enumerate.trans he)]
      exact ⟨rfl, rfl⟩
    | true =>
      rw [run_merge he, run_merge (h.enumerate.trans he), h.inspector]
      exact ⟨rfl, rfl⟩
  -- The policies have no say in what a failed listing counts for.
  have hearly : ∀ listing, earlyFaults strict.settings listing =
      earlyFaults mild.settings listing := by
    intro listing
    unfold earlyFaults
    rw [h.enumerate]
  have hm := mild.value_merge world
  have hs := strict.value_merge world
  rw [planOf_eq] at hm hs
  rw [hearly, h.inspector] at hs
  rw [cycleNames, h.inspector] at hnames
  cases he : earlyFaults mild.settings (mild.inspector.enumerate.run world).value with
  | error fault =>
    rw [he] at hm hs
    rw [run_cycle_fault hm, run_cycle_fault hs]
    exact ⟨hmerge.1, hmerge.2, .ended fault⟩
  | ok early =>
    rw [he] at hm hs
    rw [hnames] at hs
    have hplans := promotes_entryOf hn (mild.cycleNames world)
    exact cycle_within_of_plans h hplans hm hs hmerge.1 hmerge.2

/-- The same calls are made in both cycles, if all of them are heard. -/
theorem calls_within (h : TightenedTo mild strict) (hn : ∀ name ∈ mild.names, name ∈ strict.names)
    (world : ω) (hnames : strict.cycleNames world = mild.cycleNames world) :
    callsOf (strict.heard.cycle.run world).trace = callsOf (mild.heard.cycle.run world).trace := by
  have hheard : strict.heard.cycleNames world = mild.heard.cycleNames world := by
    simpa only [cycleNames, Reconciler.heard, Inspector.run_heard_enumerate, Outcome.after_value]
      using hnames
  exact congrArg (List.filter _) (cycle_within h.heard hn world hheard).requests

end

/-- The reconciler with other policies. -/
def withPolicies (r : Reconciler ω) (variableChoice : MissingVariable)
    (containerChoice : MissingContainer) : Reconciler ω :=
  { r with
    settings :=
      { r.settings with missingVariable := variableChoice, missingContainer := containerChoice } }

theorem tightenedTo_strictest (r : Reconciler ω) (variableChoice : MissingVariable)
    (containerChoice : MissingContainer) :
    TightenedTo (r.withPolicies variableChoice containerChoice)
      (r.withPolicies .report .report) where
  inspector := rfl
  publisher := rfl
  settings := rfl
  variableChoice := variableChoice.strictness_le_report
  containerChoice := containerChoice.strictness_le_report

/-- Policies affect what is reported, and nothing else.

Under all policies a cycle makes the same calls to the inspector and to the publisher and leaves the
same world. With stricter policies, and with more of the containers named on purpose at the same
places, a cycle makes the same calls still; if it ended with a fault that is not handled, it ends
with this fault, and otherwise the faults that counted before are counted again, in their order. So
it is for all containers of a plan, whatever of them is explicit. -/
theorem stricter_policies_lose_nothing (r : Reconciler ω) (world : ω) :
    (∀ variableChoice containerChoice variableChoice' containerChoice',
      let one := r.withPolicies variableChoice containerChoice
      let other := r.withPolicies variableChoice' containerChoice'
      callsOf (one.heard.cycle.run world).trace = callsOf (other.heard.cycle.run world).trace ∧
        (one.cycle.run world).world = (other.cycle.run world).world) ∧
    ∀ strict : Reconciler ω, TightenedTo r strict →
      ((∀ name ∈ r.names, name ∈ strict.names) →
        strict.cycleNames world = r.cycleNames world →
          callsOf (strict.heard.cycle.run world).trace = callsOf (r.heard.cycle.run world).trace ∧
            FaultsWithin (r.cycle.run world).value (strict.cycle.run world).value) ∧
      ∀ plan promoted, List.Forall₂ Promotes plan promoted →
        callsOf ((strict.heard.refreshAll promoted).run world).trace =
            callsOf ((r.heard.refreshAll plan).run world).trace ∧
          FaultsWithin ((r.refreshAll plan).run world).value
            ((strict.refreshAll promoted).run world).value := by
  -- Any two choices of policies are compared with the strictest one.
  have hstrictest := fun variableChoice containerChoice =>
    r.tightenedTo_strictest variableChoice containerChoice
  refine ⟨fun v c v' c' => ⟨?_, ?_⟩, fun strict h => ⟨fun hn hnames => ⟨?_, ?_⟩,
    fun plan promoted hp => ⟨?_, ?_⟩⟩⟩
  · have hone := calls_within (hstrictest v c) (fun _ hname => hname) world rfl
    have hother := calls_within (hstrictest v' c') (fun _ hname => hname) world rfl
    exact hone.symm.trans hother
  · have hone := cycle_within (hstrictest v c) (fun _ hname => hname) world rfl
    have hother := cycle_within (hstrictest v' c') (fun _ hname => hname) world rfl
    exact hone.world.symm.trans hother.world
  · exact calls_within h hn world hnames
  · exact (cycle_within h hn world hnames).value
  · exact congrArg (List.filter _) (refreshAll_within h.heard hp world).requests
  · exact (refreshAll_within h hp world).value

/-- A reconciler that finds one container that is not there, one that declares nothing and one that
declares a domain. -/
def discoveringReconciler (names : List String) (choice : MissingVariable) : Reconciler Unit where
  settings := { enumerate := true, missingVariable := choice }
  inspector := statedInspector (.ok ["cache", "web"]) threeContainers
  publisher := statedPublisher fun _ => .ok ()
  alarm := ⟨fun _ => true, fun _ => pure ()⟩
  names

theorem stricter_policies_lose_nothing_promoted_cache :
    let mild := discoveringReconciler ["gone"] .ignore
    let strict := discoveringReconciler ["gone", "cache"] .automatic
    strict.cycleNames () = ["gone", "cache", "web"] ∧
      (mild.cycle.run ()).value = .ok [⟨.noAddress, some "gone"⟩] ∧
      (strict.cycle.run ()).value =
        .ok [⟨.noAddress, some "gone"⟩, ⟨.variableMissing "BEACHHEAD_DOMAINS", some "cache"⟩] ∧
      callsOf (strict.heard.cycle.run ()).trace = callsOf (mild.heard.cycle.run ()).trace ∧
      FaultsWithin (mild.cycle.run ()).value (strict.cycle.run ()).value ∧
      FaultsWithin ((mild.refreshAll (discoveredPlan [] ["cache"])).run ()).value
        ((strict.refreshAll (explicitPlan ["cache"])).run ()).value := by
  intro mild strict
  have htightened : TightenedTo mild strict := ⟨rfl, rfl, rfl, by decide, by decide⟩
  have hnames : strict.cycleNames () = mild.cycleNames () := by decide +kernel
  -- What was found becomes what was named on purpose, and nothing else changes.
  have hpromoted : List.Forall₂ Promotes (discoveredPlan [] ["cache"]) (explicitPlan ["cache"]) :=
    .cons ⟨rfl, rfl, fun _ => rfl⟩ .nil
  obtain ⟨hcycle, hplan⟩ := (stricter_policies_lose_nothing mild ()).2 strict htightened
  obtain ⟨hcalls, hfaults⟩ := hcycle (by decide) hnames
  exact ⟨by decide +kernel, by decide +kernel, by decide +kernel, hcalls, hfaults,
    (hplan _ _ hpromoted).2⟩

end Reconciler

end RegistrySync
