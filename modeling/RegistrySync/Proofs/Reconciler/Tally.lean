/-
The faults of a cycle, counted container by container.

The inspector and the publisher may answer differently at every call. As long as they fail
only in the ways that a cycle handles, no fault leaves the cycle, and every fault that counts
belongs to the listing or to one container of the plan:

* `Task.FailsAs` — what the faults of a task are like, in the worlds of an invariant;
* `Civil` — collaborators that fail only in the ways that a cycle handles;
* `Raised`, `Share` — the faults that can count for one container;
* `visits` — the containers of a plan with the worlds in which they are looked at;
* `refresh_share`, `refreshAll_shares` — one container, and all of a plan;
* `cycle_shares` — a cycle ends with at most one fault of the listing and the shares of its
  containers.
-/
import RegistrySync.Proofs.Reconciler.Plan
import Mathlib.Data.List.Forall2

namespace RegistrySync

variable {ω α : Type}

/-- In the worlds of `I` the task stays in `I`, and its faults are of this sort. -/
structure Task.FailsAs (I : ω → Prop) (sort : Fault → Prop) (task : Task ω α) : Prop where
  kept : ∀ {world}, I world → I (task.run world).world
  sorted : ∀ {world fault}, I world → (task.run world).value = .error fault → sort fault

namespace Reconciler

/-- Collaborators that fail only in the ways that a cycle handles. Otherwise they may answer as
they like, and differently at every call. -/
structure Civil (I : ω → Prop) (inspector : Inspector ω) (publisher : Publisher ω) : Prop where
  enumerate : inspector.enumerate.FailsAs I (·.kind.isReported = true)
  inspect : ∀ name, (inspector.inspect name).FailsAs I (handlesInspection · = true)
  publish : ∀ publication, (publisher.publish publication).FailsAs I (·.kind = .publishing)

/-- The faults that can count for a container whose refresh starts in `world`: that of its
inspection, that it declares no domains, or that of the publication of what it declares. -/
inductive Raised (r : Reconciler ω) (name : String) (world : ω) : Fault → Prop
  | inspection {fault : Fault}
      (h : ((r.inspector.inspect name).run world).value = .error fault) :
      Raised r name world (fault.about name)
  | undeclared : Raised r name world ⟨.variableMissing r.settings.envVar, some name⟩
  | publication {inspection : Inspection} {fault : Fault}
      (hi : ((r.inspector.inspect name).run world).value = .ok inspection)
      (h : ((r.publisher.publish (.ofInspection inspection)).run
        ((r.inspector.inspect name).run world).world).value = .error fault) :
      Raised r name world (fault.about name)

/-- The faults that a container adds to a cycle: at most one, and raised for this container. -/
structure Share (r : Reconciler ω) (name : String) (world : ω) (faults : List Fault) : Prop where
  length_le : faults.length ≤ 1
  raised : ∀ fault ∈ faults, Raised r name world fault

variable {I : ω → Prop} {r : Reconciler ω}

theorem Share.nil {name : String} {world : ω} : Share r name world [] := by
  refine ⟨Nat.zero_le _, fun fault hm => ?_⟩
  cases hm

theorem Share.singleton {name : String} {world : ω} {fault : Fault}
    (h : Raised r name world fault) : Share r name world [fault] := by
  refine ⟨Nat.le_refl _, fun other hm => ?_⟩
  rwa [List.mem_singleton.1 hm]

/-- A share that is a fault if some policy says so. -/
theorem Share.ite {name : String} {world : ω} {fault : Fault} (h : Raised r name world fault)
    (report : Bool) : Share r name world (if report then [fault] else []) := by
  cases report with
  | true => exact .singleton h
  | false => exact .nil

/-! ### One container -/

/-- Whatever becomes of an inspection, the container adds its share to the cycle. -/
theorem refresh_share (hc : Civil I r.inspector r.publisher) (name : String) (explicit : Bool)
    {world : ω} (hw : I world) :
    I ((r.refresh name ⟨explicit, name⟩).run world).world ∧
      ∃ faults, ((r.refresh name ⟨explicit, name⟩).run world).value = .ok faults ∧
        Share r name world faults := by
  have hkept := (hc.inspect name).kept hw
  rw [run_refresh]
  simp only [Outcome.after_value, Outcome.after_world]
  cases hv : ((r.inspector.inspect name).run world).value with
  | error fault =>
    have hhandled := (hc.inspect name).sorted hw hv
    rw [afterInspection, if_pos hhandled, run_onInspectionFault]
    exact ⟨hkept, _, rfl, .ite (.inspection hv) _⟩
  | ok inspection =>
    -- The world changes once more only if there is something to publish.
    rw [afterInspection]
    split
    · rw [run_onUndeclared]
      exact ⟨hkept, _, rfl, .ite .undeclared _⟩
    · split
      · rw [run_announce]
        exact ⟨hkept, _, rfl, .nil⟩
      · rw [run_publish]
        have hpublish := hc.publish (.ofInspection inspection)
        refine ⟨hpublish.kept hkept, ?_⟩
        cases hp : ((r.publisher.publish (.ofInspection inspection)).run
            ((r.inspector.inspect name).run world).world).value with
        | ok _ => exact ⟨[], rfl, .nil⟩
        | error fault =>
          have hkind := hpublish.sorted hkept hp
          exact ⟨[fault.about name], if_pos hkind, .singleton (.publication hv hp)⟩

/-! ### A plan -/

/-- The containers of a plan, each with the world in which its refresh starts. -/
def visits (r : Reconciler ω) : Plan → ω → List (String × ω)
  | [], _ => []
  | (name, pending) :: rest, world =>
    (name, world) :: r.visits rest ((r.refresh name pending).run world).world

theorem map_fst_visits (r : Reconciler ω) (plan : Plan) (world : ω) :
    (r.visits plan world).map Prod.fst = plan.map Prod.fst := by
  induction plan generalizing world with
  | nil => rfl
  | cons entry rest ih => rw [visits, List.map_cons, List.map_cons, ih]

/-- The shares of the containers of a plan, in its order. Each refresh starts in the invariant. -/
theorem refreshAll_shares (hc : Civil I r.inspector r.publisher) (given names : List String)
    {world : ω} (hw : I world) :
    I ((r.refreshAll (names.map (entryOf given))).run world).world ∧
      ∃ shares, ((r.refreshAll (names.map (entryOf given))).run world).value =
          .ok shares.flatten ∧
        List.Forall₂ (fun visit faults => I visit.2 ∧ Share r visit.1 visit.2 faults)
          (r.visits (names.map (entryOf given)) world) shares := by
  -- Along the plan: what one container leaves is where the next one starts.
  induction names generalizing world with
  | nil =>
    rw [List.map_nil, run_refreshAll_nil]
    exact ⟨hw, [], rfl, .nil⟩
  | cons name rest ih =>
    obtain ⟨hkept, faults, hv, hshare⟩ := refresh_share hc name (decide (name ∈ given)) hw
    obtain ⟨hkept', shares, hvs, hshares⟩ := ih hkept
    rw [List.map_cons, entryOf, run_refreshAll_cons hv]
    refine ⟨hkept', faults :: shares, ?_, .cons ⟨hw, hshare⟩ hshares⟩
    rw [hvs]
    rfl

/-! ### A cycle -/

/-- The names of the cycle that starts in a world. -/
def cycleNames (r : Reconciler ω) (world : ω) : List String :=
  mergedNames r.settings r.names (r.inspector.enumerate.run world).value

/-- The plan can always be made. -/
theorem merge_early (hc : Civil I r.inspector r.publisher) {world : ω} (hw : I world) :
    I (r.merge.run world).world ∧
      ∃ early, (r.merge.run world).value =
          .ok ((r.cycleNames world).map (entryOf r.names), early) ∧ Early early := by
  obtain ⟨early, he⟩ := exists_earlyFaults (fun fault hv => hc.enumerate.sorted hw hv) r.settings
  refine ⟨?_, early, ?_, early_of_earlyFaults he⟩
  · cases hs : r.settings.enumerate with
    | true =>
      rw [run_merge hs]
      exact hc.enumerate.kept hw
    | false => rwa [run_merge_alone hs]
  · rw [value_merge, planOf_eq, he]
    rfl

/-- The containers of the cycle that starts in a world, each with the world in which its own
refresh starts. -/
def cycleVisits (r : Reconciler ω) (world : ω) : List (String × ω) :=
  r.visits ((r.cycleNames world).map (entryOf r.names)) (r.merge.run world).world

theorem map_fst_cycleVisits (r : Reconciler ω) (world : ω) :
    (r.cycleVisits world).map Prod.fst = r.cycleNames world := by
  rw [cycleVisits, map_fst_visits, List.map_map]
  exact List.map_id _

/-- No fault leaves a cycle: it ends with at most one fault of the listing, and then the shares of
its containers in their order. -/
theorem cycle_shares (hc : Civil I r.inspector r.publisher) {world : ω} (hw : I world) :
    I (r.cycle.run world).world ∧
      ∃ early shares, (r.cycle.run world).value = .ok (early ++ shares.flatten) ∧ Early early ∧
        List.Forall₂ (fun visit faults => I visit.2 ∧ Share r visit.1 visit.2 faults)
          (r.cycleVisits world) shares := by
  obtain ⟨hkept, early, hm, hearly⟩ := merge_early hc hw
  obtain ⟨hkept', shares, hv, hshares⟩ := refreshAll_shares hc r.names (r.cycleNames world) hkept
  rw [run_cycle hm]
  refine ⟨hkept', early, shares, ?_, hearly, hshares⟩
  rw [hv]
  rfl

end Reconciler

end RegistrySync
