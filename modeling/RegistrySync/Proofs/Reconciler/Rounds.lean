/-
Runs, cycle by cycle.

* `run_wait_stop`, `run_wait_go` — whether there is to be another cycle, and what waiting for it
  does;
* `Alarm.Bears`, `wait_value_of_bears` — intervals for which can be waited;
* `Round` — the ways in which the first round of a run can go;
* `run_runFor_fault`, `run_runFor_unwaited`, `run_runFor_last`, `run_runFor_stop`,
  `run_runFor_next` — what a run does after a cycle;
* `runFor_begins` — a run begins with a cycle;
* `exists_of_runFor_fault` — a fault leaves a run from a cycle or from a wait;
* `rounds` — what each cycle of a run ends with;
* `getLast?_rounds` — a run ends as its last cycle does.
-/
import RegistrySync.Proofs.Reconciler.Steps
import RegistrySync.Reconciler.Run

namespace RegistrySync

variable {ω : Type}

/-- The alarm can be waited for as long as an interval is, if there is one. -/
def Alarm.Bears (alarm : Alarm ω) (refresh : Option Int) : Prop :=
  ∀ seconds, refresh = some seconds → ∀ world, ((alarm.wait seconds).run world).value = .ok ()

namespace Reconciler

/-! ### One round -/

/-- A reconciler without an interval, or whose alarm is set, does not wait. -/
theorem run_wait_stop {r : Reconciler ω} {world : ω}
    (h : r.settings.refresh = none ∨ r.alarm.isSet world = true) :
    r.wait.run world = ⟨.ok false, world, []⟩ := by
  unfold wait
  cases hr : r.settings.refresh with
  | none => rfl
  | some seconds =>
    rw [hr] at h
    have hset := h.resolve_left (by simp)
    simp [hset, Outcome.after]

/-- Any other reconciler waits, and goes on unless the alarm is set then or the wait fails. -/
theorem run_wait_go {r : Reconciler ω} {world : ω} {seconds : Int}
    (h : r.settings.refresh = some seconds) (ha : r.alarm.isSet world = false) :
    r.wait.run world =
      ⟨((r.alarm.wait seconds).run world).value.map fun _ =>
          !r.alarm.isSet ((r.alarm.wait seconds).run world).world,
        ((r.alarm.wait seconds).run world).world, ((r.alarm.wait seconds).run world).trace⟩ := by
  simp only [wait, h, Task.run_ofAct_bind, Act.run_look, ha]
  cases hv : ((r.alarm.wait seconds).run world).value with
  | ok _ => simp [Task.run_bind_value hv, Outcome.after, Except.map]
  | error fault => simp [Task.run_bind_error hv, Outcome.after, Except.map]

/-- After every cycle a reconciler either stops or waits. -/
theorem stops_or_waits (r : Reconciler ω) (world : ω) :
    (r.settings.refresh = none ∨ r.alarm.isSet world = true) ∨
      ∃ seconds, r.settings.refresh = some seconds ∧ r.alarm.isSet world = false := by
  cases hr : r.settings.refresh with
  | none => exact Or.inl (Or.inl rfl)
  | some seconds =>
    cases hset : r.alarm.isSet world with
    | true => exact Or.inl (Or.inr rfl)
    | false => exact Or.inr ⟨seconds, rfl, rfl⟩

/-- Where the alarm can be waited for, a wait tells whether there is another cycle. -/
theorem wait_value_of_bears {r : Reconciler ω} (h : r.alarm.Bears r.settings.refresh) (world : ω) :
    ∃ more, (r.wait.run world).value = .ok more := by
  rcases r.stops_or_waits world with hstop | ⟨seconds, hs, hset⟩
  · rw [run_wait_stop hstop]
    exact ⟨false, rfl⟩
  · rw [run_wait_go hs hset, h seconds hs world]
    exact ⟨_, rfl⟩

/-- The notice that the next cycle starts after one with faults. -/
def roundNotes (faults : List Fault) : List Event :=
  if faults.isEmpty then []
  else
    [note .debug ("Starting a new cycle; " ++ Text.showNat faults.length ++
      " error(s) of the previous cycle were logged")]

@[simp] theorem requestsOf_roundNotes (faults : List Fault) :
    requestsOf (roundNotes faults) = [] := by
  unfold roundNotes
  split <;> rfl

/-- The ways in which the first round of a run can go: its cycle fails, or the wait behind it does,
or there is no other round, or there is one. -/
inductive Round (r : Reconciler ω) (world : ω) : Prop
  | failed {fault : Fault} (cycle : (r.cycle.run world).value = .error fault) : Round r world
  | unwaited {faults : List Fault} {fault : Fault}
      (cycle : (r.cycle.run world).value = .ok faults)
      (wait : (r.wait.run (r.cycle.run world).world).value = .error fault) : Round r world
  | last {faults : List Fault} (cycle : (r.cycle.run world).value = .ok faults)
      (wait : (r.wait.run (r.cycle.run world).world).value = .ok false) : Round r world
  | next {faults : List Fault} (cycle : (r.cycle.run world).value = .ok faults)
      (wait : (r.wait.run (r.cycle.run world).world).value = .ok true) : Round r world

theorem round (r : Reconciler ω) (world : ω) : Round r world := by
  cases hcycle : (r.cycle.run world).value with
  | error fault => exact .failed hcycle
  | ok faults =>
    cases hwait : (r.wait.run (r.cycle.run world).world).value with
    | error fault => exact .unwaited hcycle hwait
    | ok more =>
      cases more with
      | false => exact .last hcycle hwait
      | true => exact .next hcycle hwait

/-- A cycle that ends with a fault ends the run. -/
theorem run_runFor_fault {r : Reconciler ω} {world : ω} {fault : Fault}
    (h : (r.cycle.run world).value = .error fault) (bound : Nat) :
    (r.runFor (bound + 1)).run world =
      ⟨.error fault, (r.cycle.run world).world, (r.cycle.run world).trace⟩ := by
  rw [runFor, Task.run_bind_error h]

/-- A wait that ends with a fault ends the run. -/
theorem run_runFor_unwaited {r : Reconciler ω} {world : ω} {faults : List Fault} {fault : Fault}
    (h : (r.cycle.run world).value = .ok faults)
    (hw : (r.wait.run (r.cycle.run world).world).value = .error fault) (bound : Nat) :
    (r.runFor (bound + 1)).run world =
      ⟨.error fault, (r.wait.run (r.cycle.run world).world).world,
        (r.cycle.run world).trace ++ (r.wait.run (r.cycle.run world).world).trace⟩ := by
  rw [runFor, Task.run_bind_value h, Task.run_bind_error hw]
  rfl

/-- A cycle after which there is none ends the run with its faults. -/
theorem run_runFor_last {r : Reconciler ω} {world : ω} {faults : List Fault}
    (h : (r.cycle.run world).value = .ok faults)
    (hw : (r.wait.run (r.cycle.run world).world).value = .ok false) (bound : Nat) :
    (r.runFor (bound + 1)).run world =
      ⟨.ok (some faults), (r.wait.run (r.cycle.run world).world).world,
        (r.cycle.run world).trace ++ (r.wait.run (r.cycle.run world).world).trace⟩ := by
  rw [runFor, Task.run_bind_value h, Task.run_bind_value hw]
  simp [Outcome.after]

/-- A cycle behind which there is nothing to wait for is all of the run. -/
theorem run_runFor_stop {r : Reconciler ω} {world : ω} {faults : List Fault}
    (h : (r.cycle.run world).value = .ok faults)
    (hstop : r.settings.refresh = none ∨ r.alarm.isSet (r.cycle.run world).world = true)
    (bound : Nat) :
    (r.runFor (bound + 1)).run world =
      ⟨.ok (some faults), (r.cycle.run world).world, (r.cycle.run world).trace⟩ := by
  have hwait := run_wait_stop hstop
  rw [run_runFor_last h (congrArg Outcome.value hwait), hwait, List.append_nil]

/-- After any other cycle the run goes on as a shorter one. -/
theorem run_runFor_next {r : Reconciler ω} {world : ω} {faults : List Fault}
    (h : (r.cycle.run world).value = .ok faults)
    (hw : (r.wait.run (r.cycle.run world).world).value = .ok true) (bound : Nat) :
    (r.runFor (bound + 1)).run world =
      ((r.runFor bound).run (r.wait.run (r.cycle.run world).world).world).after
        ((r.cycle.run world).trace ++ (r.wait.run (r.cycle.run world).world).trace ++
          roundNotes faults) := by
  rw [runFor, Task.run_bind_value h, Task.run_bind_value hw]
  cases faults with
  | nil => simp [roundNotes]
  | cons fault rest => simp [roundNotes]

/-- A run that comes to a value begins with a cycle that does. -/
theorem runFor_begins {r : Reconciler ω} {world : ω} {bound : Nat} {result : Option (List Fault)}
    (h : ((r.runFor (bound + 1)).run world).value = .ok result) :
    (∃ faults, (r.cycle.run world).value = .ok faults) ∧
      (r.cycle.run world).trace <+: ((r.runFor (bound + 1)).run world).trace := by
  cases r.round world with
  | failed hc =>
    rw [run_runFor_fault hc] at h
    cases h
  | unwaited hc hw =>
    rw [run_runFor_unwaited hc hw] at h
    cases h
  | last hc hw =>
    rw [run_runFor_last hc hw]
    exact ⟨⟨_, hc⟩, List.prefix_append _ _⟩
  | next hc hw =>
    -- Whatever comes behind the first cycle, its trace is at the front.
    rw [run_runFor_next hc hw, Outcome.after_trace, List.append_assoc, List.append_assoc]
    exact ⟨⟨_, hc⟩, List.prefix_append _ _⟩

/-- A fault leaves a run from one of its cycles, or from the wait behind one. -/
theorem exists_of_runFor_fault {r : Reconciler ω} {bound : Nat} {world : ω} {fault : Fault}
    (h : ((r.runFor bound).run world).value = .error fault) :
    ∃ start, (r.cycle.run start).value = .error fault ∨
      (r.wait.run (r.cycle.run start).world).value = .error fault := by
  -- A run goes on only where neither its cycle nor its wait has failed, so the fault is that of
  -- the last of them.
  induction bound generalizing world with
  | zero => cases h
  | succ bound ih =>
    cases r.round world with
    | failed hc =>
      rw [run_runFor_fault hc] at h
      cases h
      exact ⟨world, Or.inl hc⟩
    | unwaited hc hw =>
      rw [run_runFor_unwaited hc hw] at h
      cases h
      exact ⟨world, Or.inr hw⟩
    | last hc hw =>
      rw [run_runFor_last hc hw] at h
      cases h
    | next hc hw =>
      rw [run_runFor_next hc hw] at h
      exact ih h

/-! ### All rounds -/

/-- What the cycles of a run end with, in order. -/
def rounds (r : Reconciler ω) : Nat → ω → List (Except Fault (List Fault))
  | 0, _ => []
  | bound + 1, world =>
    match (r.cycle.run world).value with
    | .error fault => [.error fault]
    | .ok faults =>
      .ok faults ::
        match (r.wait.run (r.cycle.run world).world).value with
        | .ok true => r.rounds bound (r.wait.run (r.cycle.run world).world).world
        | .ok false | .error _ => []

theorem rounds_fault {r : Reconciler ω} {world : ω} {fault : Fault}
    (h : (r.cycle.run world).value = .error fault) (bound : Nat) :
    r.rounds (bound + 1) world = [.error fault] := by
  rw [rounds, h]

theorem rounds_last {r : Reconciler ω} {world : ω} {faults : List Fault}
    (h : (r.cycle.run world).value = .ok faults)
    (hw : (r.wait.run (r.cycle.run world).world).value ≠ .ok true) (bound : Nat) :
    r.rounds (bound + 1) world = [.ok faults] := by
  rw [rounds, h]
  cases hgo : (r.wait.run (r.cycle.run world).world).value with
  | error fault => rfl
  | ok more =>
    cases more with
    | false => rfl
    | true => exact absurd hgo hw

theorem rounds_next {r : Reconciler ω} {world : ω} {faults : List Fault}
    (h : (r.cycle.run world).value = .ok faults)
    (hw : (r.wait.run (r.cycle.run world).world).value = .ok true) (bound : Nat) :
    r.rounds (bound + 1) world =
      .ok faults :: r.rounds bound (r.wait.run (r.cycle.run world).world).world := by
  simp [rounds, h, hw]

/-- A run that ends with faults ends as its last cycle does. -/
theorem getLast?_rounds {r : Reconciler ω} {bound : Nat} {world : ω} {faults : List Fault}
    (h : ((r.runFor bound).run world).value = .ok (some faults)) :
    (r.rounds bound world).getLast? = some (.ok faults) := by
  -- A cycle ends the run, or a shorter run follows that starts behind the wait.
  induction bound generalizing world with
  | zero => cases h
  | succ bound ih =>
    cases r.round world with
    | failed hc =>
      rw [run_runFor_fault hc] at h
      cases h
    | unwaited hc hw =>
      rw [run_runFor_unwaited hc hw] at h
      cases h
    | last hc hw =>
      rw [run_runFor_last hc hw] at h
      rw [rounds_last hc (by rw [hw]; exact nofun)]
      cases h
      rfl
    | next hc hw =>
      rw [run_runFor_next hc hw] at h
      rw [rounds_next hc hw, List.getLast?_cons, ih h, Option.getD_some]

end Reconciler

end RegistrySync
