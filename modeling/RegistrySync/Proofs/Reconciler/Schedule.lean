/-
Runs over any number of cycles, and the one after which the alarm ends them.

The alarm is looked at twice behind every cycle: before the wait and after it. Inspector,
publisher and wait may all change the world, so it can come to be set in any of them. A wait that
is refused ends a run as well, whatever the alarm.

* `turn`, `startOf` — a cycle with the wait behind it, and the world in which a cycle starts;
* `run_runFor_add` — as long as its turns go on, a run is a shorter one from there;
* `run_runFor_at`, `run_runFor_cut` — a run up to the turn that ends it, and one that is cut short;
* `Alarm.heard`, `Alarm.Quiet`, `Alarm.Limited` — waits put down in the trace, what else they do,
  and which of them are refused;
* `Rings` — when the alarm ends a run;
* `run_runFor_rings`, `run_runFor_not_rings` — where no wait is refused, a run ends with the first
  cycle behind which the alarm rings, and goes on until then;
* `run_runFor_refused` — an interval that is too long ends a run behind its first cycle;
* `run_runFor_once` — without an interval there is one cycle, whatever the alarm.
-/
import RegistrySync.Proofs.Reconciler.Heard
import RegistrySync.Proofs.Reconciler.Requests
import RegistrySync.Proofs.Reconciler.Tally
import Mathlib.Logic.Function.Iterate

namespace RegistrySync

variable {ω : Type}

namespace Reconciler

/-! ### Turns -/

/-- The world after a cycle and the wait behind it. -/
def turn (r : Reconciler ω) (world : ω) : ω := (r.wait.run (r.cycle.run world).world).world

/-- The world in which the cycle of this number starts; the first one has number 0. -/
def startOf (r : Reconciler ω) (world : ω) (n : Nat) : ω := r.turn^[n] world

@[simp] theorem startOf_zero (r : Reconciler ω) (world : ω) : r.startOf world 0 = world := rfl

theorem startOf_succ (r : Reconciler ω) (world : ω) (n : Nat) :
    r.startOf world (n + 1) = r.startOf (r.turn world) n := rfl

theorem startOf_succ' (r : Reconciler ω) (world : ω) (n : Nat) :
    r.startOf world (n + 1) = r.turn (r.startOf world n) :=
  Function.iterate_succ_apply' r.turn n world

/-- The requests of a cycle and of the wait behind it. -/
def turnRequests (r : Reconciler ω) (world : ω) : List Request :=
  requestsOf (r.cycle.run world).trace ++ requestsOf (r.wait.run (r.cycle.run world).world).trace

/-- Whether another cycle follows the one that starts in a world. -/
structure GoesOn (r : Reconciler ω) (world : ω) : Prop where
  ends : ∃ faults, (r.cycle.run world).value = .ok faults
  waits : (r.wait.run (r.cycle.run world).world).value = .ok true

variable {r : Reconciler ω}

/-- As long as its turns go on, a run is a shorter one from there. -/
theorem run_runFor_add {k : Nat} {world : ω} (h : ∀ n < k, r.GoesOn (r.startOf world n))
    (bound : Nat) :
    let whole := (r.runFor (k + bound)).run world
    let rest := (r.runFor bound).run (r.startOf world k)
    whole.value = rest.value ∧ whole.world = rest.world ∧
      requestsOf whole.trace =
        (List.range k).flatMap (fun n => r.turnRequests (r.startOf world n)) ++
          requestsOf rest.trace := by
  -- The run starts with its first turn, so this is an induction from the front.
  induction k generalizing world with
  | zero =>
    rw [Nat.zero_add]
    exact ⟨rfl, rfl, rfl⟩
  | succ k ih =>
    obtain ⟨⟨faults, hv⟩, hw⟩ := h 0 (Nat.succ_pos k)
    rw [startOf_zero] at hv hw
    have hrest : ∀ n < k, r.GoesOn (r.startOf (r.turn world) n) := fun n hn =>
      h (n + 1) (Nat.succ_lt_succ hn)
    obtain ⟨hvalue, hworld, hrequests⟩ := ih hrest
    rw [Nat.add_right_comm, run_runFor_next hv hw, startOf_succ]
    refine ⟨hvalue, hworld, ?_⟩
    rw [Outcome.after_trace, requestsOf_append, requestsOf_append, requestsOf_append,
      requestsOf_roundNotes, List.append_nil, List.range_succ_eq_map, List.flatMap_cons,
      List.flatMap_map, List.append_assoc (r.turnRequests (r.startOf world 0))]
    exact congrArg (r.turnRequests world ++ ·) hrequests

/-- A run up to the turn that ends it. -/
theorem run_runFor_at {k : Nat} {world : ω} (h : ∀ n < k, r.GoesOn (r.startOf world n))
    {faults : List Fault} (hv : (r.cycle.run (r.startOf world k)).value = .ok faults)
    (hstop : (r.wait.run (r.cycle.run (r.startOf world k)).world).value = .ok false)
    {bound : Nat} (hb : k < bound) :
    let whole := (r.runFor bound).run world
    whole.value = .ok (some faults) ∧ whole.world = r.startOf world (k + 1) ∧
      requestsOf whole.trace =
        (List.range (k + 1)).flatMap fun n => r.turnRequests (r.startOf world n) := by
  obtain ⟨more, rfl⟩ := Nat.exists_eq_add_of_lt hb
  obtain ⟨hvalue, hworld, hrequests⟩ := run_runFor_add h (more + 1)
  rw [run_runFor_last hv hstop] at hvalue hworld hrequests
  refine ⟨hvalue, ?_, ?_⟩
  · rw [startOf_succ']
    exact hworld
  · rw [List.range_succ, List.flatMap_append, List.flatMap_singleton, turnRequests,
      ← requestsOf_append]
    exact hrequests

/-- A run that is cut short before any turn ends it. -/
theorem run_runFor_cut {bound : Nat} {world : ω} (h : ∀ n < bound, r.GoesOn (r.startOf world n)) :
    let whole := (r.runFor bound).run world
    whole.value = .ok none ∧
      requestsOf whole.trace =
        (List.range bound).flatMap fun n => r.turnRequests (r.startOf world n) := by
  obtain ⟨hvalue, -, hrequests⟩ := run_runFor_add h 0
  refine ⟨hvalue, hrequests.trans ?_⟩
  rw [show requestsOf ((r.runFor 0).run (r.startOf world bound)).trace = [] from rfl,
    List.append_nil]

end Reconciler

/-! ### Alarms -/

/-- The alarm, with every wait put down in the trace. -/
def Alarm.heard (alarm : Alarm ω) : Alarm ω where
  isSet := alarm.isSet
  wait seconds := do
    Task.ofAct (Act.request (.wait seconds))
    alarm.wait seconds

/-- An alarm whose waits stay in `I` and make no requests of their own. -/
structure Alarm.Quiet (I : ω → Prop) (alarm : Alarm ω) : Prop where
  kept : ∀ {world} seconds, I world → I ((alarm.wait seconds).run world).world
  silent : ∀ {world} seconds, I world → requestsOf ((alarm.wait seconds).run world).trace = []

/-- An alarm whose waits fail only if they are too long: such a wait is refused before anything
is done, unless the alarm is set. -/
structure Alarm.Limited (alarm : Alarm ω) : Prop where
  waits : ∀ {seconds} world, seconds ≤ longestWait →
    ((alarm.wait seconds).run world).value = .ok ()
  refuses : ∀ {seconds world}, longestWait < seconds → alarm.isSet world = false →
    (alarm.wait seconds).run world = ⟨.error ⟨.waitTooLong, none⟩, world, []⟩

theorem Alarm.run_timed_wait (isSet : ω → Bool) (pass : Int → Act ω Unit) (seconds : Int)
    (world : ω) :
    ((Alarm.timed isSet pass).wait seconds).run world =
      if isSet world then ⟨.ok (), world, []⟩
      else if longestWait < seconds then ⟨.error ⟨.waitTooLong, none⟩, world, []⟩
      else ⟨.ok (), ((pass seconds).run world).world, ((pass seconds).run world).trace⟩ := by
  by_cases hset : isSet world = true
  · simp [timed, hset, Outcome.after]
  · by_cases hlong : longestWait < seconds
    · simp [timed, hset, hlong, Outcome.after]
    · simp [timed, hset, hlong, Outcome.after]

/-- An alarm that is waited for by the clock has such a limit. -/
theorem Alarm.limited_timed (isSet : ω → Bool) (pass : Int → Act ω Unit) :
    (Alarm.timed isSet pass).Limited where
  waits := by
    intro seconds world hshort
    rw [run_timed_wait, if_neg (Int.not_lt.2 hshort)]
    split <;> rfl
  refuses := by
    intro seconds world hlong hclear
    have hclear : isSet world = false := hclear
    rw [run_timed_wait, hclear, if_neg Bool.false_ne_true, if_pos hlong]

/-- Such an alarm is quiet if nothing but quiet things happen until a wait is over. -/
theorem Alarm.quiet_timed {I : ω → Prop} {isSet : ω → Bool} {pass : Int → Act ω Unit}
    (hkept : ∀ {world} seconds, I world → I ((pass seconds).run world).world)
    (hsilent : ∀ seconds world, requestsOf ((pass seconds).run world).trace = []) :
    (Alarm.timed isSet pass).Quiet I where
  kept := by
    intro world seconds hw
    rw [run_timed_wait]
    split
    · exact hw
    · split
      · exact hw
      · exact hkept seconds hw
  silent := by
    intro world seconds _
    rw [run_timed_wait]
    split
    · rfl
    · split
      · rfl
      · exact hsilent seconds world

theorem Alarm.run_heard_wait (alarm : Alarm ω) (seconds : Int) (world : ω) :
    (alarm.heard.wait seconds).run world =
      ((alarm.wait seconds).run world).after [.request (.wait seconds)] :=
  Task.run_ofAct_bind ..

/-- Hearing a call changes neither what a task keeps nor how it fails. -/
theorem Task.FailsAs.after_request {α : Type} {I : ω → Prop} {sort : Fault → Prop}
    {task : Task ω α} (h : task.FailsAs I sort) (request : Request) :
    (ofAct (Act.request request) >>= fun _ => task).FailsAs I sort := by
  constructor
  · intro world hw
    rw [run_ofAct_bind]
    exact h.kept hw
  · intro world fault hw hv
    rw [run_ofAct_bind] at hv
    exact h.sorted hw hv

namespace Reconciler

theorem Civil.heard {I : ω → Prop} {inspector : Inspector ω} {publisher : Publisher ω}
    (h : Civil I inspector publisher) : Civil I inspector.heard publisher.heard where
  enumerate := h.enumerate.after_request .enumerate
  inspect name := (h.inspect name).after_request (.inspect name)
  publish publication := (h.publish publication).after_request _

/-- Whether the alarm is set once the cycle that starts in a world is over, or once the wait
behind it is. -/
def Rings (r : Reconciler ω) (alarm : Alarm ω) (seconds : Int) (world : ω) : Prop :=
  alarm.isSet (r.cycle.run world).world = true ∨
    alarm.isSet ((alarm.wait seconds).run (r.cycle.run world).world).world = true

variable {r : Reconciler ω} {alarm : Alarm ω} {seconds : Int} {I : ω → Prop}

/-- Where the alarm can be waited for as long as the interval is, a wait tells whether there is
another cycle: unless the alarm is set before or behind it. -/
theorem wait_value_of_waits (ha : r.alarm = alarm.heard) (hs : r.settings.refresh = some seconds)
    (hends : ∀ world, ((alarm.wait seconds).run world).value = .ok ()) (world : ω) :
    ∃ more, (r.wait.run (r.cycle.run world).world).value = .ok more ∧
      (more = false ↔ r.Rings alarm seconds world) := by
  unfold Rings
  by_cases hset : r.alarm.isSet (r.cycle.run world).world = true
  · rw [run_wait_stop (Or.inr hset)]
    rw [ha] at hset
    exact ⟨false, rfl, fun _ => Or.inl hset, fun _ => rfl⟩
  · have hclear : r.alarm.isSet (r.cycle.run world).world = false := by simpa using hset
    rw [run_wait_go hs hclear]
    rw [ha] at hset hclear ⊢
    simp only [Alarm.run_heard_wait, Outcome.after_value, Outcome.after_world, hends]
    refine ⟨_, rfl, ?_⟩
    rw [Bool.not_eq_false']
    exact ⟨Or.inr, fun h => h.resolve_left hset⟩

/-- What a wait puts down: itself, unless the alarm is set before. -/
theorem requestsOf_wait (ha : r.alarm = alarm.heard) (hs : r.settings.refresh = some seconds)
    (hq : alarm.Quiet I) {world : ω} (hw : I world) :
    requestsOf (r.wait.run world).trace = if alarm.isSet world then [] else [.wait seconds] := by
  cases hset : alarm.isSet world with
  | true =>
    rw [run_wait_stop (Or.inr (by rw [ha]; exact hset))]
    rfl
  | false =>
    rw [run_wait_go hs (by rw [ha]; exact hset), ha]
    simp only [Alarm.run_heard_wait, Outcome.after_trace, requestsOf_append, hq.silent seconds hw]
    rfl

/-- A wait stays in the invariant. -/
theorem wait_kept (ha : r.alarm = alarm.heard) (hq : alarm.Quiet I) {world : ω} (hw : I world) :
    I (r.wait.run world).world := by
  obtain hstop | ⟨seconds, hs, hset⟩ := r.stops_or_waits world
  · rwa [run_wait_stop hstop]
  · rw [run_wait_go hs hset, ha]
    exact hq.kept seconds hw

/-- After a turn whose alarm does not ring there is another one. -/
theorem goesOn_of_not_rings (hc : Civil I r.inspector r.publisher) (ha : r.alarm = alarm.heard)
    (hs : r.settings.refresh = some seconds)
    (hends : ∀ world, ((alarm.wait seconds).run world).value = .ok ()) {world : ω} (hw : I world)
    (h : ¬r.Rings alarm seconds world) : r.GoesOn world := by
  obtain ⟨-, early, shares, hv, -, -⟩ := cycle_shares hc hw
  obtain ⟨more, hmore, hiff⟩ := wait_value_of_waits ha hs hends world
  refine ⟨⟨_, hv⟩, hmore.trans (congrArg Except.ok ?_)⟩
  rw [← Bool.not_eq_false]
  exact fun hstop => h (hiff.1 hstop)

/-! ### Runs under an alarm -/

section

variable (hc : Civil I r.inspector r.publisher) (ha : r.alarm = alarm.heard) (hq : alarm.Quiet I)

include hc ha hq

/-- Every cycle starts in the invariant of the collaborators. -/
theorem startOf_kept {world : ω} (hw : I world) (n : Nat) : I (r.startOf world n) := by
  induction n with
  | zero => exact hw
  | succ n ih =>
    rw [startOf_succ']
    exact wait_kept ha hq (cycle_shares hc ih).1

variable (hs : r.settings.refresh = some seconds)

include hs

theorem turnRequests_eq {world : ω} (hw : I world) :
    r.turnRequests world = requestsOf (r.cycle.run world).trace ++
      if alarm.isSet (r.cycle.run world).world then [] else [.wait seconds] := by
  rw [turnRequests, requestsOf_wait ha hs hq (cycle_shares hc hw).1]

/-- A turn whose alarm does not ring makes the requests of its cycle, and then waits. -/
theorem turnRequests_of_not_rings {world : ω} (hw : I world) (h : ¬r.Rings alarm seconds world) :
    r.turnRequests world = requestsOf (r.cycle.run world).trace ++ [.wait seconds] := by
  rw [turnRequests_eq hc ha hq hs hw, if_neg fun hset => h (Or.inl hset)]

/-- The calls of a turn are those of its cycle. -/
theorem calls_turnRequests {world : ω} (hw : I world) :
    (r.turnRequests world).filter (·.isCall) = callsOf (r.cycle.run world).trace := by
  have hwait : ((if alarm.isSet (r.cycle.run world).world then [] else [.wait seconds] :
      List Request).filter (·.isCall)) = [] := by
    split <;> rfl
  rw [turnRequests_eq hc ha hq hs hw, List.filter_append, hwait, List.append_nil, callsOf]

variable (hends : ∀ world, ((alarm.wait seconds).run world).value = .ok ())

include hends

/-- A run ends with the faults of the first cycle behind which the alarm rings. -/
theorem run_runFor_rings {world : ω} (hw : I world) {k : Nat}
    (hgo : ∀ n < k, ¬r.Rings alarm seconds (r.startOf world n))
    (hring : r.Rings alarm seconds (r.startOf world k)) {faults : List Fault}
    (hv : (r.cycle.run (r.startOf world k)).value = .ok faults) {bound : Nat} (hb : k < bound) :
    let cycleAt := fun n => r.cycle.run (r.startOf world n)
    let whole := (r.runFor bound).run world
    whole.value = .ok (some faults) ∧ whole.world = r.startOf world (k + 1) ∧
      requestsOf whole.trace =
          (List.range k).flatMap (fun n => requestsOf (cycleAt n).trace ++ [.wait seconds]) ++
            requestsOf (cycleAt k).trace ++
              (if alarm.isSet (cycleAt k).world then [] else [.wait seconds]) ∧
        callsOf whole.trace = (List.range (k + 1)).flatMap fun n => callsOf (cycleAt n).trace := by
  intro cycleAt whole
  have hkept := startOf_kept hc ha hq hw
  obtain ⟨more, hmore, hiff⟩ := wait_value_of_waits ha hs hends (r.startOf world k)
  have hstop := hmore.trans (congrArg Except.ok (hiff.2 hring))
  obtain ⟨hvalue, hworld, hrequests⟩ := run_runFor_at
    (fun n hn => goesOn_of_not_rings hc ha hs hends (hkept n) (hgo n hn)) hv hstop hb
  refine ⟨hvalue, hworld, hrequests.trans ?_, ?_⟩
  · -- Before the last turn the alarm is never set, so every wait takes place.
    have hbefore := List.flatMap_congr fun n hn =>
      turnRequests_of_not_rings hc ha hq hs (hkept n) (hgo n (List.mem_range.1 hn))
    rw [List.range_succ, List.flatMap_append, List.flatMap_singleton, hbefore,
      turnRequests_eq hc ha hq hs (hkept k), List.append_assoc]
  · rw [callsOf, hrequests, List.filter_flatMap]
    exact List.flatMap_congr fun n _ => calls_turnRequests hc ha hq hs (hkept n)

/-- As long as the alarm does not ring, a run goes on. -/
theorem run_runFor_not_rings {world : ω} (hw : I world) {bound : Nat}
    (hgo : ∀ n < bound, ¬r.Rings alarm seconds (r.startOf world n)) :
    let whole := (r.runFor bound).run world
    whole.value = .ok none ∧
      requestsOf whole.trace = (List.range bound).flatMap fun n =>
        requestsOf (r.cycle.run (r.startOf world n)).trace ++ [.wait seconds] := by
  have hkept := startOf_kept hc ha hq hw
  obtain ⟨hvalue, hrequests⟩ := run_runFor_cut fun n hn =>
    goesOn_of_not_rings hc ha hs hends (hkept n) (hgo n hn)
  refine ⟨hvalue, hrequests.trans ?_⟩
  exact List.flatMap_congr fun n hn =>
    turnRequests_of_not_rings hc ha hq hs (hkept n) (hgo n (List.mem_range.1 hn))

end

/-- An interval for which cannot be waited ends a run behind its first cycle, unless the alarm is
set by then: the wait is tried, and its fault leaves the run. -/
theorem run_runFor_refused (ha : r.alarm = alarm.heard) (hs : r.settings.refresh = some seconds)
    (hl : alarm.Limited) (hlong : longestWait < seconds) {world : ω} {faults : List Fault}
    (hv : (r.cycle.run world).value = .ok faults)
    (hclear : alarm.isSet (r.cycle.run world).world = false) (bound : Nat) :
    (r.runFor (bound + 1)).run world =
      ⟨.error ⟨.waitTooLong, none⟩, (r.cycle.run world).world,
        (r.cycle.run world).trace ++ [.request (.wait seconds)]⟩ := by
  have hset : r.alarm.isSet (r.cycle.run world).world = false := by
    rw [ha]
    exact hclear
  have hwait : r.wait.run (r.cycle.run world).world =
      ⟨.error ⟨.waitTooLong, none⟩, (r.cycle.run world).world, [.request (.wait seconds)]⟩ := by
    rw [run_wait_go hs hset, ha]
    simp only [Alarm.run_heard_wait, hl.refuses hlong hclear]
    rfl
  rw [run_runFor_unwaited hv (by rw [hwait]), hwait]

theorem refreshAll_with_alarm (r : Reconciler ω) (other : Alarm ω) (plan : Plan) :
    { r with alarm := other }.refreshAll plan = r.refreshAll plan := by
  induction plan with
  | nil => rfl
  | cons entry rest ih =>
    obtain ⟨name, pending⟩ := entry
    rw [refreshAll, refreshAll, ih]
    rfl

/-- A cycle does not look at the alarm. -/
theorem cycle_with_alarm (r : Reconciler ω) (other : Alarm ω) :
    { r with alarm := other }.cycle = r.cycle := by
  unfold cycle
  simp only [refreshAll_with_alarm]
  rfl

/-- Without an interval there is one cycle, whatever the alarm: it is neither looked at nor
waited for. -/
theorem run_runFor_once (hs : r.settings.refresh = none) {world : ω} {faults : List Fault}
    (hv : (r.cycle.run world).value = .ok faults) (other : Alarm ω) (bound : Nat) :
    ({ r with alarm := other }.runFor (bound + 1)).run world =
      ⟨.ok (some faults), (r.cycle.run world).world, (r.cycle.run world).trace⟩ := by
  have hcycle := r.cycle_with_alarm other
  rw [← hcycle] at hv ⊢
  exact run_runFor_stop hv (Or.inl hs) bound

end Reconciler

end RegistrySync
