/-
How a run ends, and with which status.

* `run_of_launch`, `EndsWith` — once a command has come to its reconciler, it ends as the run does;
* `run_until_alarm` — without an interval a run has one cycle; with one it goes on until the alarm
  is set behind a cycle, and ends with the faults of that cycle; an interval that is longer than
  any wait ends it behind the first cycle;
* `run_refresh_too_long` — such an interval is accepted on the command line.

The alarm is any for which can be waited as for an event: shorter waits do not fail, and longer
ones are refused (`Alarm.Limited`).
-/
import RegistrySync.Proofs.CommandLine.StartUp
import RegistrySync.Proofs.Reconciler.Schedule
import RegistrySync.Proofs.Settings.Usable

namespace RegistrySync.CommandLine

open Reconciler

variable {ω : Type}

/-- Once the command has come to a reconciler, nothing is left but its cycles. -/
theorem run_of_launch {collaborators : Collaborators ω} {choices : LogChoices}
    {commandLine : List String} {parsed : Parsed} {session ready : Session ω} {r : Reconciler ω}
    (h : (launch collaborators choices commandLine parsed).run session = (.ok r, ready)) :
    (run collaborators choices commandLine parsed).run session =
      (serve collaborators r).run ready := by
  rw [run, Command.run_bind_ok (congrArg Prod.fst h), h]

/-- Wherever the command comes to start this reconciler in this world, it ends like this. The
command's bound on the number of cycles must lie behind the last one, which has this number. -/
def EndsWith (r : Reconciler ω) (world : ω) (last : Nat) (exit : Exit) : Prop :=
  ∀ (collaborators : Collaborators ω) (choices : LogChoices) (commandLine : List String)
    (parsed : Parsed) (session ready : Session ω),
    (launch collaborators choices commandLine parsed).run session = (.ok r, ready) →
      ready.world = world → last < collaborators.cycleBound world →
        Exit.ofResult ((run collaborators choices commandLine parsed).run session).1 = exit

theorem endsWith_of_runFor {r : Reconciler ω} {world : ω} {last : Nat}
    {result : Except Fault (Option (List Fault))}
    (h : ∀ bound, last < bound → ((r.runFor bound).run world).value = result) :
    EndsWith r world last (exitOf result) := by
  intro collaborators choices commandLine parsed session ready hlaunch hworld hbound
  subst hworld
  rw [run_of_launch hlaunch, (run_serve collaborators r ready).1, h _ hbound]

/-- A run that has ended with its first cycle, or behind it, ends the command. -/
theorem endsWith_first {r : Reconciler ω} {world : ω}
    {outcome : Outcome ω (Except Fault (Option (List Fault)))}
    (h : ∀ bound, (r.runFor (bound + 1)).run world = outcome) :
    EndsWith r world 0 (exitOf outcome.value) := by
  refine endsWith_of_runFor fun bound hb => ?_
  obtain ⟨more, rfl⟩ := Nat.exists_eq_succ_of_ne_zero (Nat.pos_iff_ne_zero.1 hb)
  exact congrArg Outcome.value (h more)

/-- The status that tells whether a cycle had faults. -/
def lastStatus (faults : List Fault) : Exit := .status (if faults = [] then 0 else 1)

/-- Let a reconciler over usable settings have collaborators that answer as they like, and
differently in every cycle, but fail only in the ways that a cycle handles. Let its alarm be one
for which can be waited up to a limit.

Every cycle comes to an end, and its plan depends on nothing but the names that were given on
purpose and its own listing. Without an interval a run is its first cycle, whatever the alarm.

An interval is positive. With one within the limit, a run ends at the first cycle behind which the
alarm is set before or after the wait, with the faults of this cycle. Until then it does nothing but
the cycles and, behind each of them, a wait for the interval; behind the last cycle it waits only if
the alarm is not set before. The calls it makes are those of its cycles, one after another. The
status of the command tells whether the last cycle had faults.

With an interval beyond the limit, a run ends with its first cycle only if the alarm is set behind
it. Otherwise the one wait that it tries is refused: the fault leaves the run and the command, with
the alarm not set. -/
theorem run_until_alarm {settings : Settings} {inspector : Inspector ω} {publisher : Publisher ω}
    {alarm : Alarm ω} {containers : List Json} {r : Reconciler ω}
    (hr : create? settings inspector.heard publisher.heard alarm.heard containers = .ok r)
    {I : ω → Prop} (hc : Civil I inspector publisher) (hq : alarm.Quiet I) (hl : alarm.Limited)
    (world : ω) (hw : I world) :
    let cycleAt := fun n => r.cycle.run (r.startOf world n)
    let given := uniqueNames containers
    (∀ n, (∃ faults, (cycleAt n).value = .ok faults) ∧
        ∃ early, (r.merge.run (r.startOf world n)).value =
          .ok ((mergedNames settings given
            (inspector.enumerate.run (r.startOf world n)).value).map (entryOf given), early)) ∧
      (∀ faults, settings.refresh = none → (cycleAt 0).value = .ok faults →
        (∀ other bound, ({ r with alarm := other }.runFor (bound + 1)).run world =
            ⟨.ok (some faults), (cycleAt 0).world, (cycleAt 0).trace⟩) ∧
          EndsWith r world 0 (lastStatus faults)) ∧
      ∀ seconds, settings.refresh = some seconds →
        0 < seconds ∧
          (seconds ≤ longestWait →
            (∀ k faults, (∀ n < k, ¬r.Rings alarm seconds (r.startOf world n)) →
              r.Rings alarm seconds (r.startOf world k) → (cycleAt k).value = .ok faults →
                (∀ bound, k < bound →
                  let whole := (r.runFor bound).run world
                  whole.value = .ok (some faults) ∧ whole.world = r.startOf world (k + 1) ∧
                    requestsOf whole.trace =
                      (List.range k).flatMap
                          (fun n => requestsOf (cycleAt n).trace ++ [.wait seconds]) ++
                        requestsOf (cycleAt k).trace ++
                          (if alarm.isSet (cycleAt k).world then [] else [.wait seconds]) ∧
                    callsOf whole.trace =
                      (List.range (k + 1)).flatMap fun n => callsOf (cycleAt n).trace) ∧
                  EndsWith r world k (lastStatus faults)) ∧
            ∀ bound, (∀ n < bound, ¬r.Rings alarm seconds (r.startOf world n)) →
              let whole := (r.runFor bound).run world
              whole.value = .ok none ∧
                requestsOf whole.trace = (List.range bound).flatMap fun n =>
                  requestsOf (cycleAt n).trace ++ [.wait seconds]) ∧
          (longestWait < seconds → ∀ faults, (cycleAt 0).value = .ok faults →
            (alarm.isSet (cycleAt 0).world = true →
              (∀ bound, (r.runFor (bound + 1)).run world =
                  ⟨.ok (some faults), (cycleAt 0).world, (cycleAt 0).trace⟩) ∧
                EndsWith r world 0 (lastStatus faults)) ∧
            (alarm.isSet (cycleAt 0).world = false →
              (∀ bound, (r.runFor (bound + 1)).run world =
                  ⟨.error ⟨.waitTooLong, none⟩, (cycleAt 0).world,
                    (cycleAt 0).trace ++ [.request (.wait seconds)]⟩) ∧
                EndsWith r world 0 (.fault ⟨.waitTooLong, none⟩))) := by
  intro cycleAt given
  obtain ⟨hp, rfl⟩ := create?_eq_ok_iff.1 hr
  set r : Reconciler ω := ⟨settings, inspector.heard, publisher.heard, alarm.heard, given⟩ with hdef
  have hcivil : Civil I r.inspector r.publisher := hc.heard
  have hkept := startOf_kept hcivil (show r.alarm = alarm.heard from rfl) hq hw
  refine ⟨fun n => ⟨?_, ?_⟩, fun faults hs hv => ?_, fun seconds hs => ⟨Settings.refresh_pos hp hs,
    fun hshort => ?_, fun hlong faults hv => ⟨fun hset => ?_, fun hclear => ?_⟩⟩⟩
  · obtain ⟨-, early, shares, hv, -, -⟩ := cycle_shares hcivil (hkept n)
    exact ⟨_, hv⟩
  · obtain ⟨-, early, hm, -⟩ := merge_early hcivil (hkept n)
    refine ⟨early, ?_⟩
    -- Hearing the listing puts a call in front of it and leaves its answer alone.
    rw [hm, cycleNames]
    simp only [hdef, Inspector.run_heard_enumerate, Outcome.after_value]
  · have honce := run_runFor_once hs hv
    exact ⟨honce, endsWith_first (honce r.alarm)⟩
  · -- Within the limit no wait fails, so that the alarm alone decides where the run ends.
    have hends : ∀ world, ((alarm.wait seconds).run world).value = .ok () :=
      fun world => hl.waits world hshort
    refine ⟨fun k faults hgo hring hv => ?_, fun bound hgo => ?_⟩
    · have hruns := fun bound (hb : k < bound) =>
        run_runFor_rings hcivil rfl hq hs hends hw hgo hring hv hb
      exact ⟨hruns, endsWith_of_runFor fun bound hb => (hruns bound hb).1⟩
    · exact run_runFor_not_rings hcivil rfl hq hs hends hw hgo
  · -- An alarm that is set is not waited for, however long the interval.
    have hlast := run_runFor_stop (r := r) hv (Or.inr hset)
    exact ⟨hlast, endsWith_first hlast⟩
  · have hrefused := run_runFor_refused (r := r) rfl hs hl hlong hv hclear
    exact ⟨hrefused, endsWith_first hrefused⟩

/-- An inspector that finds its container in a world without waits, and none later. -/
def fadingInspector : Inspector Nat where
  enumerate := pure []
  inspect _ := do
    if (← Task.ofAct Act.look) = 0 then
      return ⟨"10.0.0.2", [⟨"example.org", some 80, none⟩], true⟩
    else Task.fail ⟨.noAddress, none⟩

/-- An alarm in a world that counts the waits; the second one sets it. -/
def countedAlarm : Alarm Nat := Alarm.timed (2 ≤ ·) fun _ => Act.change (· + 1)

/-- These, and a publisher to which nothing happens, as the collaborators of the command. -/
def fadingCollaborators : Collaborators Nat where
  inspector _ := fadingInspector.heard
  publisher _ := Publisher.heard ⟨fun _ => pure ()⟩
  alarm := countedAlarm.heard
  cycleBound _ := 5

theorem civil_fadingInspector :
    Civil (fun _ : Nat => True) fadingInspector ⟨fun _ => pure ()⟩ := by
  refine ⟨⟨fun _ => trivial, ?_⟩, fun name => ⟨fun _ => trivial, ?_⟩,
    fun publication => ⟨fun _ => trivial, ?_⟩⟩
  · intro world fault _ h
    cases h
  · intro world fault _ h
    cases world with
    | zero => cases h
    | succ n =>
      cases h
      rfl
  · intro world fault _ h
    cases h

/-- What the command finds in an empty environment. -/
def bareSession : Session Nat where
  env := []
  cwd := []
  stamp := ⟨"", ""⟩
  screen := {}
  world := 0

/-- The reconciler that the command comes to, with one container named. -/
def fadingReconciler : Reconciler Nat where
  settings := { refresh := some 27 }
  inspector := fadingInspector.heard
  publisher := Publisher.heard ⟨fun _ => pure ()⟩
  alarm := countedAlarm.heard
  names := ["web"]

theorem run_until_alarm_second_cycle :
    create? { refresh := some 27 } fadingInspector.heard (Publisher.heard ⟨fun _ => pure ()⟩)
        countedAlarm.heard [.str "web"] = .ok fadingReconciler ∧
      ((fadingReconciler.runFor 5).run 0).value = .ok (some [⟨.noAddress, some "web"⟩]) ∧
      requestsOf ((fadingReconciler.runFor 5).run 0).trace =
        [.inspect "web", .publish "10.0.0.2" [⟨"example.org", some 80, none⟩], .wait 27,
          .inspect "web", .wait 27] ∧
      Exit.ofResult ((run fadingCollaborators ⟨"INFO", none, false, false⟩ ["run", "web"]
        { words := ["web"] }).run bareSession).1 = .status 1 := by
  have hr : create? { refresh := some 27 } fadingInspector.heard
      (Publisher.heard ⟨fun _ => pure ()⟩) countedAlarm.heard [.str "web"] =
        .ok fadingReconciler := create?_eq_ok_iff.2 ⟨by decide, rfl⟩
  have hq : countedAlarm.Quiet fun _ => True :=
    Alarm.quiet_timed (fun _ _ => trivial) fun _ _ => rfl
  obtain ⟨-, -, hpaced⟩ := run_until_alarm hr civil_fadingInspector hq
    (Alarm.limited_timed _ _) 0 trivial
  obtain ⟨-, hshort, -⟩ := hpaced 27 rfl
  obtain ⟨hends, -⟩ := hshort (by decide)
  -- Nothing sets the alarm in the first cycle or during the wait behind it.
  have hfirst : ∀ n < 1,
      ¬fadingReconciler.Rings countedAlarm 27 (fadingReconciler.startOf 0 n) := by
    intro n hn
    obtain rfl := Nat.lt_one_iff.1 hn
    rintro (hset | hset)
    · exact absurd hset (by decide +kernel)
    · exact absurd hset (by decide +kernel)
  have hfaults : (fadingReconciler.cycle.run (fadingReconciler.startOf 0 1)).value =
      .ok [⟨.noAddress, some "web"⟩] := by
    rfl
  obtain ⟨hruns, hstatus⟩ := hends 1 _ hfirst (Or.inr (by decide +kernel)) hfaults
  obtain ⟨hvalue, -, hrequests, -⟩ := hruns 5 (by decide)
  refine ⟨hr, hvalue, hrequests.trans ?_, ?_⟩
  · decide +kernel
  · -- The run is put into a whole command, whose start is evaluated.
    have hlaunch : ((launch fadingCollaborators ⟨"INFO", none, false, false⟩ ["run", "web"]
        { words := ["web"] }).run bareSession).1 = .ok fadingReconciler := rfl
    exact hstatus fadingCollaborators _ _ _ bareSession _ (Prod.ext hlaunch rfl) rfl (by decide)

/-- Collaborators of whom every call is put down, and an alarm that is never set. -/
def tirelessCollaborators : Collaborators Unit where
  inspector settings := (idleCollaborators.inspector settings).heard
  publisher settings := (idleCollaborators.publisher settings).heard
  alarm := (Alarm.timed (fun _ => false) fun _ => pure ()).heard
  cycleBound _ := 5

/-- On the command line an interval beyond the limit is accepted. Its run has one cycle and no
other, though the alarm is not set, and the command ends with the fault of the wait. -/
theorem run_refresh_too_long :
    let ended := execute tirelessCollaborators ["run", "web", "--refresh", "9223372037"]
      emptySession
    ended.2.settings = some { refresh := some 9223372037 } ∧
      ({ refresh := some 9223372037 } : Settings).problems = [] ∧
      ended.2.requests = [.inspect "web", .wait 9223372037] ∧
      tirelessCollaborators.alarm.isSet ended.2.world = false ∧
      ended.1 = .fault ⟨.waitTooLong, none⟩ := by
  decide +kernel

end RegistrySync.CommandLine
