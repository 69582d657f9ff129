/-
Signals are put back, however a command ends.

* `Command.Leaves` — steps of a command that leave a part of the session as it was, whether they
  come to a value or not;
* `leavesSignals_serve` — the cycles of a run, which are made with an alarm installed;
* `leavesSignals_program` — the whole command line;
* `signals_nest` — alarms installed one inside another, and what a run leaves of the signals.
-/
import RegistrySync.Proofs.CommandLine.StartUp
import RegistrySync.Proofs.Reconciler.Nesting

namespace RegistrySync.CommandLine

variable {ω α β : Type}

namespace Command

/-! ### Parts of a session that stay -/

section

variable {τ : Type} {view : Session ω → τ}

/-- A step that leaves what is seen of a session as it was, however it ends. -/
def Leaves (view : Session ω → τ) (command : Command ω α) : Prop :=
  ∀ session, view (command.run session).2 = view session

theorem leaves_pure (value : α) : Leaves view (pure value : Command ω α) := fun _ => rfl

theorem leaves_throw (exit : Exit) : Leaves view (throw exit : Command ω α) := fun _ => rfl

theorem leaves_get : Leaves view (get : Command ω (Session ω)) := fun _ => rfl

theorem leaves_modify {f : Session ω → Session ω}
    (hf : ∀ session, view (f session) = view session) :
    Leaves view (modify f : Command ω Unit) := hf

/-- A step that ends the command is the last one, and what was done before it stays as it is. -/
theorem Leaves.bind {command : Command ω α} {next : α → Command ω β} (h : Leaves view command)
    (hnext : ∀ value, Leaves view (next value)) : Leaves view (command >>= next) := by
  intro session
  have hfirst := h session
  cases hrun : command.run session with
  | mk result between =>
    rw [hrun] at hfirst
    cases result with
    | error exit =>
      rw [run_bind_error hrun]
      exact hfirst
    | ok value =>
      rw [run_bind_ok (congrArg Prod.fst hrun), hrun]
      exact (hnext value between).trans hfirst

theorem Leaves.forM {step : α → Command ω Unit} (h : ∀ item, Leaves view (step item))
    (items : List α) : Leaves view (items.forM step) := by
  induction items with
  | nil => exact leaves_pure ()
  | cons item rest ih => exact (h item).bind fun _ => ih

theorem leaves_ite {condition : Prop} [Decidable condition] {first second : Command ω α}
    (hfirst : Leaves view first) (hsecond : Leaves view second) :
    Leaves view (if condition then first else second) := by
  split
  · exact hfirst
  · exact hsecond

/-- A step that is made only in some cases, and what follows it. -/
theorem leaves_when {condition : Prop} [Decidable condition] {command : Command ω PUnit}
    {next : PUnit → Command ω α} (h : Leaves view command)
    (hnext : ∀ value, Leaves view (next value)) :
    Leaves view (if condition then command >>= next else next ⟨⟩) :=
  leaves_ite (h.bind hnext) (hnext ⟨⟩)

end

/-- A step that leaves the signals as they were. -/
abbrev LeavesSignals (command : Command ω α) : Prop := Leaves Session.signals command

theorem leavesSignals_say (text : String) : LeavesSignals (say text : Command ω Unit) :=
  leaves_modify fun _ => rfl

theorem leavesSignals_tell (text : String) : LeavesSignals (tell text : Command ω Unit) :=
  leaves_modify fun _ => rfl

theorem leavesSignals_emit (records : List Journal.Record) :
    LeavesSignals (emit records : Command ω Unit) := leaves_modify fun _ => rfl

theorem leavesSignals_configureLogging (console : String) (file : Option String) :
    LeavesSignals (configureLogging console file : Command ω Unit) := by
  intro session
  show ((afterSetup (setupIn console file session)).run { session with
    logging := (setupIn console file session).logging
    screen := (setupIn console file session).screen }).2.signals = session.signals
  unfold afterSetup
  split
  · rfl
  · split <;> rfl

theorem leavesSignals_loadEnvFile (path : Option String) :
    LeavesSignals (loadEnvFile path : Command ω Unit) := by
  refine leaves_get.bind fun session => ?_
  cases EnvFile.load session.screen.files session.cwd session.env path with
  | mk records result =>
    refine (leavesSignals_emit records).bind fun _ => ?_
    cases result with
    | ok env => exact leaves_modify fun _ => rfl
    | error fault => exact leaves_throw _

end Command

open Command

/-! ### The commands -/

theorem leavesSignals_parseOrExit (specs : List OptionSpec) (mixed : Bool) (words : List String)
    (advice : List String → String) :
    LeavesSignals (parseOrExit specs mixed words advice : Command ω Parsed) := by
  unfold parseOrExit
  split
  · exact leaves_pure _
  · exact leaves_throw _
  · exact (leavesSignals_tell _).bind fun _ => leaves_throw _

theorem leavesSignals_actEarly (parsed : Parsed) (option : String) :
    LeavesSignals (actEarly parsed option : Command ω Unit) := by
  unfold actEarly
  refine leaves_ite ?_ (leaves_ite (leaves_throw _)
    (leaves_ite ?_ (leaves_pure _)))
  · exact (leavesSignals_say _).bind fun _ => leaves_throw _
  · exact leaves_get.bind fun _ => leavesSignals_loadEnvFile _

theorem leavesSignals_common (words : List String) (advice : List String → String) :
    LeavesSignals (common words advice : Command ω Parsed) := by
  unfold common
  refine leaves_when (leaves_throw _) fun _ => ?_
  refine (leavesSignals_parseOrExit _ _ _ _).bind fun parsed => ?_
  exact (Leaves.forM (leavesSignals_actEarly parsed) _).bind fun _ => leaves_pure _

theorem leavesSignals_checkSpecs (raw host : String) :
    LeavesSignals (checkSpecs raw host : Command ω Unit) := by
  refine (leavesSignals_emit _).bind fun _ => ?_
  cases (DomainSpec.parseAll raw []).result with
  | ok specs => exact leavesSignals_say _
  | error fault => exact (leavesSignals_tell _).bind fun _ => leaves_throw _

theorem leavesSignals_check (parsed : Parsed) : LeavesSignals (check parsed : Command ω Unit) := by
  unfold check
  refine leaves_when (leaves_throw _) fun _ => ?_
  split
  · exact leavesSignals_checkSpecs _ _
  · exact leaves_throw _

theorem leavesSignals_fatal (fault : Fault) : LeavesSignals (fatal fault : Command ω α) :=
  (leavesSignals_emit _).bind fun _ => (leavesSignals_tell _).bind fun _ => leaves_throw _

theorem leavesSignals_resolveSettings (overrides : Overrides) :
    LeavesSignals (resolveSettings overrides : Command ω Settings) := by
  refine leaves_get.bind fun session => ?_
  cases Settings.resolve session.env overrides with
  | ok settings => exact leaves_pure _
  | error fault => exact leaves_ite (leavesSignals_fatal _) (leaves_throw _)

theorem leavesSignals_startUp (collaborators : Collaborators ω) (overrides : Overrides)
    (containers : List String) :
    LeavesSignals (startUp collaborators overrides containers) := by
  refine (leavesSignals_resolveSettings overrides).bind fun settings => ?_
  split
  · refine leaves_when (leavesSignals_fatal _) fun _ => ?_
    refine Leaves.bind (leaves_modify ?_) fun _ => leaves_pure _
    exact fun _ => rfl
  · refine leaves_when (leavesSignals_fatal _) fun _ => ?_
    refine Leaves.bind (leaves_modify ?_) fun _ => leavesSignals_fatal _
    exact fun _ => rfl

theorem leavesSignals_launch (collaborators : Collaborators ω) (choices : LogChoices)
    (commandLine : List String) (parsed : Parsed) :
    LeavesSignals (launch collaborators choices commandLine parsed) := by
  unfold launch
  refine leaves_when (leaves_throw _) fun _ => ?_
  split
  · exact leaves_throw _
  · rename_i overrides _
    refine leaves_when (leavesSignals_configureLogging _ _) fun _ => ?_
    refine (leavesSignals_emit _).bind fun _ => ?_
    refine (leavesSignals_startUp collaborators overrides _).bind fun reconciler => ?_
    exact (leavesSignals_emit _).bind fun _ => leaves_pure _

/-- A run that has started puts the signals back, be its cycles left with a fault or not. -/
theorem leavesSignals_serve (collaborators : Collaborators ω) (reconciler : Reconciler ω) :
    LeavesSignals (serve collaborators reconciler) := fun session =>
  congrArg (fun shown => shown.2.2.2) (run_serve collaborators reconciler session).2

theorem leavesSignals_run (collaborators : Collaborators ω) (choices : LogChoices)
    (commandLine : List String) (parsed : Parsed) :
    LeavesSignals (run collaborators choices commandLine parsed) :=
  (leavesSignals_launch collaborators choices commandLine parsed).bind
    (leavesSignals_serve collaborators)

/-- The whole command line, whatever its words come to. -/
theorem leavesSignals_program (collaborators : Collaborators ω) (words : List String) :
    LeavesSignals (program collaborators words) := by
  refine (leavesSignals_common words _).bind fun parsed => leaves_get.bind fun session => ?_
  have hlogging (choices : LogChoices) : LeavesSignals (setUpLogging choices : Command ω Unit) :=
    leavesSignals_configureLogging _ _
  split
  · exact (hlogging _).bind fun _ =>
      (leavesSignals_parseOrExit _ _ _ _).bind fun _ => leavesSignals_check _
  · exact (hlogging _).bind fun _ =>
      (leavesSignals_parseOrExit _ _ _ _).bind fun _ => leavesSignals_run _ _ _ _
  · exact leaves_ite ((leavesSignals_common _ _).bind fun _ => leaves_throw _)
      (leaves_throw _)
  · exact leaves_throw _

/-! ### Alarms -/

open Signals

/-- Alarms that are installed one inside another leave the signals as they were when the outermost
is over; while one is installed, a signal sets the innermost and no other; and none is ever cleared.
A run is such an installation around its cycles: signals may arrive at any time during these, and
the signals are put back whether the cycles end with a fault or not. -/
theorem signals_nest :
    (∀ (start : State) (history : List Step) (nest : Nest),
      Nest.follow ⟨start, []⟩ history = some nest →
        (nest.pending = [] → nest.state.handlers = start.handlers) ∧
          ∀ alarm previous outer, nest.pending = (alarm, previous) :: outer → ∀ signal,
            (deliver signal).run nest.state =
              ⟨(), { nest.state with isSet := fun n => n = alarm || nest.state.isSet n },
                [.record (notice signal)]⟩) ∧
      (∀ (first last : Nest) (history : List Step), first.follow history = some last →
        ∀ n, first.state.isSet n = true → last.state.isSet n = true) ∧
      (∀ (ω : Type) (get : ω → State) (r : Reconciler ω), Reconciler.Obedient (interrupted get) r →
        ∀ (bound alarm : Nat) (before : State) (world : ω), get world = (install alarm before).2 →
          ∃ signals : List Signal,
            restore (install alarm before).1 (get ((r.runFor bound).run world).world) =
            { before with
              isSet := fun n => (n = alarm && !signals.isEmpty) || before.isSet n }) ∧
      (∀ (ω : Type) (collaborators : Collaborators ω) (r : Reconciler ω) (session : Session ω),
        Exit.ofResult ((serve collaborators r).run session).1 =
            exitOf ((r.runFor (collaborators.cycleBound session.world)).run session.world).value ∧
          ((serve collaborators r).run session).2.signals = session.signals) ∧
      (∀ (ω : Type) (collaborators : Collaborators ω) (choices : LogChoices)
        (commandLine : List String) (parsed : Parsed) (session : Session ω),
        ((run collaborators choices commandLine parsed).run session).2.signals = session.signals) ∧
      ∀ (ω : Type) (collaborators : Collaborators ω) (words : List String) (session : Session ω),
        (execute collaborators words session).2.signals = session.signals := by
  refine ⟨fun start history nest hfollow => ?_, fun first last history hfollow n hset =>
    isSet_follow hset hfollow, fun ω get r hr bound alarm before world hworld => ?_,
    fun ω collaborators r session => ⟨(run_serve collaborators r session).1,
      leavesSignals_serve collaborators r session⟩,
    fun ω => leavesSignals_run, fun ω => leavesSignals_program⟩
  · -- The handlers that are put aside are linked to those in force from the first step on.
    have hstart : Linked start.handlers ⟨start, []⟩ := ⟨rfl, trivial⟩
    have hlinked := (linked_follow hstart hfollow).inForce
    refine ⟨fun hnone => ?_, fun alarm previous outer hpending signal => ?_⟩
    · rw [hlinked, hnone]
      rfl
    · rw [hpending] at hlinked
      exact run_deliver_installed hlinked signal
  · -- A run does to the signals what arriving signals do, and nothing else; restoring takes back
    -- all of that but which alarms are set.
    obtain ⟨signals, harrived⟩ : ∃ signals,
        get ((r.runFor bound).run world).world = arrivals signals (get world) :=
      Reconciler.runFor_obeys hr bound world
    refine ⟨signals, ?_⟩
    rw [harrived, hworld, install, arrivals_installed]
    rfl

/-- The handlers that were there before: one of them sets an alarm of its own. -/
def outerHandlers : Handlers := ⟨.foreign 7, .sets 9⟩

/-- A reconciler of one container. A request to terminate arrives while it looks at it. -/
def interruptedReconciler (answer : Except Fault Inspection) : Reconciler State where
  settings := { refresh := some 60 }
  inspector := ⟨pure [], fun _ => do
    Task.ofAct (deliver .terminate)
    Task.ofExcept answer⟩
  publisher := ⟨fun _ => pure ()⟩
  alarm := ⟨fun state => state.isSet 0, fun _ => Task.ofAct (deliver .interrupt)⟩
  names := ["web"]

theorem obeys_deliver (signal : Signal) : (deliver signal).Obeys (interrupted id) :=
  fun _ => ⟨[signal], rfl⟩

theorem obedient_interruptedReconciler (answer : Except Fault Inspection) :
    Reconciler.Obedient (interrupted id) (interruptedReconciler answer) where
  enumerate := Task.obeys_pure _
  inspect _ := Task.obeys_bind (Task.obeys_ofAct (obeys_deliver .terminate)) fun _ =>
    Task.obeys_ofExcept answer
  publish _ := Task.obeys_pure _
  wait _ := Task.obeys_ofAct (obeys_deliver .interrupt)

/-- Within two installations, after a signal that arrived in the first of them. -/
def withinTwo : Nest where
  state := ⟨⟨.sets 2, .sets 2⟩, fun n => n = 1 || false⟩
  pending := [(2, ⟨.sets 1, .sets 1⟩), (1, outerHandlers)]

/-- After both, if another signal has arrived in the second. -/
def afterTwo : Nest where
  state := ⟨outerHandlers, fun n => n = 2 || (n = 1 || false)⟩

/-- Two alarms one inside the other, and the cycles of a run during which a signal arrives: they
are left with a fault, or the signal ends them. -/
theorem signals_nest_two_alarms :
    let start : State := { handlers := outerHandlers }
    let failed := ((interruptedReconciler (.error ⟨.stated .runtime "boom", none⟩)).runFor 5).run
      (install 0 start).2
    let stopped := ((interruptedReconciler (.ok ⟨"10.0.0.2", [], false⟩)).runFor 5).run
      (install 0 start).2
    (Nest.follow ⟨start, []⟩ [.install 1, .arrive .terminate, .install 2] = some withinTwo ∧
        ∀ signal, ((deliver signal).run withinTwo.state).world.isSet = fun n =>
          n = 2 || (n = 1 || false)) ∧
      (withinTwo.follow [.arrive .interrupt, .restore, .restore] = some afterTwo ∧
        afterTwo.state.handlers = outerHandlers ∧ afterTwo.state.isSet 1 = true) ∧
      (failed.value = .error ⟨.stated .runtime "boom", none⟩ ∧
        (restore outerHandlers failed.world).handlers = outerHandlers ∧
          failed.world.isSet 0 = true) ∧
      stopped.value = .ok (some [⟨.variableMissing "BEACHHEAD_DOMAINS", some "web"⟩]) ∧
        (restore outerHandlers stopped.world).handlers = outerHandlers ∧
          stopped.world.isSet 0 = true := by
  intro start failed stopped
  obtain ⟨hnest, hset, hloop, -⟩ := signals_nest
  have hwithin : Nest.follow ⟨start, []⟩ [.install 1, .arrive .terminate, .install 2] =
      some withinTwo := rfl
  have hafter : withinTwo.follow [.arrive .interrupt, .restore, .restore] = some afterTwo := rfl
  have hwhole : Nest.follow ⟨start, []⟩ [.install 1, .arrive .terminate, .install 2,
      .arrive .interrupt, .restore, .restore] = some afterTwo := rfl
  -- Whether the run fails or is stopped, the handlers in force before it are in force again.
  have hloops (answer : Except Fault Inspection) :
      (restore outerHandlers
        (((interruptedReconciler answer).runFor 5).run (install 0 start).2).world).handlers =
          outerHandlers := by
    obtain ⟨signals, hrestored⟩ := hloop State id _ (obedient_interruptedReconciler answer) 5 0
      start (install 0 start).2 rfl
    exact congrArg State.handlers hrestored
  refine ⟨⟨hwithin, fun signal => ?_⟩, ⟨hafter, (hnest _ _ _ hwhole).1 rfl,
    hset _ _ _ hafter 1 rfl⟩, ⟨by decide +kernel, hloops _, by decide +kernel⟩,
    by decide +kernel, hloops _, by decide +kernel⟩
  rw [(hnest _ _ _ hwithin).2 2 _ _ rfl signal]
  rfl

end RegistrySync.CommandLine
