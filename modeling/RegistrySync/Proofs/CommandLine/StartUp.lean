/-
How a run starts, and how it ends if it cannot.

* `effectiveSettings` — the settings with which a run starts, or why it cannot;
* `CannotStart.oneLine` — the reason is told in one line;
* `prepare`, `run_launch` — what is done before the settings are looked at;
* `run_startUp_ok`, `run_startUp_fatal`, `run_startUp_thrown` — the three ways to go on;
* `run_serve` — what a run leaves once it has started;
* `run_starts_or_fails` — a run that cannot start ends with its own status and has done nothing,
  unless its expiry is too large; any other run begins with a cycle and ends with 0 or 1;
* `run_expire_too_large` — an expiry that is too large ends the command with a fault that nobody
  handles.
-/
import RegistrySync.Proofs.CommandLine.Steps
import RegistrySync.Proofs.Reconciler.Plan
import RegistrySync.Proofs.Reconciler.Rounds
import RegistrySync.Proofs.Settings.Refusal

namespace RegistrySync.CommandLine

open Command
open Reconciler (create? create?_eq_ok_iff create?_of_problems)
open Settings (ExpireTooLarge)
open Text (OneLine)

variable {ω : Type}

/-! ### Why a run cannot start -/

/-- The settings with which a run starts, or why it cannot: they cannot be read, there is nothing to
do, or they cannot be used. -/
def effectiveSettings (env : Environment) (chosen : Overrides) (containers : List String) :
    Except Fault Settings :=
  match Settings.resolve env chosen with
  | .error fault => .error ⟨.setting fault, none⟩
  | .ok settings =>
    if containers.isEmpty && !settings.enumerate then .error ⟨.nothingNamed, none⟩
    else
      match settings.problems with
      | [] => .ok settings
      | problems => .error ⟨.invalidSettings problems, none⟩

/-- The reasons for which a run cannot start. -/
inductive CannotStart (env : Environment) (chosen : Overrides) (containers : List String) :
    Fault → Prop
  | unreadable {fault : SettingFault} (h : Settings.resolve env chosen = .error fault) :
    CannotStart env chosen containers ⟨.setting fault, none⟩
  | nothingNamed {settings : Settings} (h : Settings.resolve env chosen = .ok settings)
    (hnone : (containers.isEmpty && !settings.enumerate) = true) :
    CannotStart env chosen containers ⟨.nothingNamed, none⟩
  | unusable {settings : Settings} (h : Settings.resolve env chosen = .ok settings)
    (hnamed : (containers.isEmpty && !settings.enumerate) = false)
    (hproblems : settings.problems ≠ []) :
    CannotStart env chosen containers ⟨.invalidSettings settings.problems, none⟩

variable {env : Environment} {chosen : Overrides} {containers : List String} {fault : Fault}

theorem cannotStart_of_error (h : effectiveSettings env chosen containers = .error fault) :
    CannotStart env chosen containers fault := by
  unfold effectiveSettings at h
  split at h
  · rename_i hresolve
    cases h
    exact .unreadable hresolve
  · rename_i settings hresolve
    split at h
    · rename_i hnone
      cases h
      exact .nothingNamed hresolve hnone
    · rename_i hnamed
      split at h
      · cases h
      · rename_i hproblems
        cases h
        exact .unusable hresolve (Bool.eq_false_iff.2 hnamed) hproblems

theorem effectiveSettings_eq_ok {settings : Settings}
    (h : effectiveSettings env chosen containers = .ok settings) :
    Settings.resolve env chosen = .ok settings ∧
      (containers.isEmpty && !settings.enumerate) = false ∧ settings.problems = [] := by
  unfold effectiveSettings at h
  split at h
  · cases h
  · rename_i hresolve
    split at h
    · cases h
    · rename_i hnamed
      split at h
      · rename_i hproblems
        cases h
        exact ⟨hresolve, Bool.eq_false_iff.2 hnamed, hproblems⟩
      · cases h

/-- The reason for which a run cannot start is told in one line. -/
theorem CannotStart.oneLine (h : CannotStart env chosen containers fault) :
    OneLine fault.message := by
  cases h with
  | unreadable h =>
    rcases Settings.resolve_eq_error_iff.1 h with hvariable | ⟨rfl, -⟩
    · exact Settings.oneLine_environmentFault (Settings.mem_environmentFaults hvariable)
    · show OneLine "int too large to convert to float"
      decide
  | nothingNamed h hnone =>
    show OneLine "Provide at least one CONTAINER or use --enumerate"
    decide
  | @unusable settings h hnamed hproblems =>
    -- The problems are joined into one message, so that no one of them may break the line.
    have hwords : OneLine ("; ".intercalate (settings.problems.map (·.message))) :=
      Text.oneLine_intercalate (by decide)
        (List.forall_mem_map.2 fun problem _ => Settings.oneLine_problem problem)
    exact OneLine.append (by decide) hwords

/-- Of the reasons for which a run cannot start, only an expiry that is too large is not of a kind
that a start is prepared for. -/
theorem CannotStart.kind (h : CannotStart env chosen containers fault) :
    (fault.kind = .configuration ∨ fault.kind = .value) ∧ ¬ExpireTooLarge env chosen ∨
      fault = ⟨.setting .expireTooLarge, none⟩ ∧ ExpireTooLarge env chosen := by
  have hnot : ∀ {settings}, Settings.resolve env chosen = .ok settings →
      ¬ExpireTooLarge env chosen := by
    intro settings h hlarge
    rw [Settings.resolve_eq_expireTooLarge_iff.2 hlarge] at h
    cases h
  cases h with
  | @unreadable setting h =>
    rcases Settings.resolve_eq_error_iff.1 h with hvariable | ⟨rfl, hlarge⟩
    · have hkinds : ∀ setting ∈ Settings.environmentFaults,
          (Cause.setting setting).kind = .value ∧ setting ≠ .expireTooLarge := by decide
      -- A variable that cannot be read is found before the expiry is looked at.
      obtain ⟨hkind, hne⟩ := hkinds setting (Settings.mem_environmentFaults hvariable)
      refine Or.inl ⟨Or.inr hkind, fun hlarge => hne ?_⟩
      rw [Settings.resolve_eq_expireTooLarge_iff.2 hlarge] at h
      exact (Except.error.inj h).symm
    · exact Or.inr ⟨rfl, hlarge⟩
  | nothingNamed h hnone => exact Or.inl ⟨Or.inl rfl, hnot h⟩
  | unusable h hnamed hproblems => exact Or.inl ⟨Or.inl rfl, hnot h⟩

/-! ### What a start leaves -/

/-- The screen once it is logged that a start has failed. -/
def startUpFailed (session : Session ω) : Journal.Screen :=
  session.logging.emit session.stamp ⟨.debug, Journal.Source.commandLine, "Startup failed"⟩
    session.screen

/-- The screen after a fatal error: behind what is logged, the console has the line that tells of
it. -/
def fatalScreen (session : Session ω) (fault : Fault) : Journal.Screen :=
  { startUpFailed session with
    console := (startUpFailed session).console ++ ("Fatal error: " ++ fault.message ++ "\n") }

theorem run_fatal {α : Type} (fault : Fault) (session : Session ω) :
    (fatal fault : Command ω α).run session =
      (.error (.status fatalStatus), { session with screen := fatalScreen session fault }) := by
  rfl

section

variable {session : Session ω}

theorem run_resolveSettings_ok {settings : Settings}
    (h : Settings.resolve session.env chosen = .ok settings) :
    (resolveSettings chosen).run session = (.ok settings, session) := by
  have hget : ((get : Command ω (Session ω)).run session).1 = .ok session := rfl
  rw [resolveSettings, run_bind_ok hget]
  simp only [h]
  rfl

theorem run_resolveSettings_error {setting : SettingFault}
    (h : Settings.resolve session.env chosen = .error setting) :
    (resolveSettings chosen).run session =
      if (Fault.mk (.setting setting) none).kind = .value then
        (fatal (Fault.mk (.setting setting) none) : Command ω Settings).run session
      else (.error (.fault ⟨.setting setting, none⟩), session) := by
  have hget : ((get : Command ω (Session ω)).run session).1 = .ok session := rfl
  rw [resolveSettings, run_bind_ok hget]
  simp only [h]
  split <;> rfl

variable (collaborators : Collaborators ω)

/-- With something to do, it is the settings that decide whether there is a reconciler. -/
theorem run_startUp_named {settings : Settings}
    (hresolve : Settings.resolve session.env chosen = .ok settings)
    (hnamed : (containers.isEmpty && !settings.enumerate) = false) :
    (startUp collaborators chosen containers).run session =
      (match create? settings (collaborators.inspector settings) (collaborators.publisher settings)
          collaborators.alarm (containers.map .str) with
        | .ok reconciler => pure reconciler
        | .error fault => fatal fault : Command ω (Reconciler ω)).run
          { session with settings := some settings } := by
  have hrun := run_resolveSettings_ok hresolve
  rw [startUp, run_bind_ok (congrArg Prod.fst hrun), hrun]
  rw [hnamed]
  cases create? settings (collaborators.inspector settings) (collaborators.publisher settings)
          collaborators.alarm (containers.map .str) with
  | ok reconciler => rfl
  | error fault => rfl

/-- A start that fails is a fatal error, unless the expiry is too large. -/
theorem run_startUp_fatal (h : CannotStart session.env chosen containers fault)
    (hlarge : ¬ExpireTooLarge session.env chosen) :
    ∃ last, (startUp collaborators chosen containers).run session =
      (.error (.status fatalStatus),
        { session with settings := last, screen := fatalScreen session fault }) := by
  have hkind := h.kind.resolve_right fun hthrown => hlarge hthrown.2
  cases h with
  | @unreadable setting hresolve =>
    -- Of the settings that cannot be read, only one that is thrown is of another kind, and that
    -- one is ruled out.
    have hvalue : (Fault.mk (.setting setting) none).kind = .value := by
      refine hkind.1.resolve_left fun hconfiguration => ?_
      cases setting <;> cases hconfiguration
    have hrun := run_resolveSettings_error hresolve
    rw [if_pos hvalue, run_fatal] at hrun
    exact ⟨session.settings, run_bind_error hrun _⟩
  | @nothingNamed settings hresolve hnone =>
    have hrun := run_resolveSettings_ok hresolve
    refine ⟨session.settings, ?_⟩
    rw [startUp, run_bind_ok (congrArg Prod.fst hrun), hrun]
    simp only [hnone]
    rfl
  | @unusable settings hresolve hnamed hproblems =>
    refine ⟨some settings, ?_⟩
    rw [run_startUp_named collaborators hresolve hnamed, create?_of_problems hproblems]
    rfl

/-- An expiry that is too large is a fault that nobody handles. -/
theorem run_startUp_thrown (hlarge : ExpireTooLarge session.env chosen) :
    (startUp collaborators chosen containers).run session =
      (.error (.fault ⟨.setting .expireTooLarge, none⟩), session) := by
  have hrun := run_resolveSettings_error (Settings.resolve_eq_expireTooLarge_iff.2 hlarge)
  exact run_bind_error hrun _

/-- Any other start comes to a reconciler over the settings. -/
theorem run_startUp_ok {settings : Settings}
    (h : effectiveSettings session.env chosen containers = .ok settings) :
    ∃ r, create? settings (collaborators.inspector settings) (collaborators.publisher settings)
        collaborators.alarm (containers.map .str) = .ok r ∧
      (startUp collaborators chosen containers).run session =
        (.ok r, { session with settings := some settings }) := by
  obtain ⟨hresolve, hnamed, hproblems⟩ := effectiveSettings_eq_ok h
  refine ⟨_, create?_eq_ok_iff.2 ⟨hproblems, rfl⟩, ?_⟩
  rw [run_startUp_named collaborators hresolve hnamed, create?_eq_ok_iff.2 ⟨hproblems, rfl⟩]
  rfl

end

/-! ### Before the start -/

/-- What is done before the settings are looked at: logging for a dry run that was to be quiet, and
a record of the command line. -/
def prepare (choices : LogChoices) (commandLine : List String) (chosen : Overrides) :
    Command ω Unit := do
  if chosen.dryRun == some true && choices.quiet && !choices.verbose then
    Command.configureLogging (if choices.level.isEmpty then "INFO" else choices.level) choices.file
  Command.log .debug ("Invocation: " ++ invocationLine (some programName) commandLine)

theorem keeps_prepare (choices : LogChoices) (commandLine : List String) (chosen : Overrides) :
    Keeps (prepare choices commandLine chosen : Command ω Unit) := by
  unfold prepare
  split
  · exact (keeps_configureLogging _ _).bind fun _ => keeps_emit _
  · exact keeps_emit _

section

variable {choices : LogChoices} {commandLine : List String} {parsed : Parsed}
  {ready noted : Session ω} (collaborators : Collaborators ω)

/-- Once everything is prepared, it is the start that counts. -/
theorem run_launch (hhelp : parsed.has "--help" = false)
    (hchosen : readRunOptions? parsed = some chosen)
    (hnoted : (prepare choices commandLine chosen).run ready = (.ok (), noted)) :
    (launch collaborators choices commandLine parsed).run ready =
      (startUp collaborators chosen parsed.words >>= fun reconciler =>
        Command.log .info (startLine reconciler.settings) >>= fun _ => pure reconciler).run
          noted := by
  have hfollowed := run_bind_ok (congrArg Prod.fst hnoted) fun _ =>
    startUp collaborators chosen parsed.words >>= fun reconciler =>
      Command.log .info (startLine reconciler.settings) >>= fun _ => pure reconciler
  rw [hnoted] at hfollowed
  rw [← hfollowed]
  unfold launch prepare
  simp only [hhelp, hchosen, Bool.false_eq_true, if_false]
  split
  · rw [bind_assoc]
  · rfl

/-! ### After the start -/

theorem exit_conclude (faults : List Fault) (session : Session ω) :
    Exit.ofResult ((conclude faults).run session).1 =
      .status (if faults = [] then 0 else cycleErrorsStatus) := by
  cases faults <;> rfl

theorem outward_conclude (faults : List Fault) (session : Session ω) :
    ((conclude faults).run session).2.outward = session.outward := by
  cases faults <;> rfl

/-- How a run ends that came to this result. -/
def exitOf : Except Fault (Option (List Fault)) → Exit
  | .ok (some faults) => .status (if faults = [] then 0 else cycleErrorsStatus)
  | .ok none => .unfinished
  | .error fault => .fault fault

/-- A run that has started ends as its last cycle does, unless it is left with a fault or cut
short. What shows of it is what its cycles do; the signals are put back. -/
theorem run_serve (r : Reconciler ω) (session : Session ω) :
    let outcome := (r.runFor (collaborators.cycleBound session.world)).run session.world
    let result := (serve collaborators r).run session
    Exit.ofResult result.1 = exitOf outcome.value ∧
      result.2.outward = (session.output, session.requests ++ requestsOf outcome.trace,
        outcome.world, session.signals) := by
  intro outcome result
  have hget : ((get : Command ω (Session ω)).run session).1 = .ok session := rfl
  have hguarded : ((runGuarded r (collaborators.cycleBound session.world)).run session).1 =
      .ok outcome.value := rfl
  -- The run is guarded, so its requests are kept even where it ends with a fault.
  have houtward : ((runGuarded r (collaborators.cycleBound session.world)).run session).2.outward =
      (session.output, session.requests ++ requestsOf outcome.trace, outcome.world,
        session.signals) := rfl
  have hresult : result = (match outcome.value with
      | .ok (some faults) => conclude faults
      | .ok none => throw .unfinished
      | .error fault => throw (.fault fault) : Command ω Unit).run
        ((runGuarded r (collaborators.cycleBound session.world)).run session).2 := by
    show (serve collaborators r).run session = _
    rw [serve, run_bind_ok hget]
    exact run_bind_ok hguarded _
  rw [hresult, ← houtward]
  cases outcome.value with
  | error fault => exact ⟨rfl, rfl⟩
  | ok last =>
    cases last with
    | none => exact ⟨rfl, rfl⟩
    | some faults => exact ⟨exit_conclude _ _, outward_conclude _ _⟩

end

/-! ### The whole command line -/

section

variable {words rest : List String} {session ready noted : Session ω} {choices : LogChoices}
  {parsed : Parsed}

/-- What has to be accepted in front of the start: the command line comes to the command, its
options can be read, and logging is set up. -/
structure Prepared (words : List String) (session : Session ω) (parsed : Parsed)
    (chosen : Overrides) (noted : Session ω) : Prop where
  reached : ∃ rest choices ready, Readied words session "run" rest choices ready ∧
    parseWords runOptions true rest = .ok parsed ∧
    (prepare choices words chosen).run ready = (.ok (), noted)
  noHelp : parsed.has "--help" = false
  read : readRunOptions? parsed = some chosen

theorem Prepared.outward (h : Prepared words session parsed chosen noted) :
    noted.outward = session.outward := by
  obtain ⟨rest, choices, ready, hready, -, hnoted⟩ := h.reached
  exact (keeps_prepare choices words chosen ready () noted hnoted).trans hready.outward

/-- Once everything is prepared, the command line is its start and what follows from it. -/
theorem run_prepared (h : Prepared words session parsed chosen noted)
    (collaborators : Collaborators ω) :
    (program collaborators words).run session =
      ((startUp collaborators chosen parsed.words >>= fun reconciler =>
        Command.log .info (startLine reconciler.settings) >>= fun _ => pure reconciler) >>=
          serve collaborators).run noted := by
  obtain ⟨rest, choices, ready, hready, hparsed, hnoted⟩ := h.reached
  rw [run_program_run collaborators hready hparsed]
  exact run_bind_congr (run_launch collaborators h.noHelp h.read hnoted) _

/-- A start that ends the command ends the command line. -/
theorem execute_of_startUp_error (h : Prepared words session parsed chosen noted)
    (collaborators : Collaborators ω) {exit : Exit} {left : Session ω}
    (hstart : (startUp collaborators chosen parsed.words).run noted = (.error exit, left)) :
    execute collaborators words session = (exit, left) := by
  have hrun := run_prepared h collaborators
  rw [run_bind_error (run_bind_error hstart _) _] at hrun
  rw [execute, hrun]
  rfl

/-- A start that comes to a reconciler is followed by its run. Nothing shows of the start. -/
theorem execute_of_startUp_ok (h : Prepared words session parsed chosen noted)
    (collaborators : Collaborators ω) {r : Reconciler ω} {settings : Settings}
    (hstart : (startUp collaborators chosen parsed.words).run noted =
      (.ok r, { noted with settings := some settings })) :
    let outcome := (r.runFor (collaborators.cycleBound session.world)).run session.world
    (execute collaborators words session).1 = exitOf outcome.value ∧
      (execute collaborators words session).2.outward =
        (session.output, session.requests ++ requestsOf outcome.trace, outcome.world,
          session.signals) := by
  let launched : Command ω (Reconciler ω) :=
    startUp collaborators chosen parsed.words >>= fun reconciler =>
      Command.log .info (startLine reconciler.settings) >>= fun _ => pure reconciler
  have hvalue : (launched.run noted).1 = .ok r := by
    rw [run_bind_ok (congrArg Prod.fst hstart)]
    rfl
  -- The line that tells of the start goes to the log, which does not show outside.
  have hshown : (launched.run noted).2.outward = session.outward := by
    rw [run_bind_ok (congrArg Prod.fst hstart), hstart, ← h.outward]
    rfl
  have hrun := (run_prepared h collaborators).trans (run_bind_ok hvalue (serve collaborators))
  have hserve := run_serve collaborators r (launched.run noted).2
  rw [← hrun] at hserve
  obtain ⟨houtput, hrequests, hworld, hsignals⟩ := Session.outward_inj hshown
  rw [houtput, hrequests, hworld, hsignals] at hserve
  exact hserve

/-- Let a command line come to a run, with logging set up.

If its settings cannot be read or used, or if there is nothing to do, then nothing has been put out
or asked of the collaborators, their world and the signals are as they were, and the reason has been
told to the console in one line behind what is logged of it; the command ends with status 100. Only
if the expiry is too large and no interval is chosen, it ends with a fault that nobody handles
instead.

Otherwise there is a reconciler over the settings. What shows of the command is what its run does.
Unless a fault leaves the run, it begins with a cycle that comes to an end, and the command ends
with status 0 or 1, as the faults of the last cycle tell; it has not ended as long as the run has
not. -/
theorem run_starts_or_fails (h : Prepared words session parsed chosen noted)
    (collaborators : Collaborators ω) :
    let exit := (execute collaborators words session).1
    let left := (execute collaborators words session).2
    let effective := effectiveSettings noted.env chosen parsed.words
    (∀ fault, effective = .error fault →
      left.output = session.output ∧ left.requests = session.requests ∧
        left.world = session.world ∧ left.signals = session.signals ∧
        (¬ExpireTooLarge noted.env chosen → exit = .status 100 ∧ OneLine fault.message ∧
          left.screen.console = (startUpFailed noted).console ++
            ("Fatal error: " ++ fault.message ++ "\n")) ∧
        (ExpireTooLarge noted.env chosen →
          exit = .fault ⟨.setting .expireTooLarge, none⟩ ∧ left.screen = noted.screen)) ∧
    ∀ settings, effective = .ok settings →
      ∃ r, create? settings (collaborators.inspector settings) (collaborators.publisher settings)
          collaborators.alarm (parsed.words.map .str) = .ok r ∧
        let bound := collaborators.cycleBound session.world
        let outcome := (r.runFor bound).run session.world
        left.output = session.output ∧
          left.requests = session.requests ++ requestsOf outcome.trace ∧
          left.world = outcome.world ∧ left.signals = session.signals ∧
          ∀ last, outcome.value = .ok last →
            exit = (last.elim .unfinished fun faults =>
              .status (if faults = [] then 0 else 1)) ∧
            (0 < bound → (∃ first, (r.cycle.run session.world).value = .ok first) ∧
              (r.cycle.run session.world).trace <+: outcome.trace) := by
  intro exit left effective
  have hnoted := h.outward
  constructor
  · intro fault hfault
    have hcannot := cannotStart_of_error hfault
    by_cases hlarge : ExpireTooLarge noted.env chosen
    · have hexecute := execute_of_startUp_error h collaborators
        (run_startUp_thrown collaborators hlarge)
      have hexit : exit = .fault ⟨.setting .expireTooLarge, none⟩ := congrArg Prod.fst hexecute
      have hleft : left = noted := congrArg Prod.snd hexecute
      obtain ⟨houtput, hrequests, hworld, hsignals⟩ := Session.outward_inj hnoted
      rw [hleft]
      exact ⟨houtput, hrequests, hworld, hsignals, fun hnot => absurd hlarge hnot,
        fun _ => ⟨hexit, rfl⟩⟩
    · obtain ⟨last, hstart⟩ := run_startUp_fatal collaborators hcannot hlarge
      have hexecute := execute_of_startUp_error h collaborators hstart
      have hexit : exit = .status 100 := congrArg Prod.fst hexecute
      have hleft : left = { noted with settings := last, screen := fatalScreen noted fault } :=
        congrArg Prod.snd hexecute
      obtain ⟨houtput, hrequests, hworld, hsignals⟩ := Session.outward_inj hnoted
      rw [hleft]
      exact ⟨houtput, hrequests, hworld, hsignals, fun _ => ⟨hexit, hcannot.oneLine, rfl⟩,
        fun hyes => absurd hyes hlarge⟩
  · intro settings hsettings
    obtain ⟨r, hcreate, hstart⟩ := run_startUp_ok collaborators hsettings
    obtain ⟨hexit, hleft⟩ := execute_of_startUp_ok h collaborators hstart
    refine ⟨r, hcreate, congrArg Prod.fst hleft, congrArg (·.2.1) hleft, congrArg (·.2.2.1) hleft,
      congrArg (·.2.2.2) hleft, fun last hlast => ⟨?_, fun hbound => ?_⟩⟩
    · rw [show exit = exitOf _ from hexit, hlast]
      cases last with
      | none => rfl
      | some faults => rfl
    · -- A run that may have a cycle at all has one, whatever the alarm.
      obtain ⟨more, hmore⟩ := Nat.exists_eq_succ_of_ne_zero (Nat.pos_iff_ne_zero.1 hbound)
      rw [hmore] at hlast ⊢
      exact Reconciler.runFor_begins hlast

end

/-- A session in which the expiry is set to something that is no number. -/
def misspelledSession : Session Unit := { emptySession with env := [("BEACHHEAD_EXPIRE", "soon")] }

theorem run_starts_or_fails_misspelled :
    let words := ["run", "--refresh", "0", "web"]
    let failed := execute idleCollaborators words misspelledSession
    let ended := execute idleCollaborators words emptySession
    (failed.1 = .status 100 ∧ failed.2.requests = [] ∧
      failed.2.screen.console = "Fatal error: BEACHHEAD_EXPIRE must be an integer\n") ∧
    ended.1 = .status 1 := by
  intro words failed ended
  let parsed : Parsed := { given := [⟨"--refresh", some "0"⟩], words := ["web"] }
  let chosen : Overrides := { refresh := some 0 }
  have hfailing : ((common words).run misspelledSession).1 = .ok { words := words } := by
    decide +kernel
  have hending : ((common words).run emptySession).1 = .ok { words := words } := by
    decide +kernel
  have hread : readRunOptions? parsed = some chosen := by decide +kernel
  -- The two sessions differ in their environment only; the session in between is evaluated, not
  -- spelled out.
  obtain ⟨failing, hfails, hfailingEnv, hconsole⟩ : ∃ noted,
      Prepared words misspelledSession parsed chosen noted ∧
        noted.env = [("BEACHHEAD_EXPIRE", "soon")] ∧ (startUpFailed noted).console = "" :=
    ⟨_, ⟨⟨_, _, _, readied_of_ok hfailing rfl (by decide +kernel), rfl,
      run_eq_of_ok (by decide +kernel)⟩, rfl, hread⟩, by decide +kernel, by decide +kernel⟩
  obtain ⟨ending, hends, hendingEnv⟩ : ∃ noted,
      Prepared words emptySession parsed chosen noted ∧ noted.env = [] :=
    ⟨_, ⟨⟨_, _, _, readied_of_ok hending rfl (by decide +kernel), rfl,
      run_eq_of_ok (by decide +kernel)⟩, rfl, hread⟩, by decide +kernel⟩
  obtain ⟨hfatal, -⟩ := run_starts_or_fails hfails idleCollaborators
  obtain ⟨-, hstarted⟩ := run_starts_or_fails hends idleCollaborators
  rw [hfailingEnv] at hfatal
  rw [hendingEnv] at hstarted
  refine ⟨?_, ?_⟩
  · have hfault : effectiveSettings [("BEACHHEAD_EXPIRE", "soon")] chosen parsed.words =
        .error ⟨.setting (.notInteger "BEACHHEAD_EXPIRE"), none⟩ := by decide +kernel
    have hsmall : ¬ExpireTooLarge [("BEACHHEAD_EXPIRE", "soon")] chosen :=
      ((cannotStart_of_error hfault).kind.resolve_right fun hthrown =>
        absurd hthrown.1 (by decide)).2
    obtain ⟨-, hrequests, -, -, htold, -⟩ := hfatal _ hfault
    obtain ⟨hexit, -, hshown⟩ := htold hsmall
    rw [hconsole] at hshown
    exact ⟨hexit, hrequests, hshown.trans (by decide +kernel)⟩
  · have hsettings : effectiveSettings [] chosen parsed.words = .ok {} := by decide +kernel
    obtain ⟨r, hcreate, -, -, -, -, hend⟩ := hstarted {} hsettings
    obtain ⟨-, rfl⟩ := create?_eq_ok_iff.1 hcreate
    obtain ⟨hexit, -⟩ := hend (some [⟨.variableMissing "BEACHHEAD_DOMAINS", some "web"⟩])
      (by decide +kernel)
    exact hexit

/-- One and three hundred and nine zeros: more seconds than a floating-point number can hold. -/
def hugeExpiry : Int := Int.ofNat (Nat.pow 10 309)

/-- The digits of this number. -/
def hugeDigits : List Char := '1' :: List.replicate 309 '0'

theorem readNumber?_hugeDigits : readNumber? (String.ofList hugeDigits) = some hugeExpiry := by
  have hspelled : spelledNumber? (Text.trimNumeral hugeDigits) = some hugeExpiry := by
    decide +kernel
  simpa only [readNumber?, String.toList_ofList] using hspelled

/-- With an expiry that is too large the command does not end with the status of a run that could
not start, and nothing is told. -/
theorem run_expire_too_large :
    let ended := execute idleCollaborators ["run", "web", "--expire", String.ofList hugeDigits]
      emptySession
    ended.1 = .fault ⟨.setting .expireTooLarge, none⟩ ∧ ended.1 ≠ .status fatalStatus ∧
      ended.2.screen.console = "" := by
  intro ended
  let words := ["run", "web", "--expire", String.ofList hugeDigits]
  let parsed : Parsed :=
    { given := [⟨"--expire", some (String.ofList hugeDigits)⟩], words := ["web"] }
  let chosen : Overrides := { expire := some hugeExpiry }
  have hcommon : ((common words).run emptySession).1 = .ok { words := words } := by
    decide +kernel
  have hoptions : parseWords runOptions true ["web", "--expire", String.ofList hugeDigits] =
      .ok parsed := by decide +kernel
  -- The number has more digits than evaluation can work through, so it is rewritten instead.
  have hread : readRunOptions? parsed = some chosen := by
    simp [readRunOptions?, optionValue?, Parsed.last?, Parsed.has, parsed, flagChoice,
      readNumber?_hugeDigits, chosen]
  obtain ⟨noted, hprepared, henv, hconsole⟩ : ∃ noted,
      Prepared words emptySession parsed chosen noted ∧ noted.env = [] ∧
        noted.screen.console = "" :=
    ⟨_, ⟨⟨_, _, _, readied_of_ok hcommon rfl (by decide +kernel), hoptions,
      run_eq_of_ok (by decide +kernel)⟩, rfl, hread⟩, by decide +kernel, by decide +kernel⟩
  have hlarge : ExpireTooLarge noted.env chosen := by
    rw [henv]
    exact ⟨{}, hugeExpiry, by decide +kernel, rfl, by decide +kernel, by decide +kernel⟩
  have hexecute : ended = (.fault ⟨.setting .expireTooLarge, none⟩, noted) :=
    execute_of_startUp_error hprepared idleCollaborators (run_startUp_thrown _ hlarge)
  rw [hexecute]
  exact ⟨rfl, fun hstatus => (nomatch hstatus), hconsole⟩

end RegistrySync.CommandLine
