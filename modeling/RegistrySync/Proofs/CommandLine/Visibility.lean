/-
What the console of a quiet run shows.

A run that ends with status 1 has had a last cycle with faults, and the console has a line for each
of them:

* `Collaborators.Fair` — collaborators that fail only in the ways that a cycle handles, and do not
  write in the reconciler's name;
* `QuietRun`, `QuietRun.showsFrom` — a command line that comes to a run with `--quiet`, and the
  level of its console;
* `console_serve` — what the cycles of a run leave on the console;
* `exitOf_eq_one` — with status 1 a run has come to its end, and its last cycle had faults;
* `alerts_match_faults` — the alerts of a cycle are about its faults, and a quiet run shows those
  of the cycle for which it ends with status 1;
* `dry_run_hides_alert` — but a dry run is not quiet, and goes by the level that was chosen.
-/
import RegistrySync.Proofs.CommandLine.StartUp
import RegistrySync.Proofs.Journal.Console
import RegistrySync.Proofs.Reconciler.Reports
import RegistrySync.Proofs.Reconciler.Survival

namespace RegistrySync.CommandLine

open Command Journal
open Reconciler (Civil Discreet CycleAccounts Tells alertsIn create? create?_eq_ok_iff)

variable {ω : Type}

/-! ### Quiet runs -/

/-- In the worlds of `I` the collaborators fail only in the ways that a cycle handles, and do not
write in the reconciler's name; waiting stays in `I`. -/
structure Collaborators.Fair (collaborators : Collaborators ω) (I : ω → Prop) : Prop where
  civil : ∀ settings, Civil I (collaborators.inspector settings) (collaborators.publisher settings)
  discreet : ∀ settings,
    Discreet I (collaborators.inspector settings) (collaborators.publisher settings)
  kept : ∀ seconds {world}, I world → I ((collaborators.alarm.wait seconds).run world).world

/-- A command line that comes to a run with `--quiet`. Where that is taken back, by `--verbose` or
for a dry run, the level that was chosen lets warnings through. -/
structure QuietRun (words : List String) (session : Session ω) (parsed : Parsed)
    (chosen : Overrides) (noted : Session ω) : Prop where
  reached : ∃ rest choices ready, Readied words session "run" rest choices ready ∧
    parseWords runOptions true rest = .ok parsed ∧
    (prepare choices words chosen).run ready = (.ok (), noted) ∧
    choices.quiet = true ∧
    (choices.verbose = true ∨ chosen.dryRun = some true → ∀ level,
      readLevel choices.level = .ok level → level.number ≤ Level.warning.number)
  noHelp : parsed.has "--help" = false
  read : readRunOptions? parsed = some chosen

variable {words : List String} {session noted : Session ω} {parsed : Parsed} {chosen : Overrides}

theorem QuietRun.prepared (h : QuietRun words session parsed chosen noted) :
    Prepared words session parsed chosen noted := by
  obtain ⟨rest, choices, ready, hready, hparsed, hnoted, -⟩ := h.reached
  exact ⟨⟨rest, choices, ready, hready, hparsed, hnoted⟩, h.noHelp, h.read⟩

theorem showsFrom_configureLogging {word : String} {file : Option String} {after : Session ω}
    (h : (configureLogging word file).run session = (.ok (), after)) :
    ∃ level, readLevel word = .ok level ∧ ShowsFrom after.logging level := by
  have hrun : (configureLogging word file).run session =
      (afterSetup (setupIn word file session)).run { session with
        logging := (setupIn word file session).logging
        screen := (setupIn word file session).screen } := rfl
  rw [hrun] at h
  cases hf : (setupIn word file session).fault with
  | none =>
    simp only [afterSetup, hf] at h
    cases h
    exact showsFrom_configure hf
  | some fault =>
    simp only [afterSetup, hf] at h
    split at h
    · cases h
    · cases h

/-- The ordinary level lets warnings through, and so does an empty word, which stands for it. -/
theorem readLevel_ordinary (word : String) :
    readLevel (if word.isEmpty then "INFO" else word) = readLevel word := by
  split
  · rename_i hempty
    rw [String.isEmpty_iff.1 hempty]
    decide
  · rfl

theorem logging_log {level : Level} {text : String} {after : Session ω}
    (h : (Command.log level text).run session = (.ok (), after)) :
    after.logging = session.logging := by
  cases h
  rfl

/-- What is done before the start leaves the logging as it is, unless a dry run was to be quiet:
then the console has the level that was chosen. -/
theorem showsFrom_prepare {choices : LogChoices} {ready : Session ω} {level : Level}
    (hshows : ShowsFrom ready.logging level)
    (h : (prepare choices words chosen).run ready = (.ok (), noted)) :
    ShowsFrom noted.logging level ∨
      chosen.dryRun = some true ∧ ∃ other, readLevel choices.level = .ok other ∧
        ShowsFrom noted.logging other := by
  unfold prepare at h
  split at h
  · rename_i hdry
    simp only [Bool.and_eq_true, beq_iff_eq] at hdry
    -- The logging is set up a second time, which may end the command.
    cases hconfigured : (configureLogging
        (if choices.level.isEmpty then "INFO" else choices.level) choices.file).run ready with
    | mk result between =>
      cases result with
      | error exit =>
        rw [run_bind_error hconfigured] at h
        cases h
      | ok _ =>
        rw [run_bind_ok (congrArg Prod.fst hconfigured), hconfigured] at h
        obtain ⟨other, hother, hbetween⟩ := showsFrom_configureLogging hconfigured
        rw [readLevel_ordinary] at hother
        rw [logging_log h]
        exact Or.inr ⟨hdry.1.1, other, hother, hbetween⟩
  · rw [logging_log h]
    exact Or.inl hshows

/-- The console of a quiet run shows warnings. -/
theorem QuietRun.showsFrom (h : QuietRun words session parsed chosen noted) :
    ∃ level, level.number ≤ Level.warning.number ∧ ShowsFrom noted.logging level := by
  obtain ⟨rest, choices, ready, hready, -, hnoted, hquiet, hchosen⟩ := h.reached
  obtain ⟨front, opened, -, -, -, hlogging⟩ := hready.reached
  obtain ⟨level, hlevel, hshows⟩ := showsFrom_configureLogging hlogging
  rcases showsFrom_prepare hshows hnoted with hshown | ⟨hdry, other, hother, hshown⟩
  · refine ⟨level, ?_, hshown⟩
    cases hv : choices.verbose with
    | true =>
      -- Both options together are as good as none.
      rw [consoleLevel, hv, hquiet] at hlevel
      exact hchosen (Or.inl hv) level hlevel
    | false =>
      rw [consoleLevel, hv, hquiet] at hlevel
      have hwarning : readLevel "WARNING" = .ok .warning := by decide
      cases hwarning.symm.trans hlevel
      exact Int.le_refl _
  · exact ⟨other, hchosen (Or.inr hdry) other hother, hshown⟩

/-! ### What a run leaves on the console -/

/-- The line that tells of the faults of the last cycle. -/
def closingLine (faults : List Fault) : String :=
  "Last refresh cycle finished with " ++ Text.showNat faults.length ++
    " error(s); see log for details\n"

/-- Behind the records of its cycles, a run whose last cycle had faults leaves one line. -/
theorem console_serve (collaborators : Collaborators ω) (r : Reconciler ω) {session : Session ω}
    {level : Level} (hs : ShowsFrom session.logging level) {faults : List Fault}
    (hv : ((r.runFor (collaborators.cycleBound session.world)).run session.world).value =
      .ok (some faults)) (hf : faults ≠ []) :
    ((serve collaborators r).run session).2.screen.console =
      session.screen.console ++
        consoleLines session.stamp
          ((recordsOf ((r.runFor (collaborators.cycleBound session.world)).run
            session.world).trace).filter (session.logging.shows level)) ++
        closingLine faults := by
  have hget : ((get : Command ω (Session ω)).run session).1 = .ok session := rfl
  have hguarded : ((runGuarded r (collaborators.cycleBound session.world)).run session).1 =
      .ok (.ok (some faults)) := congrArg Except.ok hv
  have hscreen : ((runGuarded r (collaborators.cycleBound session.world)).run session).2.screen =
      session.logging.emitAll session.stamp
        (recordsOf ((r.runFor (collaborators.cycleBound session.world)).run session.world).trace)
        session.screen := rfl
  rw [← console_emitAll hs, ← hscreen, serve, run_bind_ok hget]
  show ((runGuarded r _ >>= _).run session).2.screen.console = _
  rw [run_bind_ok hguarded]
  -- Without faults there would be no closing line.
  cases faults with
  | nil => exact absurd rfl hf
  | cons fault rest => rfl

theorem exitOf_eq_one {result : Except Fault (Option (List Fault))}
    (h : exitOf result = .status 1) : ∃ faults, result = .ok (some faults) ∧ faults ≠ [] := by
  cases result with
  | error fault => cases h
  | ok last =>
    cases last with
    | none => cases h
    | some faults =>
      refine ⟨faults, rfl, ?_⟩
      rintro rfl
      cases h

/-- A command line that comes to a run and ends with status 1 has had a reconciler over its
settings, and the last cycle had faults. -/
theorem exists_faults_of_exit (h : Prepared words session parsed chosen noted)
    {collaborators : Collaborators ω}
    (hexit : (execute collaborators words session).1 = .status 1) :
    ∃ settings r faults,
      create? settings (collaborators.inspector settings) (collaborators.publisher settings)
        collaborators.alarm (parsed.words.map .str) = .ok r ∧
      (startUp collaborators chosen parsed.words).run noted =
        (.ok r, { noted with settings := some settings }) ∧
      ((r.runFor (collaborators.cycleBound session.world)).run session.world).value =
        .ok (some faults) ∧ faults ≠ [] := by
  -- A start that fails has another status, or none at all.
  cases he : effectiveSettings noted.env chosen parsed.words with
  | error fault =>
    by_cases hlarge : Settings.ExpireTooLarge noted.env chosen
    · have hthrown := execute_of_startUp_error h collaborators
        (run_startUp_thrown collaborators hlarge)
      rw [hthrown] at hexit
      cases hexit
    · obtain ⟨last, hstart⟩ := run_startUp_fatal collaborators (cannotStart_of_error he) hlarge
      have hfatal := execute_of_startUp_error h collaborators hstart
      rw [hfatal] at hexit
      cases hexit
  | ok settings =>
    obtain ⟨r, hcreate, hstart⟩ := run_startUp_ok collaborators he
    obtain ⟨hends, -⟩ := execute_of_startUp_ok h collaborators hstart
    obtain ⟨faults, hv, hf⟩ := exitOf_eq_one (hends.symm.trans hexit)
    exact ⟨settings, r, faults, hcreate, hstart, hv, hf⟩

/-- The console of such a command line: behind what stood there when it came to the start, it has
the lines of all records that it shows, and then the line about the faults. -/
theorem console_execute (h : Prepared words session parsed chosen noted)
    {collaborators : Collaborators ω} {level : Level} (hs : ShowsFrom noted.logging level)
    {settings : Settings} {r : Reconciler ω}
    (hstart : (startUp collaborators chosen parsed.words).run noted =
      (.ok r, { noted with settings := some settings })) {faults : List Fault}
    (hv : ((r.runFor (collaborators.cycleBound session.world)).run session.world).value =
      .ok (some faults)) (hf : faults ≠ []) :
    (execute collaborators words session).2.screen.console =
      noted.screen.console ++
        consoleLines noted.stamp
          ((⟨.info, Source.commandLine, startLine r.settings⟩ :: recordsOf
            ((r.runFor (collaborators.cycleBound session.world)).run session.world).trace).filter
              (noted.logging.shows level)) ++
        closingLine faults := by
  -- The record of the start is written first, and the cycles go on from there.
  let started : Journal.Record := ⟨.info, Source.commandLine, startLine r.settings⟩
  let launched : Command ω (Reconciler ω) :=
    startUp collaborators chosen parsed.words >>= fun reconciler =>
      Command.log .info (startLine reconciler.settings) >>= fun _ => pure reconciler
  let ready : Session ω := { noted with
    settings := some settings
    screen := noted.logging.emitAll noted.stamp [started] noted.screen }
  have hlaunched : launched.run noted = (.ok r, ready) := by
    show (startUp collaborators chosen parsed.words >>= _).run noted = _
    rw [run_bind_ok (congrArg Prod.fst hstart), hstart]
    rfl
  have hworld : noted.world = session.world := (Session.outward_inj h.outward).2.2.1
  rw [← hworld] at hv ⊢
  have hserve := console_serve collaborators r (show ShowsFrom ready.logging level from hs) hv hf
  have hstarted : ready.screen.console = noted.screen.console ++
      consoleLines noted.stamp ([started].filter (noted.logging.shows level)) :=
    console_emitAll hs _ _ _
  have hrun := (run_prepared h collaborators).trans
    (run_bind_ok (congrArg Prod.fst hlaunched) (serve collaborators))
  rw [hlaunched] at hrun
  have hend : (execute collaborators words session).2 = ((serve collaborators r).run ready).2 :=
    congrArg Prod.snd hrun
  let records := recordsOf
    ((r.runFor (collaborators.cycleBound noted.world)).run noted.world).trace
  have hlines : consoleLines noted.stamp
      ((started :: records).filter (noted.logging.shows level)) =
        consoleLines noted.stamp ([started].filter (noted.logging.shows level)) ++
          consoleLines noted.stamp (records.filter (noted.logging.shows level)) := by
    rw [← consoleLines_append, ← List.filter_append]
    rfl
  rw [hend, hserve, hstarted, hlines, ← String.append_assoc]

/-! ### Alerts -/

/-- No failure is silent, and no alarm is a phantom.

Whatever a cycle comes across, as long as its inspector and its publisher fail only in the ways that
it handles and do not write in the reconciler's name, the reconciler's warnings and errors, apart
from the one of a cycle without containers, are about the faults with which the cycle ends, one by
one and in their order. Each of them names the container of its fault or tells of the listing that
failed. Of each container the reconciler writes two records in all, that it is looked at and how
that went; where a failure does not count, the second one is no more than information and names the
container.

A command line with `--quiet` that comes to a run and ends with status 1 has had a last cycle with
faults, and its console shows all alerts about them, each as a line of its own and in their order.
-/
theorem alerts_match_faults (I : ω → Prop) :
    (∀ r : Reconciler ω, Civil I r.inspector r.publisher → Discreet I r.inspector r.publisher →
      ∀ world, I world → ∃ faults listing accounts, (r.cycle.run world).value = .ok faults ∧
        List.Forall₂ Tells (alertsIn (r.cycle.run world).trace) faults ∧
        CycleAccounts r world faults listing accounts) ∧
    ∀ words session parsed chosen noted, QuietRun words session parsed chosen noted →
      ∀ collaborators : Collaborators ω, collaborators.Fair I → I session.world →
        (execute collaborators words session).1 = .status 1 →
          ∃ settings r start faults shown,
            create? settings (collaborators.inspector settings) (collaborators.publisher settings)
              collaborators.alarm (parsed.words.map .str) = .ok r ∧
            ((r.runFor (collaborators.cycleBound session.world)).run session.world).value =
              .ok (some faults) ∧ faults ≠ [] ∧
            I start ∧ (r.cycle.run start).value = .ok faults ∧
            List.Forall₂ Tells (alertsIn (r.cycle.run start).trace) faults ∧
            (alertsIn (r.cycle.run start).trace).Sublist shown ∧
            (execute collaborators words session).2.screen.console =
              noted.screen.console ++ consoleLines noted.stamp shown ++ closingLine faults := by
  refine ⟨fun r hc hd world hw => ?_, fun words session parsed chosen noted hquiet collaborators
    hfair hw hexit => ?_⟩
  · obtain ⟨faults, listing, accounts, hv, haccounts⟩ := Reconciler.cycle_accounts hc hd hw
    exact ⟨faults, listing, accounts, hv, haccounts.alerts, haccounts⟩
  · obtain ⟨level, hlevel, hs⟩ := hquiet.showsFrom
    obtain ⟨settings, r, faults, hcreate, hstart, hv, hf⟩ :=
      exists_faults_of_exit hquiet.prepared hexit
    have hconsole := console_execute hquiet.prepared hs hstart hv hf
    obtain ⟨-, hr⟩ := create?_eq_ok_iff.1 hcreate
    have hc : Civil I r.inspector r.publisher := by rw [hr]; exact hfair.civil settings
    have hd : Discreet I r.inspector r.publisher := by rw [hr]; exact hfair.discreet settings
    have ha : ∀ seconds {world}, I world → I ((r.alarm.wait seconds).run world).world := by
      rw [hr]
      exact hfair.kept
    obtain ⟨start, hi, hlast, earlier, htrace⟩ := Reconciler.runFor_ends hc ha hw hv
    obtain ⟨others, listing, accounts, hvalue, haccounts⟩ := Reconciler.cycle_accounts hc hd hi
    cases hlast.symm.trans hvalue
    refine ⟨settings, r, start, faults, _, hcreate, hv, hf, hi, hlast, haccounts.alerts, ?_,
      hconsole⟩
    -- All alerts are shown, and those of the last cycle are among the records of the run.
    have hshown : (alertsIn (r.cycle.run start).trace).filter (noted.logging.shows level) =
        alertsIn (r.cycle.run start).trace := by
      refine List.filter_eq_self.2 fun record hm => shows_of_warning hs hlevel ?_
      exact of_decide_eq_true (Bool.and_eq_true_iff.1 (List.mem_filter.1 hm).2).1
    have hwritten : (alertsIn (r.cycle.run start).trace).Sublist (recordsOf
        ((r.runFor (collaborators.cycleBound session.world)).run session.world).trace) := by
      rw [htrace, recordsOf_append, recordsOf_append]
      exact ((Reconciler.alertsIn_sublist _).trans (List.sublist_append_right _ _)).trans
        (List.sublist_append_left _ _)
    rw [← hshown]
    exact (hwritten.trans (List.sublist_cons_self _ _)).filter _

/-- The daemon's inspector and the registry's publisher, side by side, for a run of one cycle. -/
def besideCollaborators : Collaborators (DaemonLink × RegistryLink) where
  inspector settings := (Reconciler.besideReconciler settings []).inspector
  publisher settings := (Reconciler.besideReconciler settings []).publisher
  alarm := (Reconciler.besideReconciler {} []).alarm
  cycleBound _ := 1

/-- A session with a daemon that knows no container. -/
def deadSession : Session (DaemonLink × RegistryLink) where
  env := []
  cwd := []
  stamp := ⟨"12:00", "0"⟩
  screen := {}
  world :=
    ({ daemon := { attributes := fun _ => .error ⟨.stated .daemonImageNotFound "404", none⟩ } }, {})

theorem fair_besideCollaborators :
    besideCollaborators.Fair fun world => world.2.registry.Tame := by
  have ht : Reconciler.StaysTame (fun world : DaemonLink × RegistryLink => world.2.registry.Tame)
      (fun link world => (link, world.2)) Prod.snd fun link world => (world.1, link) :=
    ⟨fun hw => hw, fun hw _ => hw, fun _ _ hlink => hlink⟩
  exact ⟨fun _ => ht.civil, fun _ => Reconciler.discreet_onPart _, fun _ _ hw => hw⟩

/-- The fault of a container that this daemon does not know. -/
def unknownContainer : Fault := ⟨.noSuchContainer ⟨.daemonImageNotFound, "404"⟩, some "web"⟩

/-- The alert about it, under the policy that is in force if none is chosen. -/
def unknownAlert : Record :=
  ⟨.warning, Source.reconciler, "Failed to inspect explicit container web " ++
    "(missing-container=ignore): No such container. Container name: web."⟩

theorem alerts_match_faults_unknown_container :
    let ended := execute besideCollaborators ["--quiet", "run", "web", "--refresh", "0"] deadSession
    ended.1 = .status 1 ∧
      ended.2.screen.console =
        consoleLine deadSession.stamp unknownAlert ++ closingLine [unknownContainer] ∧
      (∃ (r : Reconciler (DaemonLink × RegistryLink)) (start : DaemonLink × RegistryLink)
        (faults : List Fault) (shown : List Record), faults ≠ [] ∧
          List.Forall₂ Tells (alertsIn (r.cycle.run start).trace) faults ∧
          (alertsIn (r.cycle.run start).trace).Sublist shown ∧
          ended.2.screen.console = consoleLines deadSession.stamp shown ++ closingLine faults) ∧
      List.Forall₂ Tells
        (alertsIn ((Reconciler.besideReconciler {} ["web"]).cycle.run deadSession.world).trace)
        [unknownContainer] := by
  intro ended
  let words := ["--quiet", "run", "web", "--refresh", "0"]
  let front : Parsed :=
    { given := [⟨"--quiet", none⟩], words := ["run", "web", "--refresh", "0"] }
  let parsed : Parsed := { given := [⟨"--refresh", some "0"⟩], words := ["web"] }
  have hcommon : ((common words).run deadSession).1 = .ok front := by decide +kernel
  have htame : deadSession.world.2.registry.Tame := by
    rintro key fault ⟨⟩
  obtain ⟨hcycle, hrun⟩ :=
    alerts_match_faults fun world : DaemonLink × RegistryLink => world.2.registry.Tame
  have hexit : ended.1 = .status 1 := by decide +kernel
  refine ⟨hexit, by decide +kernel, ?_, ?_⟩
  · obtain ⟨noted, hquiet, hstamp, hconsole⟩ : ∃ noted,
        QuietRun words deadSession parsed { refresh := some 0 } noted ∧
          noted.stamp = deadSession.stamp ∧ noted.screen.console = "" := by
      -- The session before the start is what evaluation makes of it, and nothing takes the quiet
      -- back.
      refine ⟨_, ⟨⟨_, _, _, readied_of_ok hcommon rfl (by decide +kernel), rfl,
        run_eq_of_ok (by decide +kernel), by decide +kernel, fun hlifted => ?_⟩, rfl,
        by decide +kernel⟩, by decide +kernel, by decide +kernel⟩
      exact absurd hlifted (by decide +kernel)
    have hends := hrun words deadSession parsed { refresh := some 0 } noted hquiet
      besideCollaborators fair_besideCollaborators htame hexit
    obtain ⟨-, r, start, faults, shown, -, -, hf, -, -, htells, hshown, hall⟩ := hends
    have hended : execute besideCollaborators words deadSession = ended := rfl
    rw [hstamp, hconsole, String.empty_append, hended] at hall
    exact ⟨r, start, faults, shown, hf, htells, hshown, hall⟩
  · obtain ⟨faults, -, -, hv, htells, -⟩ := hcycle (Reconciler.besideReconciler {} ["web"])
      (fair_besideCollaborators.civil {}) (fair_besideCollaborators.discreet {}) _ htame
    -- The theorem knows the faults only as those of the cycle; evaluation says which they are.
    have hfaults : ((Reconciler.besideReconciler {} ["web"]).cycle.run deadSession.world).value =
        .ok [unknownContainer] := by decide +kernel
    cases hfaults.symm.trans hv
    exact htells

/-- A dry run is not quiet: its console has the level that was chosen. If that is the level of
errors, the alert about a container that is not there under a lenient policy is not shown, though
the run ends with status 1 for it. -/
theorem dry_run_hides_alert :
    let words := ["--quiet", "--log-level", "ERROR", "run", "web", "--dry-run", "--refresh", "0"]
    let ended := execute besideCollaborators words deadSession
    let r := Reconciler.besideReconciler { refresh := none, dryRun := true } ["web"]
    ended.2.settings = some r.settings ∧ ended.1 = .status 1 ∧
      ((r.runFor 1).run deadSession.world).value = .ok (some [unknownContainer]) ∧
      alertsIn ((r.runFor 1).run deadSession.world).trace = [unknownAlert] ∧
      ended.2.screen.console = closingLine [unknownContainer] ∧
      ¬(consoleLine deadSession.stamp unknownAlert).toList <:+:
        ended.2.screen.console.toList := by
  decide +kernel

end RegistrySync.CommandLine
