/-
What the console shows of the records that are written.

Logging that has been set up has one handler for the console, and the others write to files. So the
console shows, line by line, the records that are not dropped and are serious enough for it:

* `ShowsFrom` — logging whose console takes records from some level on;
* `Logging.shows` — the records that such a console shows;
* `console_emit`, `console_emitAll` — what is on the console once records have been written;
* `showsFrom_configure` — logging that has been set up shows records from the level that was asked
  for;
* `shows_of_warning` — a console of a level up to that of warnings shows all warnings and worse.
-/
import RegistrySync.Journal.Configure
import RegistrySync.Proofs.Task

namespace RegistrySync.Journal

/-- Logging whose console takes records from this level on; what is less serious than the level of
the logging itself would not reach it. -/
structure ShowsFrom (logging : Logging) (level : Level) : Prop where
  handlers : ∃ others, logging.handlers = ⟨level, .console⟩ :: others ∧
    ∀ handler ∈ others, handler.sink ≠ .console
  threshold : logging.level.number ≤ level.number
  quiet : logging.quiet = .warnings

/-- Whether a console that takes records from this level on shows a record. -/
def Logging.shows (logging : Logging) (level : Level) (record : Record) : Bool :=
  logging.accepts record && Handler.takes ⟨level, .console⟩ record

/-- The lines of records on the console. -/
def consoleLines (stamp : Stamp) (records : List Record) : String :=
  String.join (records.map (consoleLine stamp))

@[simp] theorem consoleLines_nil (stamp : Stamp) : consoleLines stamp [] = "" := rfl

theorem consoleLines_cons (stamp : Stamp) (record : Record) (rest : List Record) :
    consoleLines stamp (record :: rest) = consoleLine stamp record ++ consoleLines stamp rest := by
  simp [consoleLines]

theorem consoleLines_append (stamp : Stamp) (a b : List Record) :
    consoleLines stamp (a ++ b) = consoleLines stamp a ++ consoleLines stamp b := by
  simp [consoleLines]

variable {logging : Logging} {level : Level}

/-- Handlers that write to files leave the console as it is. -/
theorem console_foldl_files (stamp : Stamp) (record : Record) {handlers : List Handler}
    (h : ∀ handler ∈ handlers, handler.sink ≠ .console) (screen : Screen) :
    (handlers.foldl (fun screen handler => Logging.write stamp record screen handler.sink)
      screen).console = screen.console := by
  induction handlers generalizing screen with
  | nil => rfl
  | cons handler rest ih =>
    rw [List.foldl_cons, ih fun other hm => h other (List.mem_cons_of_mem _ hm)]
    cases hsink : handler.sink with
    | console => exact absurd hsink (h handler List.mem_cons_self)
    | file place => rfl

theorem console_emit (h : ShowsFrom logging level) (stamp : Stamp) (record : Record)
    (screen : Screen) :
    (logging.emit stamp record screen).console =
      screen.console ++ consoleLines stamp ([record].filter (logging.shows level)) := by
  obtain ⟨others, hhandlers, hfiles⟩ := h.handlers
  cases ha : logging.accepts record with
  | false => simp [Logging.emit_of_refused stamp screen ha, Logging.shows, ha]
  | true =>
    -- Only the first handler writes to the console.
    have hfiled : ∀ handler ∈ others.filter (·.takes record), handler.sink ≠ .console :=
      fun handler hm => hfiles handler (List.mem_filter.1 hm).1
    have hothers := console_foldl_files stamp record hfiled
    cases ht : Handler.takes ⟨level, .console⟩ record with
    | false => simp [Logging.emit, ha, hhandlers, ht, hothers, Logging.shows]
    | true =>
      have hline := hothers (Logging.write stamp record screen .console)
      simpa [Logging.emit, ha, hhandlers, ht, Logging.shows, consoleLines_cons,
        Logging.write] using hline

/-- What records leave on the console: the lines of those that it shows. -/
theorem console_emitAll (h : ShowsFrom logging level) (stamp : Stamp) (records : List Record)
    (screen : Screen) :
    (logging.emitAll stamp records screen).console =
      screen.console ++ consoleLines stamp (records.filter (logging.shows level)) := by
  induction records generalizing screen with
  | nil => simp [Logging.emitAll]
  | cons record rest ih =>
    show (logging.emitAll stamp rest (logging.emit stamp record screen)).console = _
    rw [ih, console_emit h, String.append_assoc, ← consoleLines_append, ← List.filter_append]
    rfl

/-! ### Setting up logging -/

theorem readLevel_of_planLogging {base : Whereabouts} {files : Files.Tree} {request : LogRequest}
    {plan : LogPlan} (h : planLogging base files request = .ok plan) :
    readLevel request.console = .ok plan.console := by
  unfold planLogging at h
  obtain ⟨console, hc, h⟩ := exists_ok_of_bind h
  -- However the level of the file is found, the plan is made of what has been looked up.
  have hplan : ∀ level : Except Fault Level, (level >>= fun file =>
      logPath base files request.file >>= fun path =>
        pure (⟨console, file, path⟩ : LogPlan)) = .ok plan → console = plan.console := by
    intro level hmade
    obtain ⟨file, -, hmade⟩ := exists_ok_of_bind hmade
    obtain ⟨path, -, hmade⟩ := exists_ok_of_bind hmade
    cases hmade
    rfl
  rw [hc]
  refine congrArg Except.ok ?_
  simp only at h
  split at h
  · split at h
    · exact hplan _ h
    · exact hplan _ h
  · exact hplan _ h

theorem lesser_le_left (a b : Level) : (lesser a b).number ≤ a.number := by
  unfold lesser
  split
  · exact Int.le_refl _
  · omega

theorem showsFrom_console {level : Level} (h : logging.level.number ≤ level.number)
    (hq : logging.quiet = .warnings) (hh : logging.handlers = [⟨level, .console⟩]) :
    ShowsFrom logging level :=
  ⟨⟨[], hh, fun handler hm => by cases hm⟩, h, hq⟩

/-- Logging that has been set up shows records from the level that was asked for. -/
theorem showsFrom_configure {base : Whereabouts} {stamp : Stamp} {screen : Screen}
    {request : LogRequest} (h : (configure base stamp logging screen request).fault = none) :
    ∃ level, readLevel request.console = .ok level ∧
      ShowsFrom (configure base stamp logging screen request).logging level := by
  unfold configure at h ⊢
  cases hp : planLogging base screen.files request with
  | error fault =>
    rw [hp] at h
    cases h
  | ok plan =>
    refine ⟨plan.console, readLevel_of_planLogging hp, ?_⟩
    simp only
    rw [hp] at h
    unfold enact at h ⊢
    -- Whatever becomes of the file, the handler of the console is there and comes first.
    split
    · exact showsFrom_console (Int.le_refl _) rfl rfl
    · split
      · refine ⟨⟨_, rfl, ?_⟩, lesser_le_left _ _, rfl⟩
        intro handler hm
        rw [List.mem_singleton.1 hm]
        exact Sink.noConfusion
      · exact showsFrom_console (Int.le_refl _) rfl rfl
      · rename_i hpath _ _ hopened
        simp only [hpath, hopened] at h
        cases h

/-- A console of a level up to that of warnings shows all warnings and worse. -/
theorem shows_of_warning (h : ShowsFrom logging level)
    (hl : level.number ≤ Level.warning.number) {record : Record}
    (hr : Level.warning.number ≤ record.level.number) : logging.shows level record = true := by
  have hpositive : Level.notset.number < record.level.number := Int.lt_of_lt_of_le (by decide) hr
  have ha : logging.accepts record = true := by
    unfold Logging.accepts Logging.threshold
    rw [h.quiet, QuietLevels.inherited?_warnings, Bool.and_eq_true, decide_eq_true_iff,
      decide_eq_true_iff]
    -- Held to warnings or not, no part of the program has its warnings dropped.
    refine ⟨hpositive, ?_⟩
    split
    · exact hr
    · exact Int.le_trans h.threshold (Int.le_trans hl hr)
  have ht : Handler.takes ⟨level, .console⟩ record = true := decide_eq_true (Int.le_trans hl hr)
  rw [Logging.shows, ha, ht]
  rfl

end RegistrySync.Journal
