/-
The steps of a command line up to the command that is chosen.

* `Command.run_bind_ok`, `Command.run_bind_error` — what follows a step that comes to a value,
  and one that does not;
* `Session.outward`, `Command.Keeps` — what a session shows outside of itself, and steps that
  leave it as it was if they come to a value;
* `Readied` — a command line that has come to a command, with logging set up;
* `run_program_check`, `run_program_run` — from there on, only this command counts.
-/
import RegistrySync.CommandLine.Program

namespace RegistrySync.CommandLine

variable {ω α β : Type}

namespace Command

theorem run_eq_of_ok {command : Command ω α} {session : Session ω} {value : α}
    (h : (command.run session).1 = .ok value) :
    command.run session = (.ok value, (command.run session).2) := Prod.ext h rfl

/-- What follows a step of a command that came to a value. -/
theorem run_bind_ok {command : Command ω α} {session : Session ω} {value : α}
    (h : (command.run session).1 = .ok value) (next : α → Command ω β) :
    (command >>= next).run session = (next value).run (command.run session).2 := by
  show (ExceptT.bindCont next (command.run session).1) (command.run session).2 = _
  rw [h]
  rfl

/-- Steps that leave the same are followed by the same. -/
theorem run_bind_congr {first second : Command ω α} {session other : Session ω}
    (h : first.run session = second.run other) (next : α → Command ω β) :
    (first >>= next).run session = (second >>= next).run other := by
  show (ExceptT.bindCont next (first.run session).1) (first.run session).2 = _
  rw [h]
  rfl

/-- A step that ends the command is the last one. -/
theorem run_bind_error {command : Command ω α} {session after : Session ω} {exit : Exit}
    (h : command.run session = (.error exit, after)) (next : α → Command ω β) :
    (command >>= next).run session = (.error exit, after) := by
  show (ExceptT.bindCont next (command.run session).1) (command.run session).2 = _
  rw [h]
  rfl

end Command

/-! ### What shows outside -/

/-- What a session shows outside of itself, apart from the console and the log: its output, what
was asked of the collaborators, what became of their world, and the signals. -/
def Session.outward (session : Session ω) : String × List Request × ω × Signals.State :=
  (session.output, session.requests, session.world, session.signals)

/-- What shows of a session, part by part. -/
theorem Session.outward_inj {a b : Session ω} (h : a.outward = b.outward) :
    a.output = b.output ∧ a.requests = b.requests ∧ a.world = b.world ∧ a.signals = b.signals := by
  simpa [Session.outward] using h

namespace Command

/-- A step that shows nothing outside if it comes to a value. -/
def Keeps (command : Command ω α) : Prop :=
  ∀ session value after, command.run session = (.ok value, after) →
    after.outward = session.outward

theorem keeps_pure (value : α) : Keeps (pure value : Command ω α) := by
  intro session other after h
  cases h
  rfl

theorem keeps_throw (exit : Exit) : Keeps (throw exit : Command ω α) := by
  intro session value after h
  cases h

theorem keeps_get : Keeps (get : Command ω (Session ω)) := by
  intro session value after h
  cases h
  rfl

theorem keeps_modify {f : Session ω → Session ω}
    (hf : ∀ session, (f session).outward = session.outward) :
    Keeps (modify f : Command ω Unit) := by
  intro session value after h
  cases h
  exact hf session

theorem Keeps.bind {command : Command ω α} {next : α → Command ω β} (h : Keeps command)
    (hnext : ∀ value, Keeps (next value)) : Keeps (command >>= next) := by
  intro session value after hrun
  cases hfirst : command.run session with
  | mk result between =>
    cases result with
    | error exit =>
      rw [run_bind_error hfirst] at hrun
      cases hrun
    | ok first =>
      rw [run_bind_ok (congrArg Prod.fst hfirst), hfirst] at hrun
      exact (hnext first between value after hrun).trans (h session first between hfirst)

theorem Keeps.forM {step : α → Command ω Unit} (h : ∀ item, Keeps (step item)) (items : List α) :
    Keeps (items.forM step) := by
  induction items with
  | nil => exact keeps_pure ()
  | cons item rest ih => exact (h item).bind fun _ => ih

theorem keeps_emit (records : List Journal.Record) : Keeps (emit records : Command ω Unit) :=
  keeps_modify fun _ => rfl

theorem keeps_tell (text : String) : Keeps (tell text : Command ω Unit) := keeps_modify fun _ => rfl

/-- A session that is looked at, changed where it does not show, and left to another step. -/
theorem keeps_update {f : Session ω → Session ω} {k : Session ω → Command ω β}
    (hf : ∀ session, (f session).outward = session.outward) (hk : ∀ session, Keeps (k session)) :
    Keeps (do let session ← get; set (f session); k session : Command ω β) := by
  intro session value after h
  have hupdated : (k session).run (f session) = (.ok value, after) := h
  exact (hk session _ _ _ hupdated).trans (hf session)

/-- What setting up logging comes to, seen from the session in which it is done. -/
def setupIn (console : String) (file : Option String) (session : Session ω) : Journal.Setup :=
  Journal.configure (whereabouts session) session.stamp session.logging session.screen
    { console := console, file := file }

/-- How the command goes on once logging has been set up, or could not be. -/
def afterSetup (setup : Journal.Setup) : Command ω Unit :=
  match setup.fault with
  | none => pure ()
  | some fault => if fault.kind = .value then misuse else throw (.fault fault)

theorem keeps_configureLogging (console : String) (file : Option String) :
    Keeps (configureLogging console file : Command ω Unit) := by
  refine keeps_update
    (f := fun session => { session with
      logging := (setupIn console file session).logging
      screen := (setupIn console file session).screen })
    (k := fun session => afterSetup (setupIn console file session))
    (fun _ => rfl) fun session => ?_
  unfold afterSetup
  split
  · exact keeps_pure ()
  · split
    · exact keeps_throw _
    · exact keeps_throw _

theorem keeps_loadEnvFile (path : Option String) : Keeps (loadEnvFile path : Command ω Unit) := by
  refine keeps_get.bind fun session => ?_
  cases EnvFile.load session.screen.files session.cwd session.env path with
  | mk records result =>
    refine (keeps_emit records).bind fun _ => ?_
    cases result with
    | ok env => exact keeps_modify fun _ => rfl
    | error fault => exact keeps_throw _

theorem keeps_ite {condition : Prop} [Decidable condition] {first second : Command ω α}
    (hfirst : Keeps first) (hsecond : Keeps second) :
    Keeps (if condition then first else second) := by
  split
  · exact hfirst
  · exact hsecond

end Command

open Command

theorem keeps_parseOrExit (specs : List OptionSpec) (mixed : Bool) (words : List String)
    (advice : List String → String) :
    Keeps (parseOrExit specs mixed words advice : Command ω Parsed) := by
  unfold parseOrExit
  split
  · exact keeps_pure _
  · exact keeps_throw _
  · exact (keeps_tell _).bind fun _ => keeps_throw _

/-- The options that act early show nothing, unless they end the command. -/
theorem keeps_actEarly (parsed : Parsed) (option : String) :
    Keeps (actEarly parsed option : Command ω Unit) := by
  unfold actEarly
  refine keeps_ite ?_ (keeps_ite (keeps_throw _) (keeps_ite ?_ (keeps_pure _)))
  · intro session value after h
    cases h
  · exact keeps_get.bind fun _ => keeps_loadEnvFile _

theorem keeps_common (words : List String) : Keeps (common words : Command ω Parsed) := by
  have hwords : Keeps (do
      let parsed ← parseOrExit commonOptions false words
      (earlyOptions parsed).forM (actEarly parsed)
      return parsed : Command ω Parsed) := by
    refine (keeps_parseOrExit _ _ _ _).bind fun parsed => ?_
    exact (Keeps.forM (keeps_actEarly parsed) _).bind fun _ => keeps_pure _
  unfold common
  split
  · exact (keeps_throw _).bind fun _ => hwords
  · exact hwords

/-! ### Up to the command -/

/-- A command line that has come to a command: what stands in front of it has been acted on, and
logging is set up as it was asked for. Behind the command stand the rest of the words. -/
structure Readied (words : List String) (session : Session ω) (command : String)
    (rest : List String) (choices : LogChoices) (ready : Session ω) : Prop where
  reached : ∃ parsed opened, (common words).run session = (.ok parsed, opened) ∧
    parsed.words = command :: rest ∧ choices = logChoices parsed opened.env ∧
      (setUpLogging choices).run opened = (.ok (), ready)

variable {words rest : List String} {session ready : Session ω} {command : String}
  {choices : LogChoices} {parsed : Parsed}

theorem readied_of_ok (hcommon : ((common words).run session).1 = .ok parsed)
    (hwords : parsed.words = command :: rest)
    (hlogging : ((setUpLogging (logChoices parsed ((common words).run session).2.env)).run
      ((common words).run session).2).1 = .ok ()) :
    Readied words session command rest (logChoices parsed ((common words).run session).2.env)
      ((setUpLogging (logChoices parsed ((common words).run session).2.env)).run
        ((common words).run session).2).2 :=
  ⟨parsed, _, run_eq_of_ok hcommon, hwords, rfl, run_eq_of_ok hlogging⟩

/-- Nothing shows outside before the command. -/
theorem Readied.outward (h : Readied words session command rest choices ready) :
    ready.outward = session.outward := by
  obtain ⟨parsed, opened, hcommon, -, -, hlogging⟩ := h.reached
  have hopened := keeps_common words session parsed opened hcommon
  exact (keeps_configureLogging _ _ opened () ready hlogging).trans hopened

section

variable (collaborators : Collaborators ω)

theorem run_parseOrExit_ok {specs : List OptionSpec} {mixed : Bool}
    (h : parseWords specs mixed rest = .ok parsed) :
    (parseOrExit specs mixed rest : Command ω Parsed).run session = (.ok parsed, session) := by
  unfold parseOrExit
  rw [h]
  rfl

/-- Once logging is set up, a command is read and done. -/
theorem run_command {opened : Session ω}
    (hlogging : (setUpLogging choices).run opened = (.ok (), ready)) {specs : List OptionSpec}
    (hparsed : parseWords specs true rest = .ok parsed) (body : Parsed → Command ω Unit) :
    (setUpLogging choices >>= fun _ => parseOrExit specs true rest >>= body).run opened =
      (body parsed).run ready := by
  have hoptions : (parseOrExit specs true rest : Command ω Parsed).run ready =
      (.ok parsed, ready) := run_parseOrExit_ok hparsed
  rw [run_bind_ok (congrArg Prod.fst hlogging), hlogging,
    run_bind_ok (congrArg Prod.fst hoptions), hoptions]

theorem run_program_check (h : Readied words session "check" rest choices ready)
    (hparsed : parseWords checkOptions true rest = .ok parsed) :
    (program collaborators words).run session = (check parsed).run ready := by
  obtain ⟨front, opened, hcommon, hwords, rfl, hlogging⟩ := h.reached
  have hget : ((get : Command ω (Session ω)).run opened).1 = .ok opened := rfl
  rw [program, run_bind_ok (congrArg Prod.fst hcommon), hcommon, run_bind_ok hget]
  simp only [hwords]
  exact run_command hlogging hparsed check

theorem run_program_run (h : Readied words session "run" rest choices ready)
    (hparsed : parseWords runOptions true rest = .ok parsed) :
    (program collaborators words).run session =
      (run collaborators choices words parsed).run ready := by
  obtain ⟨front, opened, hcommon, hwords, rfl, hlogging⟩ := h.reached
  have hget : ((get : Command ω (Session ω)).run opened).1 = .ok opened := rfl
  rw [program, run_bind_ok (congrArg Prod.fst hcommon), hcommon, run_bind_ok hget]
  simp only [hwords]
  exact run_command hlogging hparsed (run collaborators _ words)

end

/-! ### A session to begin with -/

/-- What the command line finds where nothing is set. -/
def emptySession : Session Unit where
  env := []
  cwd := []
  stamp := ⟨"", ""⟩
  screen := {}
  world := ()

/-- Collaborators to whom nothing happens. -/
def idleCollaborators : Collaborators Unit where
  inspector _ := ⟨pure [], fun name => pure ⟨name, [], false⟩⟩
  publisher _ := ⟨fun _ => pure ()⟩
  alarm := ⟨fun _ => false, fun _ => pure ()⟩
  cycleBound _ := 1

end RegistrySync.CommandLine
