/-
Logging that is set up and written to any number of times.

* `Scene`, `Use`, `Scene.afterAll` — what is left of any uses of logging;
* `Scene.grows_afterAll` — files keep what they hold;
* `Turned`, `Retried` — what has become of a log file that was tried;
* `call_again` — when a call that is repeated leaves the same;
* `handlers_of_call` — what a call leaves, after any uses, and what it leaves when it is repeated;
* `file_on_second_call` — a log file that is opened only when the call is repeated.
-/
import RegistrySync.Proofs.Journal.Handlers

namespace RegistrySync.Journal

open Files (Path Tree)

variable {base : Whereabouts} {tree later : Tree} {request : LogRequest} {console file : Level}
variable {opened : Option (List String)} {logging : Logging} {stamp : Stamp} {screen : Screen}
variable {plan : LogPlan}

/-! ### Writing -/

/-- Writing to a sink, the tree grows. -/
theorem grows_write (h : screen.files.Rooted) (stamp : Stamp) (record : Record) (sink : Sink) :
    (Logging.write stamp record screen sink).files.Rooted ∧
      screen.files.Grows (Logging.write stamp record screen sink).files := by
  cases sink with
  | console => exact ⟨h, Tree.Grows.refl _⟩
  | file place => exact ⟨h.append place _, Tree.Grows.append _ place _⟩

theorem grows_foldl_write (h : screen.files.Rooted) (stamp : Stamp) (record : Record)
    (handlers : List Handler) :
    (handlers.foldl (fun screen handler => Logging.write stamp record screen handler.sink)
        screen).files.Rooted ∧
      screen.files.Grows (handlers.foldl
        (fun screen handler => Logging.write stamp record screen handler.sink) screen).files := by
  induction handlers generalizing screen with
  | nil => exact ⟨h, Tree.Grows.refl _⟩
  | cons handler rest ih =>
    obtain ⟨hrooted, hgrows⟩ := grows_write h stamp record handler.sink
    obtain ⟨hrooted', hgrows'⟩ := ih hrooted
    exact ⟨hrooted', hgrows.trans hgrows'⟩

/-- Writing a record, the tree grows. -/
theorem grows_emit (h : screen.files.Rooted) (logging : Logging) (stamp : Stamp) (record : Record) :
    (logging.emit stamp record screen).files.Rooted ∧
      screen.files.Grows (logging.emit stamp record screen).files := by
  unfold Logging.emit
  split
  · exact ⟨h, Tree.Grows.refl _⟩
  · split
    · unfold Logging.lastResort
      split <;> exact ⟨h, Tree.Grows.refl _⟩
    · exact grows_foldl_write h stamp record _

/-! ### Any number of times -/

/-- The logging in force, and what is on the console and in files. -/
structure Scene where
  logging : Logging
  screen : Screen

/-- What setting up logging leaves for the next use. -/
def Setup.scene (setup : Setup) : Scene := ⟨setup.logging, setup.screen⟩

/-- One use of logging: it is set up, or a record is written. -/
inductive Use where
  | setUp (stamp : Stamp) (request : LogRequest)
  | write (stamp : Stamp) (record : Record)

namespace Scene

/-- A tree of files in which every node stands in a directory, the working directory among them. -/
structure Grounded (base : Whereabouts) (scene : Scene) : Prop where
  rooted : scene.screen.files.Rooted
  cwd : scene.screen.files.find? base.cwd = some .directory

/-- Set up logging. -/
def call (base : Whereabouts) (scene : Scene) (stamp : Stamp) (request : LogRequest) : Setup :=
  configure base stamp scene.logging scene.screen request

variable {scene : Scene} {stamp : Stamp}

theorem call_of_refused {fault : Fault}
    (h : planLogging base scene.screen.files request = .error fault) :
    scene.call base stamp request = ⟨scene.logging, scene.screen, some fault⟩ :=
  configure_of_refused stamp scene.logging h

theorem call_of_planned {plan : LogPlan}
    (h : planLogging base scene.screen.files request = .ok plan) :
    scene.call base stamp request = enact base stamp scene.logging scene.screen plan := by
  simp only [call, configure, h]

/-- What one use leaves. -/
def after (base : Whereabouts) (scene : Scene) : Use → Scene
  | .setUp stamp request => (scene.call base stamp request).scene
  | .write stamp record => ⟨scene.logging, scene.logging.emit stamp record scene.screen⟩

/-- What uses leave, one after another. -/
def afterAll (base : Whereabouts) (scene : Scene) (uses : List Use) : Scene :=
  uses.foldl (after base) scene

/-- One use leaves the tree grown. -/
theorem grows_after (h : scene.Grounded base) (use : Use) :
    (scene.after base use).Grounded base ∧
      scene.screen.files.Grows (scene.after base use).screen.files := by
  have hgrows : (scene.after base use).screen.files.Rooted ∧
      scene.screen.files.Grows (scene.after base use).screen.files := by
    cases use with
    | write stamp record => exact grows_emit h.rooted _ stamp record
    | setUp stamp request =>
      change (scene.call base stamp request).screen.files.Rooted ∧
        scene.screen.files.Grows (scene.call base stamp request).screen.files
      -- Only a call that is not refused touches the files.
      cases hplan : planLogging base scene.screen.files request with
      | error fault =>
        rw [call_of_refused hplan]
        exact ⟨h.rooted, Tree.Grows.refl _⟩
      | ok plan =>
        rw [call_of_planned hplan]
        exact grows_enact h.rooted h.cwd stamp scene.logging plan
  exact ⟨⟨hgrows.1, hgrows.2.directory h.cwd⟩, hgrows.2⟩

/-- Any number of uses leave the tree grown. -/
theorem grows_afterAll (h : scene.Grounded base) (uses : List Use) :
    (scene.afterAll base uses).Grounded base ∧
      scene.screen.files.Grows (scene.afterAll base uses).screen.files := by
  induction uses generalizing scene with
  | nil => exact ⟨h, Tree.Grows.refl _⟩
  | cons use rest ih =>
    obtain ⟨hnext, hgrows⟩ := grows_after h use
    obtain ⟨hlast, hgrows'⟩ := ih hnext
    exact ⟨hlast, hgrows.trans hgrows'⟩

end Scene

/-- A tree that holds the working directory alone. -/
theorem grounded_alone (logging : Logging) (console : String) (name : String) :
    Scene.Grounded { cwd := [name], home := none }
      ⟨logging, console, Tree.put {} [name] .directory⟩ where
  rooted := Tree.rooted_empty.put rfl fun _ => rfl
  cwd := Tree.find?_put_same _ _ (List.cons_ne_nil _ _)

/-- Where there are no home directories, only the text itself can hold a NUL character. -/
theorem nulFree_homeless {cwd : List String} {given : Option String}
    (h : ∀ text ∈ given, Files.holdsNul text = false) :
    NulFree { cwd := cwd, home := none } given where
  given := h
  home name home hhome := by
    unfold homeOf? at hhome
    split at hhome <;> cases hhome

/-! ### The same once more -/

theorem child_ne (path : Path) (name : String) : path ≠ path.child name := by
  intro h
  have hnames := congrArg (fun path => path.names.length) h
  simp [Path.child] at hnames

/-- The directories that were made on the way have turned the path of a log file into that of a
directory. -/
structure Turned (base : Whereabouts) (before after : Tree) (request : LogRequest) (path : Path) :
    Prop where
  before : logPath base before request.file = .ok (some path)
  after : logPath base after request.file = .ok (some (path.child defaultLogName))

theorem Turned.unique {path other : Path} (h : Turned base tree later request path)
    (h' : Turned base tree later request other) : path = other :=
  Option.some.inj (Except.ok.inj (h.before.symm.trans h'.before))

theorem not_turned_of_eq {found : Option Path} (h : logPath base tree request.file = .ok found)
    (h' : logPath base later request.file = .ok found) (path : Path) :
    ¬Turned base tree later request path := by
  rintro ⟨hbefore, hafter⟩
  rw [h] at hbefore
  rw [h', hbefore] at hafter
  exact child_ne path _ (Option.some.inj (Except.ok.inj hafter))

/-- What has become of a log file that was tried: it can be opened where it could, or its path has
been turned. -/
inductive Retried (base : Whereabouts) (before after : Tree) (request : LogRequest) : Prop where
  | same (unturned : ∀ path, ¬Turned base before after request path)
      (opens : ∀ place, Opens base after request place ↔ Opens base before request place)
  | turned (path : Path) (turned : Turned base before after request path)
      (goesBack : ".." ∈ path.names) (unopened : ∀ place, ¬Opens base before request place)

namespace Retried

theorem goesBack_of_turned (h : Retried base tree later request) {path : Path}
    (hturned : Turned base tree later request path) : ".." ∈ path.names := by
  cases h with
  | same unturned opens => exact absurd hturned (unturned path)
  | turned other turned goesBack unopened => rwa [hturned.unique turned]

theorem opens_iff (h : Retried base tree later request) :
    (∀ place, Opens base later request place ↔ Opens base tree request place) ↔
      ∀ path, Turned base tree later request path →
        ¬CanOpen later base.cwd (path.child defaultLogName) := by
  cases h with
  | same unturned opens => exact iff_of_true opens fun path h => absurd h (unturned path)
  | turned path turned goesBack unopened =>
    have hlater : ∀ place, Opens base later request place ↔
        CanOpen later base.cwd (path.child defaultLogName) ∧
          place = (path.child defaultLogName).absolute base.cwd :=
      fun place => Journal.opens_iff turned.after
    constructor
    · -- Before the call there was nothing to be opened at that place.
      intro hsame other hother hcan
      rw [← turned.unique hother] at hcan
      exact unopened _ ((hsame _).1 ((hlater _).2 ⟨hcan, rfl⟩))
    · intro hno place
      exact iff_of_false (fun h => hno path turned ((hlater place).1 h).1) (unopened place)

end Retried

/-- A log file whose path is known still once it was tried. -/
theorem retried_openLogFile (hrooted : tree.Rooted) (hcwd : tree.find? base.cwd = some .directory)
    (hnul : NulFree base request.file) {path : Path} {again : Option Path}
    (h : logPath base tree request.file = .ok (some path))
    (hagain : logPath base (openLogFile base tree path).1 request.file = .ok again) :
    Retried base tree (openLogFile base tree path).1 request := by
  obtain ⟨made, hmade⟩ := opened_openLogFile hrooted hcwd (holdsNul_logPath hnul h)
  obtain ⟨opened, hresult, hopened⟩ : ∃ opened : Prop, (openLogFile base tree path).1 = made ∧
      Opened tree base.cwd path made opened := by
    obtain ⟨hresult, hopened⟩ | ⟨fault, hresult, hopened⟩ := hmade
    · exact ⟨True, by rw [hresult], hopened⟩
    · exact ⟨False, by rw [hresult], hopened⟩
  rw [hresult] at hagain ⊢
  obtain hsame | ⟨hturned, hbefore, hafter⟩ | ⟨fault, hfault⟩ := logPath_again hnul hopened.grows h
  · refine .same (not_turned_of_eq h hsame) fun place => ?_
    rw [opens_iff hsame, opens_iff h, hopened.canOpen_iff]
  · refine .turned path ⟨h, hturned⟩ ?_ fun place hopens => ?_
    · exact hopened.goesBack hrooted hcwd (by rw [hbefore]; exact nofun) hafter
    · -- Had it been opened, there would be a file at the end of its path.
      have htrue := hopened.canOpen.2 ((opens_iff h).1 hopens).1
      rw [eq_true htrue] at hopened
      exact hopened.askDirectory_ne_true hafter
  · rw [hfault] at hagain
    cases hagain

theorem retried_enact (hrooted : screen.files.Rooted)
    (hcwd : screen.files.find? base.cwd = some .directory) (hnul : NulFree base request.file)
    (h : logPath base screen.files request.file = .ok plan.path) {again : Option Path}
    (hagain : logPath base (enact base stamp logging screen plan).screen.files request.file =
      .ok again) :
    Retried base screen.files (enact base stamp logging screen plan).screen.files request := by
  rw [files_enact] at hagain ⊢
  cases hplace : plan.path with
  | none =>
    rw [hplace] at h
    exact .same (not_turned_of_eq h h) fun place => Iff.rfl
  | some path =>
    rw [hplace] at h hagain
    exact retried_openLogFile hrooted hcwd hnul h hagain

/-- What a call leaves, and the same call once more. -/
structure CallLeaves (base : Whereabouts) (before : Scene) (request : LogRequest)
    (once twice : Setup) : Prop where
  returns : once.fault = none ↔ (∃ console file, Asked request console file) ∧
    ∃ path, logPath base before.screen.files request.file = .ok path
  inForce : once.fault = none → ∃ console file opened,
    InForce base before.screen.files request console file opened once.logging
  quiet : once.fault = none → once.logging.quiet = .warnings
  untouched : once.fault ≠ none → once.logging = before.logging
  repeated : twice.logging = once.logging ↔
    ∀ path, Turned base before.screen.files once.screen.files request path →
      ¬CanOpen once.screen.files base.cwd (path.child defaultLogName)
  goesBack : ∀ path, Turned base before.screen.files once.screen.files request path →
    ".." ∈ path.names

/-- The same call once more leaves the same if its log file is not known any more, or can be
opened where it could. -/
theorem call_again {scene : Scene} (hgrounded : scene.Grounded base)
    (hforce : InForce base tree request console file opened scene.logging)
    (hquiet : scene.logging.quiet = .warnings) (stamp : Stamp) :
    (∀ path, logPath base scene.screen.files request.file ≠ .ok path) ∧
        (scene.call base stamp request).logging = scene.logging ∨
      (∃ path, logPath base scene.screen.files request.file = .ok path) ∧
        ((scene.call base stamp request).logging = scene.logging ↔ ∀ place,
          Opens base scene.screen.files request place ↔ Opens base tree request place) := by
  cases hplan : planLogging base scene.screen.files request with
  | error fault =>
    rw [Scene.call_of_refused hplan]
    refine Or.inl ⟨fun path hpath => ?_, rfl⟩
    -- The levels are those of the call before, so that only the path can have it refused.
    have hplanned : ∃ plan, planLogging base scene.screen.files request = .ok plan :=
      exists_plan_iff.2 ⟨⟨console, file, hforce.asked⟩, path, hpath⟩
    obtain ⟨plan, hok⟩ := hplanned
    rw [hplan] at hok
    cases hok
  | ok plan =>
    refine Or.inr ⟨⟨plan.path, (planLogging_eq_ok_iff.1 hplan).2⟩, ?_⟩
    obtain ⟨opened', hforce', -⟩ :=
      inForce_enact hgrounded.rooted hgrounded.cwd hplan stamp scene.logging
    rw [Scene.call_of_planned hplan]
    refine hforce.eq_iff hforce' ?_
    rw [hquiet, quiet_enact_of_quiet hquiet]

/-- A call that is refused leaves everything as it was, and is refused once more. -/
theorem callLeaves_refused {before : Scene} {fault : Fault} (stamp again : Stamp)
    (hplan : planLogging base before.screen.files request = .error fault) :
    CallLeaves base before request (before.call base stamp request)
      ((before.call base stamp request).scene.call base again request) := by
  rw [Scene.call_of_refused hplan]
  have hsame : ∀ path, ¬Turned base before.screen.files before.screen.files request path := by
    rintro path ⟨hbefore, hafter⟩
    exact child_ne path _ (Option.some.inj (Except.ok.inj (hbefore.symm.trans hafter)))
  refine ⟨?_, nofun, nofun, fun _ => rfl, ?_, fun path h => absurd h (hsame path)⟩
  · rw [← exists_plan_iff, hplan]
    exact iff_of_false nofun fun ⟨plan, h⟩ => nomatch h
  · refine iff_of_true ?_ fun path h => absurd h (hsame path)
    change (before.call base again request).logging = before.logging
    rw [Scene.call_of_refused hplan]

/-- A call that is not refused puts its handlers in force. -/
theorem callLeaves_planned {before : Scene} {plan : LogPlan} (stamp again : Stamp)
    (hgrounded : before.Grounded base) (hnul : NulFree base request.file)
    (hplan : planLogging base before.screen.files request = .ok plan) :
    CallLeaves base before request (before.call base stamp request)
      ((before.call base stamp request).scene.call base again request) := by
  obtain ⟨hasked, hpath⟩ := planLogging_eq_ok_iff.1 hplan
  obtain ⟨hrooted, hcwd⟩ := hgrounded
  have hfree : ∀ path ∈ plan.path, path.holdsNul = false := by
    intro path hmem
    rw [Option.mem_def.1 hmem] at hpath
    exact holdsNul_logPath hnul hpath
  have hfault : (enact base stamp before.logging before.screen plan).fault = none :=
    fault_enact hrooted hcwd hfree stamp before.logging
  obtain ⟨opened, hforce, -⟩ := inForce_enact hrooted hcwd hplan stamp before.logging
  have hgrown := grows_enact hrooted hcwd stamp before.logging plan
  have hretried : ∀ {again}, logPath base
      (enact base stamp before.logging before.screen plan).screen.files request.file = .ok again →
        Retried base before.screen.files
          (enact base stamp before.logging before.screen plan).screen.files request :=
    fun hagain => retried_enact hrooted hcwd hnul hpath hagain
  have hcall := @call_again base _ request _ _ _
    (enact base stamp before.logging before.screen plan).scene
    ⟨hgrown.1, hgrown.2.directory hcwd⟩ hforce (quiet_enact hfault) again
  rw [Scene.call_of_planned hplan]
  refine ⟨iff_of_true hfault (exists_plan_iff.1 ⟨plan, hplan⟩), fun _ => ⟨_, _, _, hforce⟩,
    fun _ => quiet_enact hfault, fun h => absurd hfault h, ?_,
    fun path hturned => (hretried hturned.after).goesBack_of_turned hturned⟩
  -- A path that has become too long to be looked up has the second call refused.
  obtain ⟨hgone, hsame⟩ | ⟨⟨known, hknown⟩, hiff⟩ := hcall
  · exact iff_of_true hsame fun path h => absurd h.after (hgone _)
  · exact hiff.trans (hretried hknown).opens_iff

/-- After any uses of logging, a call that returns leaves the handlers of its request and no
others, the least level, and the parts that talk too much held to warnings, and a call that is
refused leaves the logging as it was. Repeated, it leaves the same, unless the directories that it
made have turned the path of its log file into that of a directory in which a file can be opened;
such a path goes back on its way. -/
theorem handlers_of_call {scene : Scene} (hgrounded : scene.Grounded base)
    (hnul : NulFree base request.file) (uses : List Use) (stamp again : Stamp) :
    let before := scene.afterAll base uses
    let once := before.call base stamp request
    CallLeaves base before request once (once.scene.call base again request) := by
  intro before once
  cases hplan : planLogging base before.screen.files request with
  | error fault => exact callLeaves_refused stamp again hplan
  | ok plan =>
    exact callLeaves_planned stamp again (Scene.grows_afterAll hgrounded uses).1 hnul hplan

/-- A directory that was made on the way out of it again: at first there is a directory in the
place of the log file, and then there is one at its path. -/
theorem file_on_second_call :
    let base : Whereabouts := { cwd := ["srv"], home := none }
    let scene : Scene := ⟨{}, "", Tree.put {} ["srv"] .directory⟩
    let stamp : Stamp := ⟨"2001-09-09 01:46:40", "000"⟩
    let request : LogRequest := ⟨"INFO", some "x/..", none⟩
    let once := scene.call base stamp request
    let twice := once.scene.call base stamp request
    (scene.Grounded base ∧ NulFree base request.file) ∧
      (once.fault = none ∧ once.logging.handlers = [⟨.info, .console⟩]) ∧
      twice.fault = none ∧ twice.logging.handlers =
        [⟨.info, .console⟩, ⟨.info, .file ["srv", "beachhead-companion.log"]⟩] := by
  refine ⟨⟨grounded_alone _ _ _, nulFree_homeless ?_⟩, ?_, ?_⟩
  · decide +kernel
  · decide +kernel
  · decide +kernel

/-- Handlers that nobody asked for, a call that is refused and one whose file cannot be opened are
all forgotten. -/
theorem handlers_of_call_debug_file :
    let base : Whereabouts := { cwd := ["srv"], home := none }
    let found : Logging := { handlers := [⟨.error, .console⟩, ⟨⟨15⟩, .file ["old"]⟩]
                             level := .notset
                             quiet := { docker := .debug, urllib3 := ⟨35⟩ } }
    let scene : Scene := ⟨found, "", Tree.put {} ["srv"] .directory⟩
    let stamp : Stamp := ⟨"2001-09-09 01:46:40", "000"⟩
    let uses : List Use := [.setUp stamp ⟨"INFO", some "x/..", none⟩,
      .setUp stamp ⟨"chatty", none, none⟩, .write stamp ⟨.info, Source.commandLine, "ready"⟩]
    let request : LogRequest := ⟨"warning", some " logs/ ", some "debug"⟩
    let once := (scene.afterAll base uses).call base stamp request
    scene.Grounded base ∧ NulFree base request.file ∧ once.fault = none ∧
      (∃ console file opened, InForce base (scene.afterAll base uses).screen.files request console
        file opened once.logging) ∧
      once.logging = ⟨[⟨.warning, .console⟩, ⟨.debug, .file ["srv", "logs",
        "beachhead-companion.log"]⟩], .debug, .warnings⟩ ∧
      (once.scene.call base stamp request).logging = once.logging := by
  intro base found scene stamp uses request once
  have hgrounded : scene.Grounded base := grounded_alone _ _ _
  have hnul : NulFree base request.file := nulFree_homeless (by decide +kernel)
  have hleaves : CallLeaves base (scene.afterAll base uses) request once
      (once.scene.call base stamp request) := handlers_of_call hgrounded hnul uses stamp stamp
  have hreturned : once.fault = none := by decide +kernel
  -- The slash at the end settles the path before and after the call, so that the second one finds
  -- the same file.
  have hpath : logPath base (scene.afterAll base uses).screen.files request.file =
      .ok (some ⟨.relative, ["logs", "beachhead-companion.log"]⟩) := by decide +kernel
  have hagain : logPath base once.screen.files request.file =
      .ok (some ⟨.relative, ["logs", "beachhead-companion.log"]⟩) := by decide +kernel
  refine ⟨hgrounded, hnul, hreturned, hleaves.inForce hreturned, by decide +kernel, ?_⟩
  exact hleaves.repeated.2 fun path hturned => absurd hturned (not_turned_of_eq hpath hagain path)

end RegistrySync.Journal
