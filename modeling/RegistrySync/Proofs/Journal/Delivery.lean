/-
Where the records go that are written once logging has been set up.

* `Quiet`, `Reaches` — which records reach a handler of a level;
* `Scene.AllRefused`, `LastCall` — the last call that was not refused has its handlers in force;
* `exists_lastCall` — there is one if any call has returned;
* `emit_eq_foldl` — a record is written once to each handler that it reaches;
* `Delivered` — what records leave on the console and in files;
* `records_delivered` — that is what they leave, after any uses of logging.
-/
import RegistrySync.Proofs.Journal.Calls

namespace RegistrySync.Journal

open Files (Path Tree)

variable {base : Whereabouts} {tree : Tree} {request : LogRequest} {console file : Level}
variable {opened : Option (List String)} {logging : Logging} {stamp : Stamp} {screen : Screen}
variable {record : Record}

/-! ### What reaches a handler -/

/-- One of the parts of the program that talk too much, or a part of one. -/
def Quiet (source : String) : Prop :=
  ∃ name ∈ quietSources, source = name ∨ ∃ rest, source = name ++ "." ++ rest

theorem any_isPartOf_iff {source : String} :
    quietSources.any (isPartOf · source) = true ↔ Quiet source := by
  unfold isPartOf Quiet
  rw [List.any_eq_true]
  refine exists_congr fun name => and_congr_right fun _ => ?_
  rw [Bool.or_eq_true, beq_iff_eq, List.isPrefixOf_iff_prefix]
  refine or_congr_right ?_
  constructor
  · rintro ⟨rest, hrest⟩
    exact ⟨String.ofList rest, String.toList_injective (by simp [← hrest])⟩
  · rintro ⟨rest, rfl⟩
    exact ⟨rest.toList, by simp⟩

instance : DecidablePred Quiet := fun _ => decidable_of_iff _ any_isPartOf_iff

/-- A record reaches a handler of this level: it is serious enough for it, and a warning at least
if it comes from a part that talks too much. -/
def Reaches (level : Level) (record : Record) : Prop :=
  level.number ≤ record.level.number ∧
    (Quiet record.source → Level.warning.number ≤ record.level.number)

instance (level : Level) : DecidablePred (Reaches level) := fun _ => instDecidableAnd

/-- While the parts that talk too much are held to warnings, a record is written to a handler
exactly if it reaches it. -/
theorem accepts_and_takes_iff {handler : Handler} (hquiet : logging.quiet = .warnings)
    (hleast : logging.level.number ≤ handler.level.number) (hpos : 0 < handler.level.number) :
    logging.accepts record = true ∧ handler.takes record = true ↔ Reaches handler.level record := by
  unfold Logging.accepts Logging.threshold Handler.takes Reaches
  rw [hquiet, QuietLevels.inherited?_warnings, Bool.and_eq_true, decide_eq_true_iff,
    decide_eq_true_iff, decide_eq_true_iff]
  have hset (htakes : handler.level.number ≤ record.level.number) :
      Level.notset.number < record.level.number := Int.lt_of_lt_of_le hpos htakes
  -- A part that talks too much has a level of its own; all others have that of the logging, which
  -- no handler is below.
  by_cases hsource : quietSources.any (isPartOf · record.source) = true
  · rw [if_pos hsource]
    have hpart : Quiet record.source := any_isPartOf_iff.1 hsource
    exact ⟨fun ⟨⟨_, hwarning⟩, htakes⟩ => ⟨htakes, fun _ => hwarning⟩,
      fun ⟨htakes, hwarning⟩ => ⟨⟨hset htakes, hwarning hpart⟩, htakes⟩⟩
  · rw [if_neg hsource]
    exact ⟨fun ⟨_, htakes⟩ => ⟨htakes, fun hpart => absurd (any_isPartOf_iff.2 hpart) hsource⟩,
      fun ⟨htakes, _⟩ => ⟨⟨hset htakes, Int.le_trans hleast htakes⟩, htakes⟩⟩

/-- A record is written once to each handler that it reaches, in their order. -/
theorem emit_eq_foldl (h : InForce base tree request console file opened logging)
    (hquiet : logging.quiet = .warnings) (stamp : Stamp) (record : Record) (screen : Screen) :
    logging.emit stamp record screen =
      (logging.handlers.filter fun handler => Reaches handler.level record).foldl
        (fun screen handler => Logging.write stamp record screen handler.sink) screen := by
  have hreaches : ∀ handler ∈ logging.handlers, logging.accepts record = true ∧
      handler.takes record = true ↔ Reaches handler.level record :=
    fun handler hmem =>
      accepts_and_takes_iff hquiet (h.least.2 handler hmem) (h.pos handler hmem)
  cases haccepts : logging.accepts record with
  | false =>
    rw [Logging.emit_of_refused stamp screen haccepts]
    -- The level is the least one of the handlers, so a record that is dropped reaches none of them.
    have hnone : (logging.handlers.filter fun handler => Reaches handler.level record) = [] := by
      refine List.filter_eq_nil_iff.2 fun handler hmem => ?_
      rw [decide_eq_true_iff, ← hreaches handler hmem, haccepts]
      exact nofun
    rw [hnone, List.foldl_nil]
  | true =>
    have hsome : logging.handlers.isEmpty = false := by rw [h.handlers]; rfl
    have hsame : logging.handlers.filter (·.takes record) =
        logging.handlers.filter fun handler => Reaches handler.level record := by
      refine List.filter_congr fun handler hmem => ?_
      rw [Bool.eq_iff_iff, decide_eq_true_iff, ← hreaches handler hmem]
      exact (and_iff_right haccepts).symm
    simp only [Logging.emit, haccepts, hsome, hsame, Bool.not_true, Bool.false_eq_true, if_false]

/-! ### What is delivered -/

/-- The text that records leave with a handler: the lines of those that reach it, in their order. -/
def textOf (line : Stamp → Record → String) (level : Level) (notes : List (Stamp × Record)) :
    String :=
  String.join ((notes.filter fun note => Reaches level note.2).map fun note => line note.1 note.2)

@[simp] theorem textOf_nil (line : Stamp → Record → String) (level : Level) :
    textOf line level [] = "" := rfl

theorem textOf_cons (line : Stamp → Record → String) (level : Level) (note : Stamp × Record)
    (rest : List (Stamp × Record)) :
    textOf line level (note :: rest) =
      (if Reaches level note.2 then line note.1 note.2 else "") ++ textOf line level rest := by
  unfold textOf
  by_cases h : Reaches level note.2
  · simp [h]
  · simp [h]

/-- What records leave on the console and in files. -/
structure Delivered (console file : Level) (opened : Option (List String))
    (notes : List (Stamp × Record)) (before after : Screen) : Prop where
  onConsole : after.console = before.console ++ textOf consoleLine console notes
  inFile : ∀ place, opened = some place → ∃ content,
    before.files.find? place = some (.file content) ∧
      after.files.find? place = some (.file (content ++ textOf fileLine file notes))
  others : ∀ place, opened ≠ some place → after.files.find? place = before.files.find? place

/-- What one record leaves. -/
theorem emit_of_inForce (h : InForce base tree request console file opened logging)
    (hquiet : logging.quiet = .warnings) (stamp : Stamp) (record : Record) (screen : Screen) :
    (logging.emit stamp record screen).console =
        screen.console ++ (if Reaches console record then consoleLine stamp record else "") ∧
      (∀ place, opened = some place → (logging.emit stamp record screen).files =
        if Reaches file record then screen.files.append place (fileLine stamp record)
        else screen.files) ∧
      (opened = none → (logging.emit stamp record screen).files = screen.files) := by
  rw [emit_eq_foldl h hquiet, h.handlers]
  cases opened with
  | none =>
    refine ⟨?_, fun _ hnone => (by cases hnone), fun _ => ?_⟩
    · by_cases hconsole : Reaches console record <;> simp [hconsole, Logging.write]
    · by_cases hconsole : Reaches console record <;> simp [hconsole, Logging.write]
  | some place =>
    refine ⟨?_, fun other hother => ?_, fun hnone => by cases hnone⟩
    · by_cases hconsole : Reaches console record <;> by_cases hfile : Reaches file record <;>
        simp [hconsole, hfile, Logging.write]
    · cases hother
      by_cases hconsole : Reaches console record <;> by_cases hfile : Reaches file record <;>
        simp [hconsole, hfile, Logging.write]

theorem delivered_emit (h : InForce base tree request console file opened logging)
    (hquiet : logging.quiet = .warnings)
    (hpresent : ∀ place, opened = some place → ∃ content,
      screen.files.find? place = some (.file content)) (stamp : Stamp) (record : Record) :
    Delivered console file opened [(stamp, record)] screen (logging.emit stamp record screen) := by
  obtain ⟨hconsole, hfile, hnone⟩ := emit_of_inForce h hquiet stamp record screen
  refine ⟨by rw [hconsole, textOf_cons, textOf_nil, String.append_empty], fun place hopened => ?_,
    fun place hother => ?_⟩
  · obtain ⟨content, hcontent⟩ := hpresent place hopened
    refine ⟨content, hcontent, ?_⟩
    rw [hfile place hopened, textOf_cons, textOf_nil, String.append_empty]
    split
    · -- The record reaches the file, or the file holds what it held.
      exact Tree.find?_append hcontent _
    · rw [hcontent, String.append_empty]
  · cases hopened : opened with
    | none => rw [hnone hopened]
    | some own =>
      rw [hfile own hopened]
      split
      · exact Tree.find?_append_other _ _ fun heq => hother (by rw [hopened, heq])
      · rfl

theorem Delivered.cons {note : Stamp × Record} {rest : List (Stamp × Record)}
    {before between after : Screen} (h : Delivered console file opened [note] before between)
    (h' : Delivered console file opened rest between after) :
    Delivered console file opened (note :: rest) before after where
  onConsole := by
    rw [h'.onConsole, h.onConsole, textOf_cons, textOf_cons, textOf_nil, String.append_empty,
      String.append_assoc]
  inFile place hopened := by
    obtain ⟨content, hbefore, hbetween⟩ := h.inFile place hopened
    obtain ⟨content', hbetween', hafter⟩ := h'.inFile place hopened
    rw [hbetween] at hbetween'
    cases hbetween'
    refine ⟨content, hbefore, ?_⟩
    rw [hafter, textOf_cons, textOf_cons, textOf_nil, String.append_empty, String.append_assoc]
  others place hother := by rw [h'.others place hother, h.others place hother]

/-- What records leave, one after another. -/
theorem delivered_notes {scene : Scene}
    (h : InForce base tree request console file opened scene.logging)
    (hquiet : scene.logging.quiet = .warnings)
    (hpresent : ∀ place, opened = some place → ∃ content,
      scene.screen.files.find? place = some (.file content)) (notes : List (Stamp × Record)) :
    Delivered console file opened notes scene.screen
      (scene.afterAll base (notes.map fun note => .write note.1 note.2)).screen := by
  induction notes generalizing scene with
  | nil =>
    refine ⟨by simp [Scene.afterAll], fun place hopened => ?_, fun place _ => rfl⟩
    obtain ⟨content, hcontent⟩ := hpresent place hopened
    exact ⟨content, hcontent, by simpa [Scene.afterAll] using hcontent⟩
  | cons note rest ih =>
    -- The rest finds the log file as this record has left it.
    have hfirst := delivered_emit h hquiet hpresent note.1 note.2
    refine hfirst.cons
      (@ih (scene.after base (.write note.1 note.2)) h hquiet fun place hopened => ?_)
    obtain ⟨content, -, hcontent⟩ := hfirst.inFile place hopened
    exact ⟨_, hcontent⟩

/-! ### The last call that was not refused -/

namespace Scene

/-- All calls among these uses are refused. -/
def AllRefused (base : Whereabouts) (scene : Scene) : List Use → Prop
  | [] => True
  | use :: rest => (∀ stamp request, use = .setUp stamp request →
      ∃ fault, planLogging base scene.screen.files request = .error fault) ∧
        AllRefused base (scene.after base use) rest

/-- Some call among these uses returns. -/
def SomeReturns (base : Whereabouts) (scene : Scene) (uses : List Use) : Prop :=
  ∃ earlier stamp request later, uses = earlier ++ .setUp stamp request :: later ∧
    ((scene.afterAll base earlier).call base stamp request).fault = none

variable {scene : Scene}

theorem afterAll_append (earlier later : List Use) :
    scene.afterAll base (earlier ++ later) = (scene.afterAll base earlier).afterAll base later :=
  List.foldl_append

theorem logging_after_of_refused {use : Use} (h : ∀ stamp request, use = .setUp stamp request →
    ∃ fault, planLogging base scene.screen.files request = .error fault) :
    (scene.after base use).logging = scene.logging := by
  cases use with
  | write stamp record => rfl
  | setUp stamp request =>
    obtain ⟨fault, hfault⟩ := h stamp request rfl
    change (scene.call base stamp request).logging = scene.logging
    rw [call_of_refused hfault]

/-- Calls that are refused leave the logging as it was. -/
theorem AllRefused.logging_eq {uses : List Use} (h : scene.AllRefused base uses) :
    (scene.afterAll base uses).logging = scene.logging := by
  induction uses generalizing scene with
  | nil => rfl
  | cons use rest ih => exact (ih h.2).trans (logging_after_of_refused h.1)

theorem AllRefused.of_append {earlier later : List Use}
    (h : scene.AllRefused base (earlier ++ later)) :
    (scene.afterAll base earlier).AllRefused base later := by
  induction earlier generalizing scene with
  | nil => exact h
  | cons use rest ih => exact ih h.2

theorem SomeReturns.not_allRefused {uses : List Use} (h : scene.SomeReturns base uses) :
    ¬scene.AllRefused base uses := by
  obtain ⟨earlier, stamp, request, later, rfl, hreturned⟩ := h
  intro hrefused
  obtain ⟨fault, hfault⟩ := hrefused.of_append.1 stamp request rfl
  rw [call_of_refused hfault] at hreturned
  cases hreturned

theorem quiet_after (h : scene.logging.quiet = .warnings) (use : Use) :
    (scene.after base use).logging.quiet = .warnings := by
  cases use with
  | write stamp record => exact h
  | setUp stamp request =>
    change (scene.call base stamp request).logging.quiet = .warnings
    cases hplan : planLogging base scene.screen.files request with
    | error fault => rwa [call_of_refused hplan]
    | ok plan =>
      rw [call_of_planned hplan]
      exact quiet_enact_of_quiet h

theorem quiet_afterAll (h : scene.logging.quiet = .warnings) (uses : List Use) :
    (scene.afterAll base uses).logging.quiet = .warnings := by
  induction uses generalizing scene with
  | nil => exact h
  | cons use rest ih => exact ih (quiet_after h use)

/-- The parts that talk too much are held to warnings from the first call on that returns. -/
theorem SomeReturns.quiet {uses : List Use} (h : scene.SomeReturns base uses) :
    (scene.afterAll base uses).logging.quiet = .warnings := by
  obtain ⟨earlier, stamp, request, later, rfl, hreturned⟩ := h
  rw [afterAll_append]
  refine @quiet_afterAll _ ((scene.afterAll base earlier).after base (.setUp stamp request)) ?_
    later
  change ((scene.afterAll base earlier).call base stamp request).logging.quiet = .warnings
  cases hplan : planLogging base (scene.afterAll base earlier).screen.files request with
  | error fault =>
    rw [call_of_refused hplan] at hreturned
    cases hreturned
  | ok plan =>
    rw [call_of_planned hplan] at hreturned ⊢
    exact quiet_enact hreturned

end Scene

/-- The last call that was not refused, between earlier and later uses: its handlers are in force,
and its log file is there. It has returned, or there is a NUL character in the path of its log
file. -/
structure LastCall (base : Whereabouts) (scene : Scene) (earlier : List Use) (stamp : Stamp)
    (request : LogRequest) (later : List Use) (console file : Level)
    (opened : Option (List String)) : Prop where
  returned : ((scene.afterAll base earlier).call base stamp request).fault = none ∨
    ∃ path, logPath base (scene.afterAll base earlier).screen.files request.file = .ok (some path) ∧
      path.holdsNul = true
  refused : ((scene.afterAll base earlier).call base stamp request).scene.AllRefused base later
  inForce : InForce base (scene.afterAll base earlier).screen.files request console file opened
    (scene.afterAll base (earlier ++ .setUp stamp request :: later)).logging
  present : ∀ place, opened = some place → ∃ content,
    (scene.afterAll base (earlier ++ .setUp stamp request :: later)).screen.files.find? place =
      some (.file content)

variable {scene : Scene}

/-- A call that is not refused, with none but refused calls behind it. -/
theorem lastCall_of_planned {plan : LogPlan} {later : List Use} (hgrounded : scene.Grounded base)
    (hplan : planLogging base scene.screen.files request = .ok plan)
    (hrefused : (scene.call base stamp request).scene.AllRefused base later) :
    ∃ opened, LastCall base scene [] stamp request later plan.console plan.file opened := by
  obtain ⟨opened, hforce, hpresent⟩ :=
    inForce_enact hgrounded.rooted hgrounded.cwd hplan stamp scene.logging
  rw [← Scene.call_of_planned hplan] at hforce hpresent
  obtain ⟨hnext, -⟩ := Scene.grows_after hgrounded (.setUp stamp request)
  refine ⟨opened, ?_, hrefused, ?_, fun place hopened => ?_⟩
  · change (scene.call base stamp request).fault = none ∨
      ∃ path, logPath base scene.screen.files request.file = .ok (some path) ∧ path.holdsNul = true
    -- A call that is not refused can end with a fault for one reason only.
    by_cases hfree : ∀ path ∈ plan.path, path.holdsNul = false
    · rw [Scene.call_of_planned hplan]
      exact Or.inl (fault_enact hgrounded.rooted hgrounded.cwd hfree stamp scene.logging)
    · simp only [not_forall, Bool.not_eq_false, exists_prop] at hfree
      obtain ⟨path, hpath, hnul⟩ := hfree
      rw [(planLogging_eq_ok_iff.1 hplan).2, Option.mem_def.1 hpath]
      exact Or.inr ⟨path, rfl, hnul⟩
  · change InForce base scene.screen.files request plan.console plan.file opened
      ((scene.call base stamp request).scene.afterAll base later).logging
    rw [hrefused.logging_eq]
    exact hforce
  · obtain ⟨content, hcontent⟩ := hpresent place hopened
    obtain ⟨more, hmore⟩ := (Scene.grows_afterAll hnext later).2.file hcontent
    exact ⟨_, hmore⟩

/-- Unless all calls are refused, there is a last one that is not. -/
theorem exists_lastCall (hgrounded : scene.Grounded base) {uses : List Use}
    (h : ¬scene.AllRefused base uses) :
    ∃ earlier stamp request later console file opened,
      uses = earlier ++ .setUp stamp request :: later ∧
        LastCall base scene earlier stamp request later console file opened := by
  induction uses generalizing scene with
  | nil => exact absurd trivial h
  | cons use rest ih =>
    by_cases hrest : (scene.after base use).AllRefused base rest
    · -- None of the later calls counts, so this use is the last call.
      have huse : ¬∀ stamp request, use = .setUp stamp request →
          ∃ fault, planLogging base scene.screen.files request = .error fault :=
        fun hrefused => h ⟨hrefused, hrest⟩
      simp only [not_forall] at huse
      obtain ⟨stamp, request, rfl, hok⟩ := huse
      cases hplan : planLogging base scene.screen.files request with
      | error fault => exact absurd ⟨fault, hplan⟩ hok
      | ok plan =>
        obtain ⟨opened, hlast⟩ :=
          @lastCall_of_planned base request stamp scene plan rest hgrounded hplan hrest
        exact ⟨[], stamp, request, rest, _, _, opened, rfl, hlast⟩
    · obtain ⟨earlier, stamp, request, later, console, file, opened, rfl, hlast⟩ :=
        ih (Scene.grows_after hgrounded use).1 hrest
      exact ⟨use :: earlier, stamp, request, later, console, file, opened, rfl,
        ⟨hlast.returned, hlast.refused, hlast.inForce, hlast.present⟩⟩

/-- After any uses of logging of which one call has returned, the handlers of the last call that
was not refused are in force. Each record that is written from then on leaves one line on the
console if it is as serious as the console asks for, and one line in the log file, if there is
one, if it is as serious as the file asks for, those of parts that talk too much being warnings at
least; the lines come in the order of the records, and no file loses what it held. -/
theorem records_delivered (hgrounded : scene.Grounded base) {uses : List Use}
    (hreturned : scene.SomeReturns base uses) (notes : List (Stamp × Record)) :
    let before := scene.afterAll base uses
    let after := before.afterAll base (notes.map fun note => .write note.1 note.2)
    ∃ earlier stamp request later console file opened,
      uses = earlier ++ .setUp stamp request :: later ∧
        LastCall base scene earlier stamp request later console file opened ∧
        Delivered console file opened notes before.screen after.screen ∧
        scene.screen.files.Grows after.screen.files := by
  intro before after
  -- A call with a NUL in its path returns a fault, but its handlers are in force all the same; so
  -- it is the last call that was not refused that counts.
  obtain ⟨earlier, stamp, request, later, console, file, opened, rfl, hlast⟩ :=
    exists_lastCall hgrounded hreturned.not_allRefused
  obtain ⟨hbefore, hgrows⟩ :=
    Scene.grows_afterAll hgrounded (earlier ++ .setUp stamp request :: later)
  exact ⟨earlier, stamp, request, later, console, file, opened, rfl, hlast,
    delivered_notes hlast.inForce hreturned.quiet hlast.present notes,
    hgrows.trans (Scene.grows_afterAll hbefore _).2⟩

/-- A file that takes more than the console, a call that is refused behind it, and a part that
talks too much. -/
theorem records_delivered_debug_file :
    let base : Whereabouts := { cwd := ["srv"], home := none }
    let scene : Scene := ⟨{}, "", Tree.put {} ["srv"] .directory⟩
    let stamp : Stamp := ⟨"2001-09-09 01:46:40", "000"⟩
    let uses : List Use := [.setUp stamp ⟨"info", none, none⟩,
      .setUp stamp ⟨"warning", some "logs/", some "debug"⟩, .setUp stamp ⟨"chatty", none, none⟩]
    let notes : List (Stamp × Record) := [(stamp, ⟨.debug, "docker.api", "pull"⟩),
      (stamp, ⟨.debug, Source.commandLine, "detail"⟩), (stamp, ⟨.warning, "redis", "retry"⟩)]
    let before := scene.afterAll base uses
    let after := before.afterAll base (notes.map fun note => .write note.1 note.2)
    scene.Grounded base ∧ scene.SomeReturns base uses ∧
      (∃ console file opened, Delivered console file opened notes before.screen after.screen) ∧
      after.screen.console =
        "2001-09-09 01:46:40 [redis] WARNING: retry\n" ∧
      after.screen.files.find? ["srv", "logs", "beachhead-companion.log"] = some (.file
        ("2001-09-09 01:46:40,000 DEBUG beachhead_companion.cli: detail\n" ++
          "2001-09-09 01:46:40,000 WARNING redis: retry\n")) := by
  intro base scene stamp uses notes before after
  have hgrounded : scene.Grounded base := grounded_alone _ _ _
  -- It is enough that the first call has returned.
  have hreturned : scene.SomeReturns base uses :=
    ⟨[], stamp, ⟨"info", none, none⟩, _, rfl, by decide +kernel⟩
  obtain ⟨-, -, -, -, console, file, opened, -, -, hdelivered, -⟩ :=
    records_delivered hgrounded hreturned notes
  exact ⟨hgrounded, hreturned, ⟨console, file, opened, hdelivered⟩, by decide +kernel,
    by decide +kernel⟩

end RegistrySync.Journal
