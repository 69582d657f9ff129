/-
Which handlers a request puts in force.

* `Asked` — the levels of a request;
* `planLogging_eq_ok_iff`, `exists_plan_iff` — when a request is refused;
* `Opens` — its log file can be opened, and where that is;
* `InForce` — the handlers in force are those of a request, and nothing else;
* `InForce.eq_iff` — they are the same for the same request, if its log file can be opened as
  before;
* `inForce_enact`, `fault_enact`, `quiet_enact`, `grows_enact` — what a plan leaves that is put
  in force.
-/
import RegistrySync.Proofs.Journal.Console
import RegistrySync.Proofs.Journal.LogFile

namespace RegistrySync.Journal

open Files (Path Tree)

variable {base : Whereabouts} {tree later : Tree} {request : LogRequest} {console file : Level}

/-! ### What is asked for -/

/-- The levels of a request: the file has that of the console unless it is given its own. -/
structure Asked (request : LogRequest) (console file : Level) : Prop where
  known : readLevel request.console = .ok console
  inherited : Unsaid request.fileLevel → file = console
  own : ∀ word ∈ request.fileLevel, ¬Unsaid request.fileLevel → readLevel word = .ok file

theorem Asked.unique {console' file' : Level} (h : Asked request console file)
    (h' : Asked request console' file') : console = console' ∧ file = file' := by
  have hconsole : console = console' := Except.ok.inj (h.known.symm.trans h'.known)
  refine ⟨hconsole, ?_⟩
  by_cases hsaid : Unsaid request.fileLevel
  · rw [h.inherited hsaid, h'.inherited hsaid, hconsole]
  · cases hword : request.fileLevel with
    | none => exact absurd (by rw [hword]; exact nofun) hsaid
    | some word =>
      exact Except.ok.inj ((h.own word hword hsaid).symm.trans (h'.own word hword hsaid))

theorem pos_of_readLevel {word : String} {level : Level} (h : readLevel word = .ok level) :
    0 < level.number := by
  unfold readLevel at h
  split at h
  · rename_i found hfound
    cases h
    unfold levelOf? at hfound
    split at hfound
    · cases hfound
      decide
    · exact Level.pos_of_mem_named (List.mem_of_find?_eq_some hfound)
  · cases h

/-- A level that a word names is never zero, so it is not taken for none. -/
theorem Asked.pos (h : Asked request console file) : 0 < console.number ∧ 0 < file.number := by
  refine ⟨pos_of_readLevel h.known, ?_⟩
  by_cases hsaid : Unsaid request.fileLevel
  · rw [h.inherited hsaid]
    exact pos_of_readLevel h.known
  · cases hword : request.fileLevel with
    | none => exact absurd (by rw [hword]; exact nofun) hsaid
    | some word => exact pos_of_readLevel (h.own word hword hsaid)

/-- The level of the file, once that of the console is known. -/
def fileLevelOf (request : LogRequest) (console : Level) : Except Fault Level :=
  if (Text.strip (request.fileLevel.getD "")).isEmpty then .ok console
  else readLevel (request.fileLevel.getD "")

theorem planLogging_eq (base : Whereabouts) (tree : Tree) (request : LogRequest) :
    planLogging base tree request = do
      let console ← readLevel request.console
      let file ← fileLevelOf request console
      let path ← logPath base tree request.file
      return ⟨console, file, path⟩ := by
  -- The plan asks for the level of the file in one branch or another, and goes on in each.
  unfold planLogging fileLevelOf
  refine congrArg _ (funext fun console => ?_)
  cases request.fileLevel with
  | none =>
    have hblank : (Text.strip ((none : Option String).getD "")).isEmpty = true := by decide
    rw [hblank]
    rfl
  | some word =>
    simp only [Option.getD_some]
    split <;> rfl

theorem asked_iff : Asked request console file ↔
    readLevel request.console = .ok console ∧ fileLevelOf request console = .ok file := by
  unfold fileLevelOf
  by_cases hsaid : Unsaid request.fileLevel
  · -- Nothing is said of the file, which then has the level of the console.
    rw [unsaid_iff.1 hsaid]
    constructor
    · rintro ⟨hknown, hinherited, -⟩
      exact ⟨hknown, by rw [hinherited hsaid]; rfl⟩
    · rintro ⟨hknown, hfile⟩
      exact ⟨hknown, fun _ => (Except.ok.inj hfile).symm, fun word _ hno => absurd hsaid hno⟩
  · rw [if_neg fun h => hsaid (unsaid_iff.2 (String.isEmpty_iff.1 h))]
    cases hword : request.fileLevel with
    | none => exact absurd (by rw [hword]; exact nofun) hsaid
    | some word =>
      constructor
      · rintro ⟨hknown, -, hown⟩
        exact ⟨hknown, hown word hword hsaid⟩
      · rintro ⟨hknown, hfile⟩
        refine ⟨hknown, fun h => absurd h hsaid, fun other hother _ => ?_⟩
        rw [hword] at hother
        cases hother
        exact hfile

/-- What the plan of a request is, and when there is none. -/
theorem planLogging_eq_ok_iff {plan : LogPlan} :
    planLogging base tree request = .ok plan ↔
      Asked request plan.console plan.file ∧ logPath base tree request.file = .ok plan.path := by
  obtain ⟨console, file, path⟩ := plan
  rw [planLogging_eq, asked_iff]
  constructor
  · intro h
    obtain ⟨console, hconsole, h⟩ := exists_ok_of_bind h
    obtain ⟨file, hfile, h⟩ := exists_ok_of_bind h
    obtain ⟨path, hpath, h⟩ := exists_ok_of_bind h
    cases h
    exact ⟨⟨hconsole, hfile⟩, hpath⟩
  · rintro ⟨⟨hconsole, hfile⟩, hpath⟩
    simp only [hconsole, hfile, hpath, bind, Except.bind, pure, Except.pure]

/-- When a request is not refused. -/
theorem exists_plan_iff : (∃ plan, planLogging base tree request = .ok plan) ↔
    (∃ console file, Asked request console file) ∧
      ∃ path, logPath base tree request.file = .ok path := by
  constructor
  · rintro ⟨plan, hplan⟩
    obtain ⟨hasked, hpath⟩ := planLogging_eq_ok_iff.1 hplan
    exact ⟨⟨_, _, hasked⟩, _, hpath⟩
  · rintro ⟨⟨console, file, hasked⟩, path, hpath⟩
    exact ⟨⟨console, file, path⟩, planLogging_eq_ok_iff.2 ⟨hasked, hpath⟩⟩

/-! ### Handlers in force -/

/-- A request asks for a log file that can be opened, at this place. -/
def Opens (base : Whereabouts) (tree : Tree) (request : LogRequest) (place : List String) : Prop :=
  ¬Unsaid request.file ∧ ∃ path, logPath base tree request.file = .ok (some path) ∧
    CanOpen tree base.cwd path ∧ place = path.absolute base.cwd

/-- A level is the least one of handlers. -/
def IsLeastLevel (level : Level) (handlers : List Handler) : Prop :=
  (∃ handler ∈ handlers, handler.level = level) ∧
    ∀ handler ∈ handlers, level.number ≤ handler.level.number

/-- The handlers in force are those of a request that found the tree like this. -/
structure InForce (base : Whereabouts) (tree : Tree) (request : LogRequest) (console file : Level)
    (opened : Option (List String)) (logging : Logging) : Prop where
  asked : Asked request console file
  opens : ∀ place, opened = some place ↔ Opens base tree request place
  handlers : logging.handlers =
    ⟨console, .console⟩ :: (opened.map fun place => Handler.mk file (.file place)).toList
  least : IsLeastLevel logging.level logging.handlers

theorem IsLeastLevel.unique {a b : Level} {handlers : List Handler} (ha : IsLeastLevel a handlers)
    (hb : IsLeastLevel b handlers) : a = b := by
  obtain ⟨⟨first, hfirst, rfl⟩, hleast⟩ := ha
  obtain ⟨⟨second, hsecond, rfl⟩, hleast'⟩ := hb
  exact Level.number_injective (Int.le_antisymm (hleast second hsecond) (hleast' first hfirst))

theorem isLeastLevel_singleton (handler : Handler) : IsLeastLevel handler.level [handler] :=
  ⟨⟨handler, List.mem_singleton_self _, rfl⟩,
    fun _ hmem => by cases List.mem_singleton.1 hmem; exact Int.le_refl _⟩

theorem isLeastLevel_lesser (first second : Handler) :
    IsLeastLevel (lesser first.level second.level) [first, second] := by
  unfold lesser
  split
  · rename_i hle
    exact ⟨⟨first, by simp, rfl⟩, by simpa using hle⟩
  · rename_i hlt
    exact ⟨⟨second, by simp, rfl⟩, by simpa using Int.le_of_not_le hlt⟩

variable {opened opened' : Option (List String)} {logging logging' : Logging}

theorem InForce.pos (h : InForce base tree request console file opened logging) :
    ∀ handler ∈ logging.handlers, 0 < handler.level.number := by
  rw [h.handlers]
  cases opened with
  | none => simpa using h.asked.pos.1
  | some place => simpa using h.asked.pos

/-- The same request leaves the same handlers and level exactly if its log file can be opened at
the same place, or neither time. -/
theorem InForce.eq_iff {console' file' : Level}
    (h : InForce base tree request console file opened logging)
    (h' : InForce base later request console' file' opened' logging')
    (hquiet : logging'.quiet = logging.quiet) :
    logging' = logging ↔
      ∀ place, Opens base later request place ↔ Opens base tree request place := by
  obtain ⟨rfl, rfl⟩ := h.asked.unique h'.asked
  constructor
  · rintro rfl place
    have hopened : opened' = opened := by
      have heq := h'.handlers.symm.trans h.handlers
      cases opened <;> cases opened' <;> simp at heq ⊢
      exact heq
    rw [← h.opens, ← h'.opens, hopened]
  · intro hsame
    have hopened : opened' = opened :=
      Option.ext fun place => ((h'.opens place).trans (hsame place)).trans (h.opens place).symm
    -- The handlers decide the level, and nothing else is left to differ.
    have hhandlers : logging'.handlers = logging.handlers := by
      rw [h.handlers, h'.handlers, hopened]
    have hlevel : logging'.level = logging.level :=
      h'.least.unique (by rw [hhandlers]; exact h.least)
    obtain ⟨handlers, level, quiet⟩ := logging
    obtain ⟨handlers', level', quiet'⟩ := logging'
    simp only at hhandlers hlevel hquiet
    rw [hhandlers, hlevel, hquiet]

/-! ### Putting a plan in force -/

variable {stamp : Stamp} {screen : Screen} {plan : LogPlan}

/-- With no handler for a file, a record leaves the files as they are. -/
theorem files_emit_of_console {level : Level} (h : logging.handlers = [⟨level, .console⟩])
    (stamp : Stamp) (record : Record) (screen : Screen) :
    (logging.emit stamp record screen).files = screen.files := by
  unfold Logging.emit
  rw [h]
  split
  · rfl
  · rw [List.filter_cons, List.filter_nil]
    simp only [List.isEmpty_cons, Bool.false_eq_true, if_false]
    split <;> rfl

/-- The files once a plan is in force. -/
theorem files_enact (base : Whereabouts) (stamp : Stamp) (logging : Logging) (screen : Screen)
    (plan : LogPlan) :
    (enact base stamp logging screen plan).screen.files =
      match plan.path with
      | none => screen.files
      | some path => (openLogFile base screen.files path).1 := by
  unfold enact
  cases plan.path with
  | none => rfl
  | some path =>
    simp only
    split
    · rename_i hresult
      rw [hresult]
    · rename_i hresult
      rw [hresult]
      exact files_emit_of_console rfl _ _ _
    · rename_i hresult
      rw [hresult]

theorem opens_iff {path : Path} (h : logPath base tree request.file = .ok (some path))
    {place : List String} :
    Opens base tree request place ↔
      CanOpen tree base.cwd path ∧ place = path.absolute base.cwd := by
  constructor
  · rintro ⟨-, other, hother, hopens⟩
    rw [h] at hother
    cases hother
    exact hopens
  · intro hopens
    refine ⟨fun hsaid => ?_, path, h, hopens⟩
    rw [logPath_of_unsaid hsaid] at h
    cases h

theorem not_opens_of_none (h : logPath base tree request.file = .ok none) (place : List String) :
    ¬Opens base tree request place := by
  rintro ⟨-, path, hpath, -⟩
  rw [h] at hpath
  cases hpath

theorem inForce_consoleOnly (hasked : Asked request console file)
    (hno : ∀ place, ¬Opens base tree request place) (logging : Logging) (quiet : QuietLevels) :
    InForce base tree request console file none
      { consoleOnly logging console with quiet := quiet } where
  asked := hasked
  opens place := iff_of_false nofun (hno place)
  handlers := rfl
  least := isLeastLevel_singleton _

/-- A plan that is put in force puts the handlers of its request in force, and its log file is
there. -/
theorem inForce_enact (hrooted : screen.files.Rooted)
    (hcwd : screen.files.find? base.cwd = some .directory)
    (h : planLogging base screen.files request = .ok plan) (stamp : Stamp) (logging : Logging) :
    ∃ opened, InForce base screen.files request plan.console plan.file opened
        (enact base stamp logging screen plan).logging ∧
      ∀ place, opened = some place → ∃ content,
        (enact base stamp logging screen plan).screen.files.find? place = some (.file content) := by
  obtain ⟨hasked, hpath⟩ := planLogging_eq_ok_iff.1 h
  unfold enact
  cases hplace : plan.path with
  | none =>
    rw [hplace] at hpath
    exact ⟨none, inForce_consoleOnly hasked (not_opens_of_none hpath) _ _, nofun⟩
  | some path =>
    rw [hplace] at hpath
    -- What is left of a file that cannot be opened is the console alone, whatever the reason is.
    obtain ⟨hcan, made, content, hresult, hfile⟩ | ⟨hno, made, fault, hresult⟩ :=
      openLogFile_cases hrooted hcwd path
    · simp only [hresult]
      refine ⟨some (path.absolute base.cwd),
        ⟨hasked, fun place => ?_, rfl, isLeastLevel_lesser _ _⟩, ?_⟩
      · rw [opens_iff hpath, Option.some.injEq]
        exact ⟨fun heq => ⟨hcan, heq.symm⟩, fun hopens => hopens.2.symm⟩
      · rintro place hsame
        cases hsame
        exact ⟨content, hfile⟩
    · have hnone : ∀ place, ¬Opens base screen.files request place :=
        fun place hopens => hno ((opens_iff hpath).1 hopens).1
      simp only [hresult]
      cases fault with
      | file fault => exact ⟨none, inForce_consoleOnly hasked hnone _ _, nofun⟩
      | nulCharacter =>
        exact ⟨none, inForce_consoleOnly hasked hnone logging logging.quiet, nofun⟩

/-- Only a NUL character in its path is found when a plan is put in force already. -/
theorem fault_enact (hrooted : screen.files.Rooted)
    (hcwd : screen.files.find? base.cwd = some .directory)
    (hnul : ∀ path ∈ plan.path, path.holdsNul = false) (stamp : Stamp) (logging : Logging) :
    (enact base stamp logging screen plan).fault = none := by
  unfold enact
  cases hplace : plan.path with
  | none => rfl
  | some path =>
    obtain ⟨made, ⟨hresult, -⟩ | ⟨fault, hresult, -⟩⟩ :=
      opened_openLogFile hrooted hcwd (hnul path hplace)
    · simp only [hresult]
    · simp only [hresult]

/-- A plan that is put in force holds the parts that talk too much to warnings, unless a fault ends
it before. -/
theorem quiet_enact_cases (base : Whereabouts) (stamp : Stamp) (logging : Logging)
    (screen : Screen) (plan : LogPlan) :
    (enact base stamp logging screen plan).logging.quiet = .warnings ∨
      (enact base stamp logging screen plan).fault ≠ none ∧
        (enact base stamp logging screen plan).logging.quiet = logging.quiet := by
  unfold enact
  split
  · exact Or.inl rfl
  · split
    · exact Or.inl rfl
    · exact Or.inl rfl
    · exact Or.inr ⟨Option.some_ne_none _, rfl⟩

theorem quiet_enact (h : (enact base stamp logging screen plan).fault = none) :
    (enact base stamp logging screen plan).logging.quiet = .warnings :=
  (quiet_enact_cases base stamp logging screen plan).resolve_right fun hfault => hfault.1 h

theorem quiet_enact_of_quiet (h : logging.quiet = .warnings) :
    (enact base stamp logging screen plan).logging.quiet = .warnings :=
  (quiet_enact_cases base stamp logging screen plan).elim id fun hsame => hsame.2.trans h

/-- Putting a plan in force, the tree grows. -/
theorem grows_enact (hrooted : screen.files.Rooted)
    (hcwd : screen.files.find? base.cwd = some .directory) (stamp : Stamp) (logging : Logging)
    (plan : LogPlan) :
    (enact base stamp logging screen plan).screen.files.Rooted ∧
      screen.files.Grows (enact base stamp logging screen plan).screen.files := by
  rw [files_enact]
  cases plan.path with
  | none => exact ⟨hrooted, Tree.Grows.refl _⟩
  | some path => exact grows_openLogFile hrooted hcwd path

end RegistrySync.Journal
