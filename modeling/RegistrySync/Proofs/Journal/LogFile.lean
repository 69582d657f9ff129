/-
Where the log file is, and whether it can be opened.

* `CanOpen` — the directories on the way can be made, and no directory is at its end;
* `Opened` — what opening a log file leaves;
* `opened_openLogFile` — it can be opened exactly if nothing of this is in the way;
* `Opened.canOpen_iff` — trying it does not change whether it can be opened;
* `logPath_again` — a path that is looked up once more is the same, is that of a directory by now,
  or is too long to be looked up.
-/
import RegistrySync.Journal.Configure
import RegistrySync.Proofs.Files.Making
import RegistrySync.Proofs.Text.Blank
import RegistrySync.Proofs.Text.Cut

namespace RegistrySync.Journal

open Files (Path Tree FileFault)

variable {base : Whereabouts} {tree after : Tree} {path : Path}

/-! ### Opening it -/

/-- A file can be opened at a path: there is no NUL character in it, nothing is in the way of the
directories that lead to the file, none of them is the place of the file itself, and there it is
not a directory and, unless it is there, not too long. -/
structure CanOpen (tree : Tree) (cwd : List String) (path : Path) : Prop where
  free : path.holdsNul = false
  way : tree.Clear cwd path.parent
  offWay : ¬path.parent.Passes cwd (path.absolute cwd)
  notDirectory : tree.find? (path.absolute cwd) ≠ some .directory
  short : tree.find? (path.absolute cwd) = none →
    (∀ name ∈ path.absolute cwd, Files.isLongName name = false) ∧
      Files.isLongPath (path.fullText cwd) = false

/-- What trying to open a log file leaves. -/
structure Opened (tree : Tree) (cwd : List String) (path : Path) (after : Tree)
    (opened : Prop) : Prop where
  rooted : after.Rooted
  grows : tree.Grows after
  /-- A new directory is one of those that lead to the file. -/
  directory : ∀ place, after.find? place = some .directory →
    tree.find? place = some .directory ∨ path.parent.Passes cwd place
  canOpen : opened ↔ CanOpen tree cwd path
  file : opened → ∃ content, after.find? (path.absolute cwd) = some (.file content)
  way : opened → ∀ place, path.parent.Passes cwd place → after.find? place = some .directory
  nothing : ¬opened → tree.find? (path.absolute cwd) = none →
    after.find? (path.absolute cwd) = none ∨ after.find? (path.absolute cwd) = some .directory

theorem openLog_of_file {cwd : List String} {content : String}
    (h : tree.find? (path.absolute cwd) = some (.file content)) :
    tree.openLog cwd path = .ok tree := by
  simp [Tree.openLog, h]

theorem openLog_of_directory {cwd : List String}
    (h : tree.find? (path.absolute cwd) = some .directory) :
    tree.openLog cwd path = .error ⟨.isDirectory, path.fullText cwd⟩ := by
  simp [Tree.openLog, h]

theorem openLog_of_none {cwd : List String} (h : tree.find? (path.absolute cwd) = none)
    (hfront : tree.find? (path.absolute cwd).dropLast = some .directory) :
    tree.openLog cwd path =
      if (path.absolute cwd).any Files.isLongName || Files.isLongPath (path.fullText cwd) then
        .error ⟨.nameTooLong, path.fullText cwd⟩
      else .ok (tree.put (path.absolute cwd) (.file "")) := by
  simp [Tree.openLog, h, hfront]

theorem holdsNul_parent (h : path.holdsNul = false) : path.parent.holdsNul = false := by
  unfold Path.holdsNul Path.parent at *
  rw [List.any_eq_false] at h ⊢
  exact fun name hname => h name ((List.dropLast_sublist _).subset hname)

/-- With directories on the way, a file that is not there has a directory to stand in. -/
theorem front_of_missing {cwd : List String} (hrooted : tree.Rooted)
    (hdirs : ∀ place, path.parent.Passes cwd place → tree.find? place = some .directory)
    (h : tree.find? (path.absolute cwd) = none) :
    tree.find? (path.absolute cwd).dropLast = some .directory := by
  obtain ⟨root, names⟩ := path
  -- The path is taken apart at its end; the induction serves for that alone, and its hypothesis
  -- is not used.
  induction names using List.reverseRecOn with
  | nil =>
    have hstart := hdirs _ (Path.along_start _ _)
    rw [show Path.absolute cwd ⟨root, []⟩ = Path.start cwd ⟨root, []⟩ from rfl] at h
    rw [show Path.start cwd (Path.parent ⟨root, []⟩) = Path.start cwd ⟨root, []⟩ from rfl,
      h] at hstart
    cases hstart
  | append_singleton names name _ =>
    have hparent : Path.parent ⟨root, names ++ [name]⟩ = ⟨root, names⟩ := by
      simp [Path.parent]
    rw [hparent] at hdirs
    have hplace : tree.find? (Path.absolute cwd ⟨root, names⟩) = some .directory :=
      hdirs _ (Path.along_end _ _)
    have hlast : Path.absolute cwd ⟨root, names ++ [name]⟩ =
        Path.follow (Path.absolute cwd ⟨root, names⟩) [name] := Path.follow_append _ _ _
    rw [hlast] at h ⊢
    rw [Tree.follow_of_missing hrooted hplace h, List.dropLast_concat, hplace]

/-- What is there with the directories on the way is there without them, or is one of them. -/
theorem find?_of_made {cwd : List String} {made : Tree} {fault : Option FileFault}
    (h : tree.Made cwd path.parent made fault) (place : List String) :
    tree.find? place = made.find? place ∨
      tree.find? place = none ∧ made.find? place = some .directory ∧
        path.parent.Passes cwd place := by
  obtain hsame | hmade := h.grown place
  · exact Or.inl hsame.symm
  · exact Or.inr hmade

/-- With nothing but the directories on the way made, the file is not opened. -/
theorem opened_of_made {cwd : List String} {made : Tree} {fault : Option FileFault}
    (h : tree.Made cwd path.parent made fault) (hno : ¬CanOpen tree cwd path) :
    Opened tree cwd path made False where
  rooted := h.rooted
  grows := h.grows
  directory place hd := by
    obtain hsame | ⟨-, -, hpassed⟩ := find?_of_made h place
    · exact Or.inl (by rw [hsame, hd])
    · exact Or.inr hpassed
  canOpen := iff_of_false id hno
  file hf := hf.elim
  way hf := hf.elim
  nothing _ hnone := by
    -- What is there now and was not before was made on the way, and is a directory.
    obtain hsame | ⟨-, hmade, -⟩ := find?_of_made h (path.absolute cwd)
    · exact Or.inl (by rw [← hsame, hnone])
    · exact Or.inr hmade

/-- A log file that is there is opened as it is. -/
theorem opened_of_file {cwd : List String} {made : Tree} {content : String}
    (hnul : path.holdsNul = false) (h : tree.Made cwd path.parent made none)
    (hfile : made.find? (path.absolute cwd) = some (.file content)) :
    Opened tree cwd path made True := by
  have htree := h.file_iff.1 hfile
  refine ⟨h.rooted, h.grows, fun place hd => ?_,
    iff_of_true trivial ⟨hnul, h.clear.1 rfl, ?_, ?_, ?_⟩,
    fun _ => ⟨content, hfile⟩, fun _ => h.directories rfl, fun hno => absurd trivial hno⟩
  · obtain hsame | ⟨-, -, hpassed⟩ := find?_of_made h place
    · exact Or.inl (by rw [hsame, hd])
    · exact Or.inr hpassed
  · intro hpassed
    rw [h.directories rfl _ hpassed] at hfile
    cases hfile
  · rw [htree]
    exact fun hd => nomatch hd
  · rw [htree]
    exact fun hnone => nomatch hnone

/-- A log file that is not there is made, if it is not too long. -/
theorem opened_of_none {cwd : List String} {made : Tree} (hnul : path.holdsNul = false)
    (h : tree.Made cwd path.parent made none) (hnone : made.find? (path.absolute cwd) = none)
    (hshort : (path.absolute cwd).any Files.isLongName = false ∧
      Files.isLongPath (path.fullText cwd) = false) :
    Opened tree cwd path (made.put (path.absolute cwd) (.file "")) True := by
  -- The root is always there, so a place where nothing is cannot be the root.
  have hroot : path.absolute cwd ≠ [] := by
    intro hroot
    rw [hroot] at hnone
    cases hnone
  have hfront := front_of_missing h.rooted (h.directories rfl) hnone
  have hgrows := Tree.Grows.put hnone (.file "")
  -- Making directories takes nothing away, so nothing was there before either.
  have htree : tree.find? (path.absolute cwd) = none := by
    obtain hsame | ⟨hmissing, -⟩ := find?_of_made h (path.absolute cwd)
    · rw [hsame, hnone]
    · exact hmissing
  refine ⟨h.rooted.put hfront fun hd => ?_, h.grows.trans hgrows, fun place hd => ?_,
    iff_of_true trivial ⟨hnul, h.clear.1 rfl, ?_, ?_, fun _ => ⟨?_, hshort.2⟩⟩,
    fun _ => ⟨"", Tree.find?_put_same _ _ hroot⟩,
    fun _ place hpassed => hgrows.directory (h.directories rfl place hpassed),
    fun hno => absurd trivial hno⟩
  · rw [hnone] at hd
    cases hd
  · by_cases hplace : place = path.absolute cwd
    · rw [hplace, Tree.find?_put_same _ _ hroot] at hd
      cases hd
    · -- The file is no directory, so every directory that is new was made on the way.
      rw [Tree.find?_put_other _ _ hplace] at hd
      obtain hsame | ⟨-, -, hpassed⟩ := find?_of_made h place
      · exact Or.inl (by rw [hsame, hd])
      · exact Or.inr hpassed
  · intro hpassed
    rw [h.directories rfl _ hpassed] at hnone
    cases hnone
  · rw [htree]
    exact fun hd => nomatch hd
  · intro name hname
    exact Bool.eq_false_iff.2 (List.any_eq_false.1 hshort.1 name hname)

/-- Opening a log file succeeds exactly if nothing is in the way. -/
theorem opened_openLogFile (hrooted : tree.Rooted) (hcwd : tree.find? base.cwd = some .directory)
    (hnul : path.holdsNul = false) :
    ∃ after, (openLogFile base tree path = (after, .ok (path.absolute base.cwd)) ∧
        Opened tree base.cwd path after True) ∨
      ∃ fault, openLogFile base tree path = (after, .error (.file fault)) ∧
        Opened tree base.cwd path after False := by
  have hmade : tree.Made base.cwd path.parent
      (tree.makeDirectories base.cwd path.parent path.parent.names.length).1
      (tree.makeDirectories base.cwd path.parent path.parent.names.length).2 :=
    Tree.made_makeDirectories hrooted hcwd path.root path.names.dropLast
  unfold openLogFile
  rw [holdsNul_parent hnul, hnul]
  simp only [Bool.false_eq_true, if_false]
  cases hresult : tree.makeDirectories base.cwd path.parent path.parent.names.length with
  | mk made fault =>
    rw [hresult] at hmade
    cases fault with
    | some fault =>
      have hno : ¬CanOpen tree base.cwd path := fun h => nomatch hmade.clear.2 h.way
      exact ⟨made, Or.inr ⟨fault, rfl, opened_of_made hmade hno⟩⟩
    | none =>
      -- Directories lead to the place of the file, and what is there decides.
      simp only
      cases hfind : made.find? (path.absolute base.cwd) with
      | some node =>
        cases node with
        | file content =>
          rw [openLog_of_file hfind]
          exact ⟨made, Or.inl ⟨rfl, opened_of_file hnul hmade hfind⟩⟩
        | directory =>
          rw [openLog_of_directory hfind]
          refine ⟨made, Or.inr ⟨_, rfl, opened_of_made hmade fun h => ?_⟩⟩
          obtain hsame | ⟨-, -, hpassed⟩ := find?_of_made hmade (path.absolute base.cwd)
          · exact h.notDirectory (by rw [hsame, hfind])
          · exact h.offWay hpassed
      | none =>
        have hfront := front_of_missing hmade.rooted (hmade.directories rfl) hfind
        rw [openLog_of_none hfind hfront]
        by_cases hlong : ((path.absolute base.cwd).any Files.isLongName ||
            Files.isLongPath (path.fullText base.cwd)) = true
        · rw [if_pos hlong]
          refine ⟨made, Or.inr ⟨_, rfl, opened_of_made hmade fun h => ?_⟩⟩
          obtain hsame | ⟨-, hdirectory, -⟩ := find?_of_made hmade (path.absolute base.cwd)
          · obtain ⟨hnames, htext⟩ := h.short (by rw [hsame, hfind])
            rw [htext, Bool.or_false, List.any_eq_true] at hlong
            obtain ⟨name, hname, hlong⟩ := hlong
            rw [hnames name hname] at hlong
            cases hlong
          · rw [hfind] at hdirectory
            cases hdirectory
        · rw [if_neg hlong]
          rw [Bool.not_eq_true, Bool.or_eq_false_iff] at hlong
          exact ⟨_, Or.inl ⟨rfl, opened_of_none hnul hmade hfind hlong⟩⟩

/-- A NUL character stops the opening of a log file, if nothing else has stopped it. -/
theorem openLogFile_of_holdsNul (base : Whereabouts) (tree : Tree) (hnul : path.holdsNul = true) :
    ∃ fault, (openLogFile base tree path).2 = .error fault := by
  unfold openLogFile
  split
  · exact ⟨_, rfl⟩
  · split
    · exact ⟨_, rfl⟩
    · exact ⟨_, rfl⟩

/-- Whatever becomes of a log file, the tree has grown. -/
theorem grows_openLogFile (hrooted : tree.Rooted) (hcwd : tree.find? base.cwd = some .directory)
    (path : Path) :
    (openLogFile base tree path).1.Rooted ∧ tree.Grows (openLogFile base tree path).1 := by
  -- A NUL in the path is found late: the directories may have been made by then.
  by_cases hnul : path.holdsNul = true
  · have hmade : tree.Made base.cwd path.parent
        (tree.makeDirectories base.cwd path.parent path.parent.names.length).1
        (tree.makeDirectories base.cwd path.parent path.parent.names.length).2 :=
      Tree.made_makeDirectories hrooted hcwd path.root path.names.dropLast
    unfold openLogFile
    split
    · exact ⟨hrooted, Tree.Grows.refl tree⟩
    · split
      · rename_i made fault hresult
        rw [hresult] at hmade
        exact ⟨hmade.rooted, hmade.grows⟩
      · rename_i made hresult
        rw [hresult] at hmade
        exact ⟨hmade.rooted, hmade.grows⟩
  · rw [Bool.not_eq_true] at hnul
    obtain ⟨after, ⟨hresult, hopened⟩ | ⟨fault, hresult, hopened⟩⟩ :=
      opened_openLogFile hrooted hcwd hnul
    · rw [hresult]
      exact ⟨hopened.rooted, hopened.grows⟩
    · rw [hresult]
      exact ⟨hopened.rooted, hopened.grows⟩

/-- A log file is opened exactly if it can be. -/
theorem openLogFile_cases (hrooted : tree.Rooted)
    (hcwd : tree.find? base.cwd = some .directory) (path : Path) :
    (CanOpen tree base.cwd path ∧ ∃ after content,
        openLogFile base tree path = (after, .ok (path.absolute base.cwd)) ∧
          after.find? (path.absolute base.cwd) = some (.file content)) ∨
      ¬CanOpen tree base.cwd path ∧
        ∃ after fault, openLogFile base tree path = (after, .error fault) := by
  by_cases hnul : path.holdsNul = true
  · obtain ⟨fault, hfault⟩ := openLogFile_of_holdsNul base tree hnul
    exact Or.inr ⟨fun h => Bool.noConfusion (hnul.symm.trans h.free), _, fault, Prod.ext rfl hfault⟩
  · rw [Bool.not_eq_true] at hnul
    obtain ⟨after, ⟨hresult, hopened⟩ | ⟨fault, hresult, hopened⟩⟩ :=
      opened_openLogFile hrooted hcwd hnul
    · obtain ⟨content, hfile⟩ := hopened.file trivial
      exact Or.inl ⟨hopened.canOpen.1 trivial, after, content, hresult, hfile⟩
    · exact Or.inr ⟨fun h => hopened.canOpen.2 h, after, _, hresult⟩

/-- Trying to open a log file does not change whether it can be opened. -/
theorem Opened.canOpen_iff {cwd : List String} {opened : Prop}
    (h : Opened tree cwd path after opened) : CanOpen after cwd path ↔ CanOpen tree cwd path := by
  constructor
  · intro hafter
    refine ⟨hafter.free, ⟨hafter.way.text, hafter.way.names, fun place content hpassed hfile => ?_⟩,
      hafter.offWay, fun hd => hafter.notDirectory (h.grows.directory hd), fun hnone => ?_⟩
    · obtain ⟨more, hmore⟩ := h.grows.file hfile
      exact hafter.way.free place _ hpassed hmore
    · -- If it was not opened, nothing can have come to be there but a directory.
      by_cases hopened : opened
      · exact (h.canOpen.1 hopened).short hnone
      · obtain hnothing | hdirectory := h.nothing hopened hnone
        · exact hafter.short hnothing
        · exact absurd hdirectory hafter.notDirectory
  · intro hbefore
    have hopened := h.canOpen.2 hbefore
    obtain ⟨content, hfile⟩ := h.file hopened
    refine ⟨hbefore.free,
      ⟨hbefore.way.text, hbefore.way.names, fun place content hpassed hfile => ?_⟩,
      hbefore.offWay, ?_, ?_⟩
    · rw [h.way hopened place hpassed] at hfile
      cases hfile
    · rw [hfile]
      exact fun hd => nomatch hd
    · rw [hfile]
      exact fun hnone => nomatch hnone

/-! ### Where it is -/

/-- What a word says, if it says anything but blanks. -/
def Unsaid (word : Option String) : Prop :=
  ∀ text ∈ word, ∀ c ∈ text.toList, Text.isBlank c = true

theorem unsaid_iff {word : Option String} : Unsaid word ↔ Text.strip (word.getD "") = "" := by
  cases word <;> simp [Unsaid]

/-- No NUL character is in a text, nor in the name of any home directory. -/
structure NulFree (base : Whereabouts) (given : Option String) : Prop where
  given : ∀ text ∈ given, Files.holdsNul text = false
  home : ∀ name, ∀ home ∈ homeOf? base name, Files.holdsNul home = false

theorem holdsNul_eq_false_iff {text : String} :
    Files.holdsNul text = false ↔ Char.ofNat 0 ∉ text.toList := by
  rw [Files.holdsNul, List.contains_eq_mem, decide_eq_false_iff_not]

theorem holdsNul_eq_false_iff_names :
    path.holdsNul = false ↔ ∀ name ∈ path.names, Files.holdsNul name = false := by
  simp [Path.holdsNul]

theorem holdsNul_ofText {text : String} (h : Files.holdsNul text = false) :
    (Path.ofText text).holdsNul = false := by
  rw [holdsNul_eq_false_iff_names]
  intro name hname
  obtain ⟨part, hpart, rfl⟩ := List.mem_map.1 (List.mem_filter.1 hname).1
  rw [holdsNul_eq_false_iff] at h ⊢
  rw [String.toList_ofList]
  exact fun hnul => h (Text.mem_of_mem_split hpart _ hnul)

theorem holdsNul_strip {text : String} (h : Files.holdsNul text = false) :
    Files.holdsNul (Text.strip text) = false := by
  rw [holdsNul_eq_false_iff] at h ⊢
  rw [Text.strip, String.toList_ofList]
  exact fun hnul => h ((Text.trim_sublist _).mem hnul)

theorem holdsNul_homePath? {home : String} (hhome : Files.holdsNul home = false) {found : Path}
    (h : homePath? home = some found) : found.holdsNul = false := by
  unfold homePath? at h
  split at h
  · cases h
  · cases h
    refine holdsNul_ofText ?_
    split
    · decide
    · rw [holdsNul_eq_false_iff] at hhome ⊢
      rw [String.toList_ofList]
      intro hnul
      have hmem := (List.dropWhile_sublist _).mem (List.mem_reverse.1 hnul)
      exact hhome (List.mem_reverse.1 hmem)

/-- A path without NUL characters that leads to a home directory leads there without them. -/
theorem holdsNul_expandHome
    (hhome : ∀ name, ∀ home ∈ homeOf? base name, Files.holdsNul home = false)
    {found : Path} (hpath : path.holdsNul = false) (h : expandHome base path = .ok found) :
    found.holdsNul = false := by
  unfold expandHome at h
  split at h
  · rename_i first rest hrooted hnames
    split at h
    · split at h
      · cases h
      · split at h
        · rename_i home hfound
          cases h
          -- The names are those of the home directory and those behind the one that stood for it.
          obtain ⟨text, htext, hplace⟩ := Option.bind_eq_some_iff.1 hfound
          have hfront := holdsNul_homePath? (hhome first text htext) hplace
          have hrest := holdsNul_eq_false_iff_names.1 hpath
          rw [hnames] at hrest
          rw [holdsNul_eq_false_iff_names] at hfront ⊢
          exact List.forall_mem_append.2 ⟨hfront, (List.forall_mem_cons.1 hrest).2⟩
        · cases h
    · cases h
      exact hpath
  · cases h
    exact hpath

variable {given : Option String}

theorem logPath_of_unsaid (h : Unsaid given) (tree : Tree) :
    logPath base tree given = .ok none := by
  simp [logPath, unsaid_iff.1 h]

/-- The log file at a path, once it is known whether that leads to a directory. -/
def logTarget (found : Path) : Except FileFault Bool → Except Fault (Option Path)
  | .ok true => .ok (some (found.child defaultLogName))
  | .ok false => .ok (some found)
  | .error fault => .error ⟨.unusablePath fault, none⟩

/-- Where the log file is, if one is asked for: it hangs on the tree by the question whether there
is a directory at its path, and not even that if the path is written as one of a directory. -/
theorem logPath_cases (hsaid : ¬Unsaid given) (hnul : NulFree base given) :
    (∃ fault, ∀ tree, logPath base tree given = .error fault) ∨
      ∃ found, found.holdsNul = false ∧
        ((∀ tree, logPath base tree given = .ok (some (found.child defaultLogName))) ∨
          ∀ tree : Tree, logPath base tree given =
            logTarget found (tree.askDirectory base.cwd found)) := by
  have hraw : Files.holdsNul (Text.strip (given.getD "")) = false := by
    refine holdsNul_strip ?_
    cases given with
    | none => decide
    | some text => exact hnul.given text rfl
  have hne : (Text.strip (given.getD "")).isEmpty = false := by
    rw [Bool.eq_false_iff]
    exact fun h => hsaid (unsaid_iff.2 (String.isEmpty_iff.1 h))
  cases hfound : expandHome base (Path.ofText (Text.strip (given.getD ""))) with
  | error fault =>
    refine Or.inl ⟨fault, fun tree => ?_⟩
    simp only [logPath, hne, hfound, Bool.false_eq_true, if_false]
  | ok found =>
    have hfree := holdsNul_expandHome hnul.home (holdsNul_ofText hraw) hfound
    refine Or.inr ⟨found, hfree, ?_⟩
    -- A slash at the end settles it without a look at the tree.
    by_cases hslash : ((Text.strip (given.getD "")).toList.getLast? == some '/') = true
    · refine Or.inl fun tree => ?_
      simp only [logPath, hne, hfound, hslash, Bool.false_eq_true, if_false, if_true]
    · refine Or.inr fun tree => ?_
      simp only [logPath, hne, hfound, hslash, hfree, Bool.false_eq_true, if_false]
      cases tree.askDirectory base.cwd found with
      | error fault => rfl
      | ok answer => cases answer <;> rfl

theorem holdsNul_child (h : path.holdsNul = false) :
    (path.child defaultLogName).holdsNul = false := by
  rw [holdsNul_eq_false_iff_names] at h ⊢
  exact List.forall_mem_append.2 ⟨h, List.forall_mem_singleton.2 (by decide)⟩

theorem logTarget_eq_some {found target : Path} {answer : Except FileFault Bool}
    (h : logTarget found answer = .ok (some target)) :
    answer = .ok true ∧ target = found.child defaultLogName ∨
      answer = .ok false ∧ target = found := by
  match answer, h with
  | .ok true, h =>
    cases h
    exact Or.inl ⟨rfl, rfl⟩
  | .ok false, h =>
    cases h
    exact Or.inr ⟨rfl, rfl⟩

theorem holdsNul_logPath (hnul : NulFree base given)
    (h : logPath base tree given = .ok (some path)) :
    path.holdsNul = false := by
  by_cases hsaid : Unsaid given
  · rw [logPath_of_unsaid hsaid] at h
    cases h
  obtain ⟨fault, hfault⟩ | ⟨found, hfree, hchild | hask⟩ := logPath_cases hsaid hnul
  · rw [hfault] at h
    cases h
  · rw [hchild] at h
    cases h
    exact holdsNul_child hfree
  · rw [hask] at h
    -- The tree decides between the path and the default name in it, and neither holds a NUL.
    obtain ⟨-, rfl⟩ | ⟨-, rfl⟩ := logTarget_eq_some h
    · exact holdsNul_child hfree
    · exact hfree

/-! ### Looking it up once more -/

theorem askDirectory_eq_true_iff {cwd : List String} :
    tree.askDirectory cwd path = .ok true ↔
      ∃ place, tree.locate cwd path = .ok place ∧ tree.find? place = some .directory := by
  unfold Tree.askDirectory
  cases hlocate : tree.locate cwd path with
  | ok place => simp
  | error trouble => cases trouble <;> simp

/-- A directory that is found at a path is found there in every tree that has grown from this one.
-/
theorem askDirectory_of_grows {cwd : List String} (h : tree.Grows after)
    (hask : tree.askDirectory cwd path = .ok true) : after.askDirectory cwd path = .ok true := by
  rw [askDirectory_eq_true_iff] at hask ⊢
  obtain ⟨place, hlocate, hdirectory⟩ := hask
  refine ⟨place, ?_, h.directory hdirectory⟩
  unfold Tree.locate at hlocate ⊢
  split at hlocate
  · cases hlocate
  · rename_i hshort
    rw [if_neg hshort]
    exact h.walk hlocate

/-- A path that is looked up once more is the same, is that of a directory by now, or is too long
to be looked up. -/
theorem logPath_again (hnul : NulFree base given) (hgrows : tree.Grows after) {target : Path}
    (h : logPath base tree given = .ok (some target)) :
    logPath base after given = .ok (some target) ∨
      (logPath base after given = .ok (some (target.child defaultLogName)) ∧
        tree.askDirectory base.cwd target = .ok false ∧
        after.askDirectory base.cwd target = .ok true) ∨
      ∃ fault, logPath base after given = .error fault := by
  by_cases hsaid : Unsaid given
  · rw [logPath_of_unsaid hsaid] at h
    cases h
  obtain ⟨fault, hfault⟩ | ⟨found, -, hchild | hask⟩ := logPath_cases hsaid hnul
  · rw [hfault] at h
    cases h
  · rw [hchild] at h ⊢
    exact Or.inl h
  · rw [hask] at h ⊢
    obtain ⟨hbefore, rfl⟩ | ⟨hbefore, rfl⟩ := logTarget_eq_some h
    · -- A directory stays one; but what was none may have become one.
      rw [askDirectory_of_grows hgrows hbefore]
      exact Or.inl rfl
    · cases hafter : after.askDirectory base.cwd target with
      | error fault => exact Or.inr (Or.inr ⟨_, rfl⟩)
      | ok answer =>
        cases answer with
        | true => exact Or.inr (Or.inl ⟨rfl, hbefore, rfl⟩)
        | false => exact Or.inl rfl

/-- A file that was opened does not lie at the path of a directory. -/
theorem Opened.askDirectory_ne_true {cwd : List String}
    (h : Opened tree cwd path after True) : after.askDirectory cwd path ≠ .ok true := by
  intro hask
  obtain ⟨place, hlocate, hdirectory⟩ := askDirectory_eq_true_iff.1 hask
  obtain ⟨content, hfile⟩ := h.file trivial
  have hplace : place = path.absolute cwd := by
    unfold Tree.locate at hlocate
    split at hlocate
    · cases hlocate
    · exact Tree.follow_of_walk hlocate
  rw [hplace, hfile] at hdirectory
  cases hdirectory

/-- Without going back, the directories on the way to a file that is not opened do not make a
directory at its place. -/
theorem Opened.goesBack {cwd : List String} {opened : Prop} (hrooted : tree.Rooted)
    (hcwd : tree.find? cwd = some .directory) (h : Opened tree cwd path after opened)
    (hbefore : tree.askDirectory cwd path ≠ .ok true)
    (hafter : after.askDirectory cwd path = .ok true) : ".." ∈ path.names := by
  by_contra hback
  obtain ⟨place, hlocate, hdirectory⟩ := askDirectory_eq_true_iff.1 hafter
  have hshort : Files.isLongPath path.text = false := by
    unfold Tree.locate at hlocate
    split at hlocate
    · cases hlocate
    · rename_i hshort
      exact Bool.eq_false_iff.2 hshort
  rw [Tree.locate_eq hshort] at hlocate
  have hplace := Tree.follow_of_walk hlocate
  rw [Path.follow_of_forward hback] at hplace
  -- The directories on the way are shorter than the whole path, unless it has no names at all.
  have hthere : tree.find? place = some .directory := by
    obtain hthere | ⟨front, hfront, hpassed⟩ := h.directory place hdirectory
    · exact hthere
    · have hnames := hfront.sublist.trans (List.dropLast_sublist path.names)
      rw [Path.follow_of_forward fun hmem => hback (hnames.mem hmem), hplace] at hpassed
      have hall : path.names = [] := by
        have hlength := hfront.length_le
        rw [List.append_cancel_left hpassed] at hlength
        change path.names.length ≤ path.names.dropLast.length at hlength
        rw [List.length_dropLast] at hlength
        exact List.length_eq_zero_iff.1 (by omega)
      rw [hplace, hall, List.append_nil]
      exact Tree.find?_start hcwd path
  refine hbefore (askDirectory_eq_true_iff.2 ⟨place, ?_, hthere⟩)
  rw [Tree.locate_eq hshort, hplace, ← Path.follow_of_forward hback]
  refine Tree.walk_of_directories (Tree.directory_of_walk hlocate).1 fun passed hpassed => ?_
  obtain ⟨front, ⟨rest, hrest⟩, rfl⟩ := hpassed
  have hforward : ".." ∉ front := fun hmem =>
    hback (by rw [← hrest]; exact List.mem_append_left _ hmem)
  rw [Path.follow_of_forward hforward]
  rw [hplace, ← hrest, ← List.append_assoc] at hthere
  exact hrooted.of_append hthere

end RegistrySync.Journal
