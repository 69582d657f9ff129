/-
Making all directories along a path.

* `Clear` — nothing is in the way of directories along a path: there is no file on it, and neither
  a name nor the whole of it is too long;
* `Made` — what making them leaves: directories where nothing was, all along the path if the way
  was clear, and a fault if it was not;
* `made_ensureDirectory` — one directory, when those in front of it are there;
* `made_makeDirectories` — all of them, by induction on the names of the path, the last one first.
-/
import RegistrySync.Proofs.Files.Walking
import Mathlib.Data.List.Induction

namespace RegistrySync.Files

namespace Tree

open Files.Path (follow)

/-- Nothing is in the way of directories along a path. -/
structure Clear (tree : Tree) (cwd : List String) (path : Path) : Prop where
  text : isLongPath path.text = false
  names : ∀ name ∈ path.names, isLongName name = false
  free : ∀ passed content, path.Passes cwd passed → tree.find? passed ≠ some (.file content)

/-- What making the directories along a path leaves, and the fault if there is one. -/
structure Made (tree : Tree) (cwd : List String) (path : Path) (made : Tree)
    (fault : Option FileFault) : Prop where
  rooted : made.Rooted
  grown : ∀ place, made.find? place = tree.find? place ∨
    tree.find? place = none ∧ made.find? place = some .directory ∧ path.Passes cwd place
  clear : fault = none ↔ tree.Clear cwd path
  directories : fault = none → ∀ place, path.Passes cwd place → made.find? place = some .directory

variable {tree made : Tree} {cwd : List String} {path : Path} {root : Root} {names : List String}
  {name : String} {fault : Option FileFault}

/-! ### Long paths -/

theorem utf8ByteSize_intercalate_concat (sep : String) (names : List String) (name : String) :
    (sep.intercalate names).utf8ByteSize ≤ (sep.intercalate (names ++ [name])).utf8ByteSize := by
  induction names with
  | nil => simp
  | cons first rest ih =>
    have hmore : rest ++ [name] ≠ [] := by simp
    rw [List.cons_append, String.intercalate_cons_of_ne_nil hmore]
    cases rest with
    | nil =>
      rw [String.intercalate_singleton, String.utf8ByteSize_append, String.utf8ByteSize_append]
      omega
    | cons second others =>
      rw [String.intercalate_cons_of_ne_nil (List.cons_ne_nil _ _)]
      simp only [String.utf8ByteSize_append]
      omega

/-- The way to a path that is not too long is not too long either. -/
theorem isLongPath_of_concat (h : isLongPath (Path.text ⟨root, names ++ [name]⟩) = false) :
    isLongPath (Path.text ⟨root, names⟩) = false := by
  have hsize := utf8ByteSize_intercalate_concat "/" names name
  unfold isLongPath Path.text at *
  cases root with
  | relative =>
    cases names with
    | nil => decide
    | cons first rest =>
      simp only [Bool.false_eq_true, if_false, List.isEmpty_cons, List.cons_append,
        decide_eq_false_iff_not] at h hsize ⊢
      omega
  | single =>
    simp only [String.utf8ByteSize_append, decide_eq_false_iff_not] at h ⊢
    omega
  | double =>
    simp only [String.utf8ByteSize_append, decide_eq_false_iff_not] at h ⊢
    omega

/-! ### What is left -/

theorem Clear.of_concat (h : tree.Clear cwd ⟨root, names ++ [name]⟩) :
    tree.Clear cwd ⟨root, names⟩ where
  text := isLongPath_of_concat h.text
  names := fun other hother => h.names other (List.mem_append_left _ hother)
  free := fun passed content hpassed =>
    h.free passed content (Path.along_concat_iff.2 (Or.inl hpassed))

namespace Made

theorem grows (h : tree.Made cwd path made fault) : tree.Grows made where
  directory {place} hd := by
    obtain hsame | ⟨hnone, -⟩ := h.grown place
    · rw [hsame, hd]
    · rw [hd] at hnone
      cases hnone
  file {place content} hf := by
    obtain hsame | ⟨hnone, -⟩ := h.grown place
    · exact ⟨"", by rw [hsame, hf, String.append_empty]⟩
    · rw [hf] at hnone
      cases hnone

/-- Files are where they were. -/
theorem file_iff (h : tree.Made cwd path made fault) {place : List String} {content : String} :
    made.find? place = some (.file content) ↔ tree.find? place = some (.file content) := by
  obtain hsame | ⟨hnone, hmade, -⟩ := h.grown place
  · rw [hsame]
  · rw [hnone, hmade]
    exact ⟨fun hf => (nomatch hf), fun hf => (nomatch hf)⟩

theorem clear_iff (h : tree.Made cwd path made fault) {other : Path} :
    made.Clear cwd other ↔ tree.Clear cwd other := by
  constructor
  · intro hclear
    exact ⟨hclear.text, hclear.names, fun passed content hpassed hf =>
      hclear.free passed content hpassed (h.file_iff.2 hf)⟩
  · intro hclear
    exact ⟨hclear.text, hclear.names, fun passed content hpassed hf =>
      hclear.free passed content hpassed (h.file_iff.1 hf)⟩

/-- Where something is in the way, nothing may be made. -/
theorem refused (hrooted : tree.Rooted) (h : ¬tree.Clear cwd path) (fault : FileFault) :
    tree.Made cwd path tree (some fault) where
  rooted := hrooted
  grown _ := Or.inl rfl
  clear := ⟨fun hf => (nomatch hf), fun hclear => absurd hclear h⟩
  directories hf := nomatch hf

/-- Where there are directories all along, none has to be made. -/
theorem present (hrooted : tree.Rooted) (htext : isLongPath path.text = false)
    (hshort : ∀ name ∈ path.names, isLongName name = false)
    (hdirs : ∀ place, path.Passes cwd place → tree.find? place = some .directory) :
    tree.Made cwd path tree none where
  rooted := hrooted
  grown _ := Or.inl rfl
  clear := by
    refine iff_of_true rfl ⟨htext, hshort, fun place content hpassed hfile => ?_⟩
    rw [hdirs place hpassed] at hfile
    cases hfile
  directories _ := hdirs

/-- One directory at the end of a path, where nothing was, when those in front of it are there. -/
theorem put {front : Path} {next : List String} (hrooted : tree.Rooted)
    (htext : isLongPath path.text = false)
    (hshort : ∀ name ∈ path.names, isLongName name = false)
    (hdirs : ∀ place, front.Passes cwd place → tree.find? place = some .directory)
    (hpasses : ∀ place, path.Passes cwd place ↔ front.Passes cwd place ∨ place = next)
    (hnext : tree.find? next = none) (hparent : tree.find? next.dropLast = some .directory) :
    tree.Made cwd path (tree.put next .directory) none where
  rooted := hrooted.put hparent fun _ => rfl
  grown place := by
    by_cases heq : place = next
    · subst heq
      refine Or.inr ⟨hnext, find?_put_same _ _ ?_, (hpasses place).2 (Or.inr rfl)⟩
      rintro rfl
      cases hnext
    · exact Or.inl (find?_put_other _ _ heq)
  clear := by
    -- There is no file on the way: up to the last directory there are only directories, and
    -- nothing was at the last place.
    refine iff_of_true rfl ⟨htext, hshort, fun place content hpassed hfile => ?_⟩
    obtain hpassed | rfl := (hpasses place).1 hpassed
    · rw [hdirs place hpassed] at hfile
      cases hfile
    · rw [hnext] at hfile
      cases hfile
  directories _ place hpassed := by
    obtain hpassed | rfl := (hpasses place).1 hpassed
    · exact (Grows.put hnext _).directory (hdirs place hpassed)
    · refine find?_put_same _ _ ?_
      rintro rfl
      cases hnext

end Made

/-! ### One directory -/

theorem find?_start (hcwd : tree.find? cwd = some .directory) (path : Path) :
    tree.find? (path.start cwd) = some .directory := by
  unfold Path.start
  split
  · rfl
  · exact hcwd

theorem locate_concat (htext : isLongPath (Path.text ⟨root, names ++ [name]⟩) = false) :
    tree.locate cwd ⟨root, names ++ [name]⟩ =
      (tree.locate cwd ⟨root, names⟩).bind fun place => tree.walk place [name] := by
  rw [locate_eq htext, locate_eq (isLongPath_of_concat htext)]
  exact walk_append _ _ _

/-- What is there is not made, and it had better be a directory. -/
theorem ensureDirectory_of_located {place : List String} (h : tree.locate cwd path = .ok place) :
    tree.ensureDirectory cwd path =
      (tree, if tree.find? place = some .directory then none
        else some ⟨.alreadyThere, path.text⟩) := by
  have hmake : tree.makeDirectory cwd path = .error .alreadyThere := by simp [makeDirectory, h]
  simp [ensureDirectory, hmake, isDirectory, lookup, h]

theorem makeDirectory_of_trouble {trouble : PathTrouble}
    (h : tree.locate cwd path = .error trouble) (htrouble : trouble ≠ .missing) :
    tree.makeDirectory cwd path = .error trouble := by
  unfold makeDirectory
  rw [h]
  cases trouble with
  | missing => exact absurd rfl htrouble
  | _ => rfl

/-- What stops the way to a path other than a missing place stops the path being made. -/
theorem ensureDirectory_of_trouble {trouble : PathTrouble}
    (h : tree.locate cwd path = .error trouble) (htrouble : trouble ≠ .missing) :
    tree.ensureDirectory cwd path = (tree, some ⟨trouble, path.text⟩) := by
  simp [ensureDirectory, makeDirectory_of_trouble h htrouble, isDirectory, lookup, h]

theorem ensureDirectory_of_missing {place : List String}
    (h : tree.locate cwd ⟨root, names ++ [name]⟩ = .error .missing)
    (hparent : tree.locate cwd ⟨root, names⟩ = .ok place)
    (hplace : tree.find? place = some .directory) :
    tree.ensureDirectory cwd ⟨root, names ++ [name]⟩ =
      (tree.put (place ++ [name]) .directory, none) := by
  have hmake : tree.makeDirectory cwd ⟨root, names ++ [name]⟩ =
      .ok (tree.put (place ++ [name]) .directory) := by
    simp [makeDirectory, h, Path.parent, hparent, hplace]
  simp [ensureDirectory, hmake]

/-- In front of a place that is not there stands no pair of dots. -/
theorem follow_of_missing (hrooted : tree.Rooted) {place : List String}
    (hplace : tree.find? place = some .directory) (h : tree.find? (follow place [name]) = none) :
    follow place [name] = place ++ [name] := by
  unfold follow at h ⊢
  split at h
  · -- Two dots lead to a directory that is there already.
    exfalso
    by_cases hroot : place = []
    · subst hroot
      cases h
    · rw [show follow place.dropLast [] = place.dropLast from rfl,
        hrooted _ _ hroot hplace] at h
      cases h
  · rename_i hdots
    rw [if_neg hdots]
    rfl

theorem passes_concat_iff {place : List String} :
    Path.Passes cwd ⟨root, names ++ [name]⟩ place ↔
      Path.Passes cwd ⟨root, names⟩ place ∨
        place = follow (Path.absolute cwd ⟨root, names⟩) [name] := by
  unfold Path.Passes
  rw [Path.along_concat_iff, Path.follow_append]
  exact Iff.rfl

/-- One directory, when those in front of it are there. -/
theorem made_ensureDirectory (hrooted : tree.Rooted)
    (htext : isLongPath (Path.text ⟨root, names ++ [name]⟩) = false)
    (hshort : ∀ name ∈ names, isLongName name = false)
    (hdirs : ∀ place, Path.Passes cwd ⟨root, names⟩ place →
      tree.find? place = some .directory) :
    tree.Made cwd ⟨root, names ++ [name]⟩
      (tree.ensureDirectory cwd ⟨root, names ++ [name]⟩).1
      (tree.ensureDirectory cwd ⟨root, names ++ [name]⟩).2 := by
  have hwalk : tree.locate cwd ⟨root, names⟩ = .ok (Path.absolute cwd ⟨root, names⟩) := by
    rw [locate_eq (isLongPath_of_concat htext)]
    exact walk_of_directories hshort hdirs
  have hplace : tree.find? (Path.absolute cwd ⟨root, names⟩) = some .directory :=
    hdirs _ (Path.along_end _ _)
  have hlocate : tree.locate cwd ⟨root, names ++ [name]⟩ =
      tree.walk (Path.absolute cwd ⟨root, names⟩) [name] := by
    rw [locate_concat htext, hwalk]
    rfl
  have hpasses : ∀ place, Path.Passes cwd ⟨root, names ++ [name]⟩ place ↔
      Path.Passes cwd ⟨root, names⟩ place ∨
        place = follow (Path.absolute cwd ⟨root, names⟩) [name] := fun _ => passes_concat_iff
  generalize Path.absolute cwd ⟨root, names⟩ = parent at hwalk hplace hlocate hpasses
  by_cases hname : isLongName name = true
  · rw [walk_of_long [] hplace hname] at hlocate
    rw [ensureDirectory_of_trouble hlocate (by decide)]
    refine Made.refused hrooted (fun hclear => ?_) _
    rw [hclear.names name (List.mem_append_right _ List.mem_cons_self)] at hname
    cases hname
  rw [Bool.not_eq_true] at hname
  have hall : ∀ other ∈ names ++ [name], isLongName other = false :=
    List.forall_mem_append.2 ⟨hshort, List.forall_mem_singleton.2 hname⟩
  rw [walk_cons hplace hname] at hlocate
  -- What is at the last place decides.
  cases hnext : tree.find? (follow parent [name]) with
  | none =>
    have hdots := follow_of_missing hrooted hplace hnext
    rw [hnext] at hlocate
    rw [ensureDirectory_of_missing hlocate hwalk hplace, ← hdots]
    exact Made.put hrooted htext hall hdirs hpasses hnext (by rw [hdots]; simpa using hplace)
  | some node =>
    rw [hnext] at hlocate
    rw [ensureDirectory_of_located hlocate, hnext]
    cases node with
    | directory =>
      refine Made.present hrooted htext hall fun place hpassed => ?_
      obtain hpassed | rfl := (hpasses place).1 hpassed
      · exact hdirs place hpassed
      · exact hnext
    | file content =>
      exact Made.refused hrooted
        (fun hclear => hclear.free _ content ((hpasses _).2 (Or.inr rfl)) hnext) _

/-! ### All directories -/

theorem makeDirectories_of_ne_missing (h : tree.makeDirectory cwd path ≠ .error .missing)
    (bound : Nat) : tree.makeDirectories cwd path (bound + 1) = tree.ensureDirectory cwd path := by
  rw [makeDirectories]
  split
  · rename_i hmissing
    exact absurd hmissing h
  · rfl

theorem makeDirectories_of_missing (h : tree.makeDirectory cwd path = .error .missing)
    (bound : Nat) : tree.makeDirectories cwd path (bound + 1) =
      match tree.makeDirectories cwd path.parent bound with
      | (made, none) => made.ensureDirectory cwd path
      | (made, some fault) => (made, some fault) := by
  cases hfront : tree.makeDirectories cwd path.parent bound with
  | mk made fault => cases fault <;> simp only [makeDirectories, h, hfront]

theorem makeDirectory_ne_missing {place : List String}
    (hparent : tree.locate cwd ⟨root, names⟩ = .ok place) :
    tree.makeDirectory cwd ⟨root, names ++ [name]⟩ ≠ .error .missing := by
  unfold makeDirectory
  simp only [Path.parent, List.dropLast_concat, hparent, List.getLast?_concat]
  split
  · simp
  · split <;> simp
  · rename_i trouble htrouble _
    simpa using htrouble

theorem makeDirectory_of_missing
    (h : tree.locate cwd ⟨root, names ++ [name]⟩ = .error .missing)
    (hparent : tree.locate cwd ⟨root, names⟩ = .error .missing) :
    tree.makeDirectory cwd ⟨root, names ++ [name]⟩ = .error .missing := by
  simp [makeDirectory, h, Path.parent, hparent]

/-- What is made before a fault stays, and is on the path that was to be made. -/
theorem Made.of_front {front : Path} {why : FileFault} (h : tree.Made cwd front made (some why))
    (hpasses : ∀ place, front.Passes cwd place → path.Passes cwd place)
    (hclear : tree.Clear cwd path → tree.Clear cwd front) :
    tree.Made cwd path made (some why) where
  rooted := h.rooted
  grown place := by
    obtain hsame | ⟨hnone, hmade, hpassed⟩ := h.grown place
    · exact Or.inl hsame
    · exact Or.inr ⟨hnone, hmade, hpasses place hpassed⟩
  clear := ⟨fun hf => (nomatch hf), fun hc => absurd (h.clear.2 (hclear hc)) nofun⟩
  directories hf := nomatch hf

/-- Making what is in front and then the rest. -/
theorem Made.trans {front : Path} {between : Tree} {fault : Option FileFault}
    (h : tree.Made cwd front between none) (h' : between.Made cwd path made fault)
    (hpasses : ∀ place, front.Passes cwd place → path.Passes cwd place) :
    tree.Made cwd path made fault where
  rooted := h'.rooted
  grown place := by
    obtain hsame | ⟨hnone, hmade, hpassed⟩ := h.grown place
    · rw [← hsame]
      exact h'.grown place
    · exact Or.inr ⟨hnone, h'.grows.directory hmade, hpasses place hpassed⟩
  clear := h'.clear.trans h.clear_iff
  directories := h'.directories

theorem passes_of_front {place : List String} (h : Path.Passes cwd ⟨root, names⟩ place) :
    Path.Passes cwd ⟨root, names ++ [name]⟩ place :=
  Path.along_concat_iff.2 (Or.inl h)

/-- If something but a missing place stops the way to a path, the way is not clear. -/
theorem not_clear_of_trouble (hcwd : tree.find? cwd = some .directory) {trouble : PathTrouble}
    (h : tree.locate cwd path = .error trouble) (htrouble : trouble ≠ .missing) :
    ¬tree.Clear cwd path := by
  intro hclear
  have hstart := find?_start hcwd path
  rw [locate_eq hclear.text] at h
  obtain hok | hmissing := walk_of_free (by rw [hstart]; rfl) hclear.names hclear.free
  · rw [hok] at h
    cases h
  · rw [hmissing] at h
    cases h
    exact htrouble rfl

/-- One directory, when the way to it leads somewhere. -/
theorem made_of_located (hrooted : tree.Rooted) (hcwd : tree.find? cwd = some .directory)
    (htext : isLongPath (Path.text ⟨root, names ++ [name]⟩) = false) {place : List String}
    (hfront : tree.locate cwd ⟨root, names⟩ = .ok place) :
    tree.Made cwd ⟨root, names ++ [name]⟩
      (tree.ensureDirectory cwd ⟨root, names ++ [name]⟩).1
      (tree.ensureDirectory cwd ⟨root, names ++ [name]⟩).2 := by
  have hlocate : tree.locate cwd ⟨root, names ++ [name]⟩ =
      (tree.locate cwd ⟨root, names⟩).bind fun place => tree.walk place [name] :=
    locate_concat htext
  rw [hfront] at hlocate
  rw [locate_eq (isLongPath_of_concat htext)] at hfront
  obtain ⟨hshort, halong⟩ := directory_of_walk hfront
  have hplace : place = Path.absolute cwd ⟨root, names⟩ := follow_of_walk hfront
  have hthere := isSome_of_walk (by rw [find?_start hcwd]; rfl) hfront
  obtain ⟨node, hnode⟩ := Option.isSome_iff_exists.1 hthere
  -- The front of the path leads somewhere; there the last directory is made, unless it is a file.
  cases node with
  | directory =>
    refine made_ensureDirectory hrooted htext hshort fun passed hpassed => ?_
    obtain rfl | hdirectory := halong passed hpassed
    · exact hnode
    · exact hdirectory
  | file content =>
    have htrouble : tree.locate cwd ⟨root, names ++ [name]⟩ = .error .notDirectory := by
      rw [hlocate]
      exact walk_cons_of_file hnode name []
    rw [ensureDirectory_of_trouble htrouble (by decide)]
    exact Made.refused hrooted (not_clear_of_trouble hcwd htrouble (by decide)) _

/-- Making all directories along a path: by induction on its names, the last one first, since a
directory is tried before the one in front of it is made. -/
theorem made_makeDirectories (hrooted : tree.Rooted) (hcwd : tree.find? cwd = some .directory)
    (root : Root) (names : List String) :
    tree.Made cwd ⟨root, names⟩
      (tree.makeDirectories cwd ⟨root, names⟩ names.length).1
      (tree.makeDirectories cwd ⟨root, names⟩ names.length).2 := by
  induction names using List.reverseRecOn with
  | nil =>
    have htext : isLongPath (Path.text ⟨root, []⟩) = false := by cases root <;> decide
    have hlocate : tree.locate cwd ⟨root, []⟩ = .ok (Path.start cwd ⟨root, []⟩) :=
      locate_eq htext
    rw [List.length_nil, makeDirectories, ensureDirectory_of_located hlocate,
      if_pos (find?_start hcwd _)]
    refine Made.present hrooted htext nofun fun place hpassed => ?_
    rw [Path.along_nil_iff.1 hpassed]
    exact find?_start hcwd _
  | append_singleton names name ih =>
    rw [List.length_append, List.length_singleton]
    -- What stops the way, other than a missing place, stops the making.
    have hstopped : ∀ trouble, tree.locate cwd ⟨root, names ++ [name]⟩ = .error trouble →
        trouble ≠ .missing → tree.Made cwd ⟨root, names ++ [name]⟩
          (tree.makeDirectories cwd ⟨root, names ++ [name]⟩ (names.length + 1)).1
          (tree.makeDirectories cwd ⟨root, names ++ [name]⟩ (names.length + 1)).2 := by
      intro trouble hlocate htrouble
      have hmake := makeDirectory_of_trouble hlocate htrouble
      rw [makeDirectories_of_ne_missing (by rw [hmake]; simpa using htrouble),
        ensureDirectory_of_trouble hlocate htrouble]
      exact Made.refused hrooted (not_clear_of_trouble hcwd hlocate htrouble) _
    by_cases htext : isLongPath (Path.text ⟨root, names ++ [name]⟩) = true
    · exact hstopped .nameTooLong (by rw [locate, if_pos htext]) (by decide)
    rw [Bool.not_eq_true] at htext
    have hlocate : tree.locate cwd ⟨root, names ++ [name]⟩ =
        (tree.locate cwd ⟨root, names⟩).bind fun place => tree.walk place [name] :=
      locate_concat htext
    cases hfront : tree.locate cwd ⟨root, names⟩ with
    | ok place =>
      rw [makeDirectories_of_ne_missing (makeDirectory_ne_missing hfront)]
      exact made_of_located hrooted hcwd htext hfront
    | error trouble =>
      rw [hfront] at hlocate
      by_cases hmissing : trouble = .missing
      · subst hmissing
        rw [makeDirectories_of_missing (makeDirectory_of_missing hlocate hfront)]
        have hparent : Path.parent ⟨root, names ++ [name]⟩ = ⟨root, names⟩ := by
          simp [Path.parent]
        rw [hparent]
        cases hmade : tree.makeDirectories cwd ⟨root, names⟩ names.length with
        | mk made fault =>
          rw [hmade] at ih
          cases fault with
          | some fault => exact ih.of_front (fun _ => passes_of_front) Clear.of_concat
          | none =>
            have hclear := ih.clear.1 rfl
            exact ih.trans (made_ensureDirectory ih.rooted htext hclear.names
              (ih.directories rfl)) fun _ => passes_of_front
      · exact hstopped trouble hlocate hmissing

end Tree

end RegistrySync.Files
