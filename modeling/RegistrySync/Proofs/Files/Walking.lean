/-
Trees of files in which every node stands in a directory, how they grow, and walks in them.

* `Tree.Rooted` — whatever is there stands in a directory;
* `Tree.Grows` — directories stay, and files keep what they hold;
* `Path.Passes` — the places along a path;
* `walk_append`, `follow_of_walk` — a walk goes name by name, and where it comes to an end it has
  followed the names;
* `walk_of_directories`, `directory_of_walk` — it comes to an end exactly if there are directories
  all along;
* `walk_of_free` — if there are no files on the way, nothing but a missing place stops it;
* `Tree.Grows.walk` — a walk that came to an end does so in every tree that has grown from this one.
-/
import RegistrySync.Files.Tree
import Mathlib.Data.List.Induction

namespace RegistrySync.Files

namespace Tree

/-- Whatever is there stands in a directory. -/
def Rooted (tree : Tree) : Prop :=
  ∀ place node, place ≠ [] → tree.find? place = some node →
    tree.find? place.dropLast = some .directory

/-- Directories stay, and files keep what they hold, though more may be added to it. -/
structure Grows (before after : Tree) : Prop where
  directory : ∀ {place}, before.find? place = some .directory → after.find? place = some .directory
  file : ∀ {place content}, before.find? place = some (.file content) →
    ∃ more, after.find? place = some (.file (content ++ more))

@[simp] theorem find?_root (tree : Tree) : tree.find? [] = some .directory := rfl

namespace Grows

variable {before between after : Tree}

theorem refl (tree : Tree) : tree.Grows tree where
  directory h := h
  file {_ content} h := ⟨"", by rw [h, String.append_empty]⟩

theorem trans (h : before.Grows between) (h' : between.Grows after) : before.Grows after where
  directory hd := h'.directory (h.directory hd)
  file hf := by
    obtain ⟨more, hmore⟩ := h.file hf
    obtain ⟨rest, hrest⟩ := h'.file hmore
    exact ⟨more ++ rest, by rw [hrest, String.append_assoc]⟩

theorem isSome (h : before.Grows after) {place : List String}
    (hplace : (before.find? place).isSome) : (after.find? place).isSome := by
  cases hfind : before.find? place with
  | none =>
    rw [hfind] at hplace
    cases hplace
  | some node =>
    cases node with
    | directory => rw [h.directory hfind]; rfl
    | file content =>
      obtain ⟨more, hmore⟩ := h.file hfind
      rw [hmore]
      rfl

/-- What is put where nothing was takes nothing away. -/
theorem put {tree : Tree} {place : List String} (h : tree.find? place = none) (node : Node) :
    tree.Grows (tree.put place node) := by
  have hother : ∀ {other found}, tree.find? other = some found → other ≠ place := by
    rintro other found hfound rfl
    rw [h] at hfound
    cases hfound
  exact
    { directory := fun hd => by rw [find?_put_other _ _ (hother hd), hd]
      file := fun hf => ⟨"", by rw [find?_put_other _ _ (hother hf), hf, String.append_empty]⟩ }

end Grows

theorem rooted_empty : Rooted {} := by
  intro place node hroot hfind
  cases place with
  | nil => exact absurd rfl hroot
  | cons name rest => cases hfind

/-- A node that is put into a directory, or in the place of one of its kind, stands in a
directory. -/
theorem Rooted.put {tree : Tree} (h : tree.Rooted) {place : List String} {node : Node}
    (hparent : tree.find? place.dropLast = some .directory)
    (hkind : tree.find? place = some .directory → node = .directory) :
    (tree.put place node).Rooted := by
  -- Directories of the tree are directories still.
  have hkept : ∀ other, tree.find? other = some .directory →
      (tree.put place node).find? other = some .directory := by
    intro other hother
    by_cases hne : other = place
    · subst hne
      by_cases hroot : other = []
      · rw [hroot, find?_root]
      · rw [find?_put_same _ _ hroot, hkind hother]
    · rw [find?_put_other _ _ hne, hother]
  intro other found hroot hfound
  by_cases hne : other = place
  · subst hne
    exact hkept _ hparent
  · rw [find?_put_other _ _ hne] at hfound
    exact hkept _ (h other found hroot hfound)

/-- What lies on the way to a directory is a directory. -/
theorem Rooted.of_append {tree : Tree} (h : tree.Rooted) {place rest : List String}
    (hd : tree.find? (place ++ rest) = some .directory) : tree.find? place = some .directory := by
  induction rest using List.reverseRecOn with
  | nil => rwa [List.append_nil] at hd
  | append_singleton rest name ih =>
    rw [← List.append_assoc] at hd
    have hparent := h _ _ (by simp) hd
    rw [List.dropLast_concat] at hparent
    exact ih hparent

/-! ### Adding to files -/

theorem find?_append {tree : Tree} {place : List String} {content : String}
    (h : tree.find? place = some (.file content)) (text : String) :
    (tree.append place text).find? place = some (.file (content ++ text)) := by
  have hroot : place ≠ [] := by
    rintro rfl
    cases h
  simp only [append, h]
  exact find?_put_same _ _ hroot

theorem find?_append_other (tree : Tree) {place other : List String} (text : String)
    (h : other ≠ place) : (tree.append place text).find? other = tree.find? other := by
  unfold append
  split
  · exact find?_put_other _ _ h
  · rfl

theorem Rooted.append {tree : Tree} (h : tree.Rooted) (place : List String) (text : String) :
    (tree.append place text).Rooted := by
  unfold Tree.append
  split
  · rename_i content hfile
    have hroot : place ≠ [] := by
      rintro rfl
      cases hfile
    refine h.put (h _ _ hroot hfile) ?_
    rw [hfile]
    exact fun hd => nomatch hd
  · exact h

theorem Grows.append (tree : Tree) (place : List String) (text : String) :
    tree.Grows (tree.append place text) where
  directory {other} hd := by
    have hne : other ≠ place ∨ tree.append place text = tree := by
      by_cases hplace : other = place
      · subst hplace
        right
        simp only [Tree.append, hd]
      · exact Or.inl hplace
    obtain hne | hsame := hne
    · rw [find?_append_other _ _ hne, hd]
    · rw [hsame, hd]
  file {other content} hf := by
    by_cases hne : other = place
    · subst hne
      exact ⟨text, find?_append hf text⟩
    · exact ⟨"", by rw [find?_append_other _ _ hne, hf, String.append_empty]⟩

end Tree

/-! ### The places along a path -/

namespace Path

/-- Where a path starts. -/
def start (cwd : List String) (path : Path) : List String := if path.rooted then [] else cwd

/-- Names that never go back are followed by appending them. -/
theorem follow_of_forward {place names : List String} (h : ".." ∉ names) :
    follow place names = place ++ names := by
  induction names generalizing place with
  | nil => simp [follow]
  | cons name rest ih =>
    rw [List.mem_cons, not_or] at h
    rw [follow, if_neg fun hname => h.1 hname.symm, ih h.2, List.append_assoc,
      List.singleton_append]

/-- A place along names, from the first one to the last. -/
def Along (place : List String) (names : List String) (passed : List String) : Prop :=
  ∃ front, front <+: names ∧ follow place front = passed

/-- A place along a path. -/
def Passes (cwd : List String) (path : Path) (passed : List String) : Prop :=
  Along (path.start cwd) path.names passed

variable {place passed : List String} {name : String} {names : List String}

theorem along_start (place names : List String) : Along place names place :=
  ⟨[], List.nil_prefix, rfl⟩

theorem along_end (place names : List String) : Along place names (follow place names) :=
  ⟨names, List.prefix_refl names, rfl⟩

theorem along_nil_iff : Along place [] passed ↔ passed = place := by
  constructor
  · rintro ⟨front, hfront, rfl⟩
    rw [List.prefix_nil.1 hfront]
    rfl
  · rintro rfl
    exact along_start _ _

theorem along_cons_iff :
    Along place (name :: names) passed ↔
      passed = place ∨ Along (follow place [name]) names passed := by
  constructor
  · rintro ⟨front, hfront, rfl⟩
    obtain rfl | ⟨rest, rfl, hrest⟩ := List.prefix_cons_iff.1 hfront
    · exact Or.inl rfl
    · exact Or.inr ⟨rest, hrest, rfl⟩
  · rintro (rfl | ⟨rest, hrest, rfl⟩)
    · exact along_start _ _
    · exact ⟨name :: rest, List.prefix_cons_iff.2 (Or.inr ⟨rest, rfl, hrest⟩), rfl⟩

theorem along_concat_iff :
    Along place (names ++ [name]) passed ↔
      Along place names passed ∨ passed = follow place (names ++ [name]) := by
  constructor
  · rintro ⟨front, hfront, rfl⟩
    obtain rfl | hfront := List.prefix_concat_iff.1 hfront
    · exact Or.inr rfl
    · exact Or.inl ⟨front, hfront, rfl⟩
  · rintro (⟨front, hfront, rfl⟩ | rfl)
    · exact ⟨front, hfront.trans (List.prefix_append _ _), rfl⟩
    · exact along_end _ _

end Path

/-! ### Walks -/

namespace Tree

open Files.Path (Along follow)

variable {tree : Tree} {place last : List String} {name : String} {names : List String}

theorem locate_eq {cwd : List String} {path : Path} (h : isLongPath path.text = false) :
    tree.locate cwd path = tree.walk (path.start cwd) path.names := by
  rw [locate, if_neg (by simpa using h)]
  rfl

/-- One step of a walk, from a directory. -/
theorem walk_cons (hplace : tree.find? place = some .directory) (hname : isLongName name = false)
    (names : List String) :
    tree.walk place (name :: names) =
      if (tree.find? (follow place [name])).isSome then tree.walk (follow place [name]) names
      else .error .missing := by
  simp only [walk, hplace, hname]
  rfl

theorem walk_cons_of_long (hplace : tree.find? place = some .directory)
    (hname : isLongName name = true) (names : List String) :
    tree.walk place (name :: names) = .error .nameTooLong :=
  walk_of_long names hplace hname

theorem walk_cons_of_file {content : String} (hplace : tree.find? place = some (.file content))
    (name : String) (names : List String) :
    tree.walk place (name :: names) = .error .notDirectory := by
  simp only [walk, hplace]

/-- A walk that goes on has started from a directory with a short name, and what it came to is
there. -/
theorem walk_cons_eq_ok (h : tree.walk place (name :: names) = .ok last) :
    tree.find? place = some .directory ∧ isLongName name = false ∧
      (tree.find? (follow place [name])).isSome ∧
      tree.walk (follow place [name]) names = .ok last := by
  -- Only from a directory, by a name that is not too long, to a place where something is, does a
  -- walk go on.
  cases hplace : tree.find? place with
  | none =>
    simp only [walk, hplace] at h
    cases h
  | some node =>
    cases node with
    | file content =>
      rw [walk_cons_of_file hplace] at h
      cases h
    | directory =>
      cases hname : isLongName name with
      | true =>
        rw [walk_cons_of_long hplace hname] at h
        cases h
      | false =>
        rw [walk_cons hplace hname] at h
        split at h
        · rename_i hnext
          exact ⟨rfl, rfl, hnext, h⟩
        · cases h

theorem walk_append (place a b : List String) :
    tree.walk place (a ++ b) = (tree.walk place a).bind fun next => tree.walk next b := by
  induction a generalizing place with
  | nil => rfl
  | cons name rest ih =>
    rw [List.cons_append]
    cases hplace : tree.find? place with
    | none =>
      simp only [walk, hplace]
      rfl
    | some node =>
      -- Where the first name leads nowhere, both walks have ended with the same trouble.
      cases node with
      | file content =>
        rw [walk_cons_of_file hplace, walk_cons_of_file hplace]
        rfl
      | directory =>
        cases hname : isLongName name with
        | true =>
          rw [walk_cons_of_long hplace hname, walk_cons_of_long hplace hname]
          rfl
        | false =>
          rw [walk_cons hplace hname, walk_cons hplace hname]
          split
          · exact ih _
          · rfl

theorem follow_of_walk (h : tree.walk place names = .ok last) : last = follow place names := by
  induction names generalizing place with
  | nil =>
    cases h
    rfl
  | cons name rest ih =>
    obtain ⟨-, -, -, hrest⟩ := walk_cons_eq_ok h
    exact ih hrest

theorem isSome_of_walk (hplace : (tree.find? place).isSome)
    (h : tree.walk place names = .ok last) : (tree.find? last).isSome := by
  induction names generalizing place with
  | nil =>
    cases h
    exact hplace
  | cons name rest ih =>
    obtain ⟨-, -, hnext, hrest⟩ := walk_cons_eq_ok h
    exact ih hnext hrest

/-- All places on the way of a walk are directories; where it ends there may be a file. -/
theorem directory_of_walk (h : tree.walk place names = .ok last) :
    (∀ name ∈ names, isLongName name = false) ∧
      ∀ passed, Along place names passed →
        passed = last ∨ tree.find? passed = some .directory := by
  induction names generalizing place with
  | nil =>
    cases h
    exact ⟨nofun, fun passed hpassed => Or.inl (Path.along_nil_iff.1 hpassed)⟩
  | cons name rest ih =>
    obtain ⟨hplace, hname, -, hrest⟩ := walk_cons_eq_ok h
    obtain ⟨hshort, halong⟩ := ih hrest
    refine ⟨List.forall_mem_cons.2 ⟨hname, hshort⟩, fun passed hpassed => ?_⟩
    -- A walk goes on from directories only.
    obtain rfl | hpassed := Path.along_cons_iff.1 hpassed
    · exact Or.inr hplace
    · exact halong passed hpassed

/-- Where there are directories all along, a walk comes to its end. -/
theorem walk_of_directories (hshort : ∀ name ∈ names, isLongName name = false)
    (h : ∀ passed, Along place names passed → tree.find? passed = some .directory) :
    tree.walk place names = .ok (follow place names) := by
  induction names generalizing place with
  | nil => rfl
  | cons name rest ih =>
    obtain ⟨hname, hrest⟩ := List.forall_mem_cons.1 hshort
    have hnext := h _ (Path.along_cons_iff.2 (Or.inr (Path.along_start _ _)))
    rw [walk_cons (h _ (Path.along_start _ _)) hname, if_pos (by rw [hnext]; rfl)]
    exact ih hrest fun passed hpassed => h passed (Path.along_cons_iff.2 (Or.inr hpassed))

/-- Where there is no file on the way, a walk comes to its end or to a place where nothing is. -/
theorem walk_of_free (hplace : (tree.find? place).isSome)
    (hshort : ∀ name ∈ names, isLongName name = false)
    (h : ∀ passed content, Along place names passed →
      tree.find? passed ≠ some (.file content)) :
    tree.walk place names = .ok (follow place names) ∨
      tree.walk place names = .error .missing := by
  induction names generalizing place with
  | nil => exact Or.inl rfl
  | cons name rest ih =>
    obtain ⟨hname, hrest⟩ := List.forall_mem_cons.1 hshort
    -- What is there is not a file, since the place itself is one of those that are passed.
    have hdirectory : tree.find? place = some .directory := by
      cases hfind : tree.find? place with
      | none =>
        rw [hfind] at hplace
        cases hplace
      | some node =>
        cases node with
        | directory => rfl
        | file content => exact absurd hfind (h _ _ (Path.along_start _ _))
    rw [walk_cons hdirectory hname]
    split
    · rename_i hnext
      exact ih hnext hrest fun passed content hpassed =>
        h passed content (Path.along_cons_iff.2 (Or.inr hpassed))
    · exact Or.inr rfl

/-- A walk that comes to its end does so in every tree that has grown from this one. -/
theorem Grows.walk {before after : Tree} (hgrows : before.Grows after)
    (h : before.walk place names = .ok last) : after.walk place names = .ok last := by
  induction names generalizing place with
  | nil => exact h
  | cons name rest ih =>
    obtain ⟨hplace, hname, hnext, hrest⟩ := walk_cons_eq_ok h
    rw [walk_cons (hgrows.directory hplace) hname, if_pos (hgrows.isSome hnext)]
    exact ih hrest

end Tree

end RegistrySync.Files
