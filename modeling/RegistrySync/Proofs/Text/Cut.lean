/-
Cutting and splitting undo putting together.

* `cut_append_cons` — the first separator is where a text is cut;
* `cut_eq_some_iff` — a cut text is its two parts around the separator;
* `cut_eq_takeWhile` — the parts of a cut text, whether or not there is a separator;
* `mem_of_mem_split` — splitting adds no characters;
* `split_intercalate` — parts that were joined by the separator come back;
* `forall_mem_intercalate` — what joined parts consist of;
* `occursIn_iff` — a part that occurs in a text is a piece of it.
-/
import RegistrySync.Text.Cut

namespace RegistrySync.Text

theorem cut_append_cons {sep : Char} {a : List Char} (h : sep ∉ a) (b : List Char) :
    cut sep (a ++ sep :: b) = (a, some b) := by
  induction a with
  | nil => simp [cut]
  | cons c rest ih =>
    obtain ⟨hc, hr⟩ := not_or.1 (mt List.mem_cons.2 h)
    simp [cut, Ne.symm hc, ih hr]

/-- The part before the cut holds no separator. -/
theorem not_mem_cut (sep : Char) (cs : List Char) : sep ∉ (cut sep cs).1 := by
  induction cs with
  | nil => simp [cut]
  | cons c rest ih =>
    by_cases h : c = sep
    · simp [cut, h]
    · simp [cut, h, ih, Ne.symm h]

/-- A text is cut into two parts exactly when it is these two around the separator. -/
theorem cut_eq_some_iff {sep : Char} {cs a b : List Char} :
    cut sep cs = (a, some b) ↔ cs = a ++ sep :: b ∧ sep ∉ a := by
  constructor
  · intro h
    have hcs := cut_eq sep cs
    have hn := not_mem_cut sep cs
    rw [h] at hcs hn
    exact ⟨by simpa using hcs, hn⟩
  · rintro ⟨rfl, hn⟩
    exact cut_append_cons hn b

/-- The part before the cut ends in front of the first separator, and the other one starts behind
it. -/
theorem cut_eq_takeWhile (sep : Char) (cs : List Char) :
    cut sep cs =
      (cs.takeWhile (· != sep),
        if sep ∈ cs then some (cs.dropWhile (· != sep)).tail else none) := by
  induction cs with
  | nil => rfl
  | cons c rest ih =>
    by_cases h : c = sep
    · simp [cut, h]
    · simp [cut, h, ih, Ne.symm h]

/-- Splitting adds no characters. -/
theorem mem_of_mem_split {sep : Char} {cs part : List Char} (h : part ∈ split sep cs) :
    ∀ c ∈ part, c ∈ cs := by
  induction cs generalizing part with
  | nil =>
    obtain rfl := List.mem_singleton.1 h
    exact nofun
  | cons d rest ih =>
    intro c hc
    by_cases hd : d = sep
    · rw [split, if_pos hd] at h
      rcases List.mem_cons.1 h with rfl | hrest
      · cases hc
      · exact List.mem_cons_of_mem d (ih hrest c hc)
    · -- The character is put in front of the first part; the others are as they were.
      obtain ⟨first, others, hsplit⟩ := List.exists_cons_of_ne_nil (split_ne_nil sep rest)
      rw [split, if_neg hd, hsplit] at h
      rcases List.mem_cons.1 h with rfl | hothers
      · rcases List.mem_cons.1 hc with rfl | hfirst
        · exact List.mem_cons_self
        · exact List.mem_cons_of_mem d (ih (hsplit ▸ List.mem_cons_self) c hfirst)
      · exact List.mem_cons_of_mem d (ih (hsplit ▸ List.mem_cons_of_mem first hothers) c hc)

theorem split_eq_splitOn (sep : Char) (cs : List Char) : split sep cs = cs.splitOn sep := by
  induction cs with
  | nil => rfl
  | cons c rest ih =>
    rw [List.splitOn_cons_eq_if_modifyHead, ← ih, split]
    by_cases h : c = sep
    · simp [h]
    · cases hs : split sep rest with
      | nil => exact absurd hs (split_ne_nil sep rest)
      | cons part parts => simp [h]

/-- Parts without a separator come back when they are joined by it and split again. -/
theorem split_intercalate {sep : Char} {parts : List (List Char)} (h : ∀ part ∈ parts, sep ∉ part)
    (hne : parts ≠ []) : split sep ([sep].intercalate parts) = parts := by
  rw [split_eq_splitOn, List.splitOn_intercalate sep h hne]

/-- What holds of every character of the separator and of all parts holds of all that are
joined. -/
theorem forall_mem_intercalate {P : Char → Prop} {sep : List Char} {parts : List (List Char)}
    (hs : ∀ c ∈ sep, P c) (hp : ∀ part ∈ parts, ∀ c ∈ part, P c) :
    ∀ c ∈ sep.intercalate parts, P c := by
  induction parts with
  | nil => simp
  | cons part rest ih =>
    obtain ⟨hpart, hrest⟩ := List.forall_mem_cons.1 hp
    by_cases hne : rest = []
    · rw [hne, List.intercalate_singleton]
      exact hpart
    · rw [List.intercalate_cons_of_ne_nil hne, List.forall_mem_append, List.forall_mem_append]
      exact ⟨⟨hpart, hs⟩, ih hrest⟩

theorem occursIn_iff {part cs : List Char} : occursIn part cs = true ↔ part <:+: cs := by
  induction cs with
  | nil => simp [occursIn]
  | cons c rest ih => simp [occursIn, ih, List.infix_cons_iff]

end RegistrySync.Text
