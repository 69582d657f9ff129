/-
Texts without blanks, and texts without blanks at their ends.

* `trim_eq_nil_iff`, `strip_eq_empty_iff` — trimming leaves nothing exactly when there is nothing
  but blanks;
* `toNat_of_isAlphanum` — the code points of letters and digits;
* `isAlphanum_of_isBlank`, `isBlank_of_isAlphanum` — no letter or digit is a blank;
* `trim_of_not_blank` — trimming leaves a text without blanks as it is;
* `Trimmed`, `trimmed_trim`, `Trimmed.trim_eq` — a trimmed text has no blanks at its ends, and
  trimming leaves it as it is;
* `trim_sublist` — trimming adds nothing.
-/
import RegistrySync.Text.Blank
import Mathlib.Data.List.TakeWhile

namespace RegistrySync.Text

theorem trimEnd_eq_nil_iff {cs : List Char} :
    trimEnd cs = [] ↔ ∀ c ∈ cs, isBlank c = true := by
  rw [trimEnd, List.reverse_eq_nil_iff, List.dropWhile_eq_nil_iff]
  simp

/-- Trimming leaves nothing exactly when there is nothing but blanks. -/
theorem trim_eq_nil_iff {cs : List Char} : trim cs = [] ↔ ∀ c ∈ cs, isBlank c = true := by
  rw [trim, trimEnd_eq_nil_iff, trimStart]
  constructor
  · intro h
    -- The first character that is left is no blank, so that there is none.
    have hn : cs.dropWhile isBlank = [] := by
      cases hd : cs.dropWhile isBlank with
      | nil => rfl
      | cons c rest =>
        have hc := List.head?_dropWhile_not isBlank cs
        have hb := h c (by simp [hd])
        simp [hd, hb] at hc
    exact List.dropWhile_eq_nil_iff.1 hn
  · intro h c hc
    exact h c ((List.dropWhile_sublist _).mem hc)

@[simp]
theorem strip_eq_empty_iff {s : String} : strip s = "" ↔ ∀ c ∈ s.toList, isBlank c = true := by
  rw [strip, ← trim_eq_nil_iff, ← String.toList_inj]
  simp

/-- The code points of letters and digits. -/
theorem toNat_of_isAlphanum {c : Char} (h : c.isAlphanum = true) :
    (65 ≤ c.toNat ∧ c.toNat ≤ 90) ∨ (97 ≤ c.toNat ∧ c.toNat ≤ 122) ∨
      (48 ≤ c.toNat ∧ c.toNat ≤ 57) := by
  have h : (c.isAlpha || c.isDigit) = true := h
  rcases Bool.or_eq_true_iff.1 h with ha | hd
  · have ha : (c.isUpper || c.isLower) = true := ha
    rcases Bool.or_eq_true_iff.1 ha with hu | hl
    · have hu : 'A'.val ≤ c.val ∧ c.val ≤ 'Z'.val := of_decide_eq_true hu
      exact Or.inl ⟨UInt32.le_iff_toNat_le.1 hu.1, UInt32.le_iff_toNat_le.1 hu.2⟩
    · obtain ⟨hlow, hhigh⟩ := Bool.and_eq_true_iff.1 hl
      have hl : 'a'.val ≤ c.val ∧ c.val ≤ 'z'.val :=
        ⟨of_decide_eq_true hlow, of_decide_eq_true hhigh⟩
      exact Or.inr (Or.inl ⟨UInt32.le_iff_toNat_le.1 hl.1, UInt32.le_iff_toNat_le.1 hl.2⟩)
  · exact Or.inr (Or.inr (Char.isDigit_iff_toNat.1 hd))

theorem isAlphanum_of_isBlank {c : Char} (h : isBlank c = true) : c.isAlphanum = false := by
  cases hc : c.isAlphanum with
  | false => rfl
  | true =>
    have hpoint := toNat_of_isAlphanum hc
    simp only [isBlank, Bool.or_eq_true, Bool.and_eq_true, decide_eq_true_eq, beq_iff_eq] at h
    omega

theorem isBlank_of_isAlphanum {c : Char} (h : c.isAlphanum = true) : isBlank c = false := by
  cases hb : isBlank c with
  | false => rfl
  | true => rw [isAlphanum_of_isBlank hb] at h; cases h

theorem dropWhile_of_not_blank {cs : List Char} (h : ∀ c ∈ cs, isBlank c = false) :
    cs.dropWhile isBlank = cs := by
  cases cs with
  | nil => rfl
  | cons c rest => simp [h c List.mem_cons_self]

/-- Trimming leaves a text without blanks as it is. -/
theorem trim_of_not_blank {cs : List Char} (h : ∀ c ∈ cs, isBlank c = false) : trim cs = cs := by
  have hr : ∀ c ∈ cs.reverse, isBlank c = false := fun c hc => h c (List.mem_reverse.1 hc)
  rw [trim, trimStart, dropWhile_of_not_blank h, trimEnd, dropWhile_of_not_blank hr,
    List.reverse_reverse]

/-- A text without a blank in front or at its end. -/
structure Trimmed (cs : List Char) : Prop where
  front : ∀ c ∈ cs.head?, isBlank c = false
  back : ∀ c ∈ cs.getLast?, isBlank c = false

theorem not_blank_of_head?_dropWhile (cs : List Char) :
    ∀ c ∈ (cs.dropWhile isBlank).head?, isBlank c = false := by
  intro c hc
  have hhead := List.head?_dropWhile_not isBlank cs
  rw [hc] at hhead
  simpa using hhead

/-- A trimmed text has no blanks at its ends. -/
theorem trimmed_trim (cs : List Char) : Trimmed (trim cs) := by
  constructor
  · intro c hc
    -- What is left at the end begins as it did before.
    have hfront : trim cs <+: trimStart cs := by
      rw [trim, trimEnd, ← List.reverse_suffix, List.reverse_reverse]
      exact List.dropWhile_suffix _
    obtain ⟨tail, htail⟩ := hfront
    refine not_blank_of_head?_dropWhile cs c ?_
    rw [← trimStart, ← htail, List.head?_append, hc]
    rfl
  · intro c hc
    rw [trim, trimEnd, List.getLast?_reverse] at hc
    exact not_blank_of_head?_dropWhile _ c hc

theorem trimmed_nil : Trimmed [] := by
  constructor
  · rintro c ⟨⟩
  · rintro c ⟨⟩

theorem trimmed_strip (s : String) : Trimmed (strip s).toList := by
  simpa [strip] using trimmed_trim s.toList

theorem dropWhile_of_head? {cs : List Char} (h : ∀ c ∈ cs.head?, isBlank c = false) :
    cs.dropWhile isBlank = cs := by
  cases cs with
  | nil => rfl
  | cons c rest => simp [h c rfl]

/-- Trimming leaves a trimmed text as it is. -/
theorem Trimmed.trim_eq {cs : List Char} (h : Trimmed cs) : trim cs = cs := by
  have hback : ∀ c ∈ cs.reverse.head?, isBlank c = false := by
    rw [List.head?_reverse]
    exact h.back
  rw [trim, trimStart, dropWhile_of_head? h.front, trimEnd, dropWhile_of_head? hback,
    List.reverse_reverse]

/-- A text that may be missing, and that is trimmed if it is there. -/
theorem trimmed_ite_strip (missing : Bool) (s : String) :
    Trimmed (if missing then "" else strip s).toList := by
  cases missing with
  | true => exact trimmed_nil
  | false => exact trimmed_strip s

/-- Trimming adds no characters. -/
theorem trim_sublist (cs : List Char) : (trim cs).Sublist cs := by
  have hend := (List.dropWhile_sublist isBlank (l := (trimStart cs).reverse)).reverse
  rw [List.reverse_reverse] at hend
  exact hend.trans (List.dropWhile_sublist isBlank)

end RegistrySync.Text
