/-
The words of a text: what stands between its blanks.

* `words` — the words of a text, in order;
* `mem_words` — a word is not empty and has no blanks;
* `words_append_blank` — the words of two texts with a blank between them are those of the first and
  then those of the second;
* `words_of_not_blank` — a text without blanks is a word, unless it is empty;
* `blank_induction` — induction on a text, from one blank to the next.
-/
import RegistrySync.Text.Blank
import Mathlib.Data.List.TakeWhile

namespace RegistrySync.Text

variable {cs : List Char}

/-- The words of a text, in order. -/
def words (cs : List Char) : List (List Char) := (cs.splitOnP isBlank).filter (· ≠ [])

/-- The words of two texts with a blank between them: those of the first, then those of the
second. -/
theorem words_append_blank {c : Char} (h : isBlank c = true) (cs rest : List Char) :
    words (cs ++ c :: rest) = words cs ++ words rest := by
  rw [words, List.splitOnP_append_cons cs rest h, List.filter_append]
  rfl

/-- A text without blanks is a word, unless it is empty. -/
theorem words_of_not_blank (h : ∀ c ∈ cs, isBlank c = false) :
    words cs = if cs = [] then [] else [cs] := by
  rw [words, List.splitOnP_eq_singleton h]
  by_cases hnil : cs = []
  · simp [hnil]
  · simp [hnil]

/-- What holds of all texts without blanks, and of a text with a blank whenever it holds of what
stands behind the first one, holds of every text. -/
@[elab_as_elim]
theorem blank_induction {P : List Char → Prop}
    (last : ∀ word, (∀ c ∈ word, isBlank c = false) → P word)
    (step : ∀ word c rest, (∀ d ∈ word, isBlank d = false) → isBlank c = true → P rest →
      P (word ++ c :: rest))
    (cs : List Char) : P cs := by
  -- What stands behind the first blank is shorter, but by more than one character, hence the
  -- strong induction.
  induction hn : cs.length using Nat.strongRecOn generalizing cs with
  | ind n ih =>
    have hword : ∀ c ∈ cs.takeWhile (!isBlank ·), isBlank c = false := fun c hc => by
      simpa using List.mem_takeWhile_imp hc
    have hcs : cs = cs.takeWhile (!isBlank ·) ++ cs.dropWhile (!isBlank ·) :=
      List.takeWhile_append_dropWhile.symm
    cases hrest : cs.dropWhile (!isBlank ·) with
    | nil =>
      rw [hrest, List.append_nil] at hcs
      exact hcs ▸ last _ hword
    | cons c rest =>
      have hc : isBlank c = true := by
        have hhead := List.head?_dropWhile_not (!isBlank ·) cs
        rw [hrest] at hhead
        simpa using hhead
      have hlen := congrArg List.length hcs
      rw [hrest, List.length_append, List.length_cons] at hlen
      rw [hcs, hrest]
      exact step _ c rest hword hc (ih rest.length (by omega) rest rfl)

/-- A word is not empty and has no blanks. -/
theorem mem_words {word : List Char} (h : word ∈ words cs) :
    word ≠ [] ∧ ∀ c ∈ word, isBlank c = false := by
  have hparts : ∀ {whole : List Char}, (∀ c ∈ whole, isBlank c = false) → word ∈ words whole →
      word ≠ [] ∧ ∀ c ∈ word, isBlank c = false := by
    intro whole hwhole hword
    rw [words_of_not_blank hwhole] at hword
    split at hword
    · cases hword
    · rename_i hne
      exact List.mem_singleton.1 hword ▸ ⟨hne, hwhole⟩
  induction cs using blank_induction with
  | last whole hwhole => exact hparts hwhole h
  | step first c rest hfirst hc ih =>
    rw [words_append_blank hc, List.mem_append] at h
    cases h with
    | inl h => exact hparts hfirst h
    | inr h => exact ih h

end RegistrySync.Text
