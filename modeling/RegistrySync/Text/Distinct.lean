/-
Lists of words without repetitions.

* `distinct_nodup` — no word is kept twice;
* `mem_distinct_iff` — no word is lost;
* `distinct_of_nodup` — words that occur once are kept as they are.
-/

namespace RegistrySync.Text

/-- The first occurrence of each word, in order. -/
def distinct : List String → List String
  | [] => []
  | word :: rest => word :: (distinct rest).filter (· ≠ word)

theorem mem_distinct_iff {word : String} {words : List String} :
    word ∈ distinct words ↔ word ∈ words := by
  induction words with
  | nil => simp [distinct]
  | cons first rest ih =>
    by_cases h : word = first
    · simp [distinct, h]
    · simp [distinct, h, ih]

theorem distinct_nodup (words : List String) : (distinct words).Nodup := by
  induction words with
  | nil => simp [distinct]
  | cons first rest ih =>
    rw [distinct, List.nodup_cons]
    exact ⟨by simp, ih.filter _⟩

theorem distinct_of_nodup {words : List String} (h : words.Nodup) : distinct words = words := by
  induction words with
  | nil => rfl
  | cons first rest ih =>
    obtain ⟨hf, hr⟩ := List.nodup_cons.1 h
    rw [distinct, ih hr]
    congr 1
    apply List.filter_eq_self.2
    intro word hn
    simpa using fun he : word = first => hf (he ▸ hn)

end RegistrySync.Text
