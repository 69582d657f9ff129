/-
The first occurrences of words, by the places where they stand.

* `Firsts` — the words of a list, each once, in the order in which they first occur in it;
* `Firsts.nodup` — none of them is there twice;
* `Firsts.unique` — there is only one such list;
* `firsts_iff` — it is the one that is kept.
-/
import RegistrySync.Text.Distinct
import Mathlib.Data.List.Nodup

namespace RegistrySync.Text

variable {words firsts others : List String}

/-- The words of a list, in the order of the places where they occur for the first time. -/
structure Firsts (words firsts : List String) : Prop where
  mem_iff : ∀ word, word ∈ firsts ↔ word ∈ words
  ordered : firsts.Pairwise fun a b => words.idxOf a < words.idxOf b

/-- No word is there twice. -/
theorem Firsts.nodup (h : Firsts words firsts) : firsts.Nodup :=
  h.ordered.imp fun hlt heq => absurd (heq ▸ hlt) (Nat.lt_irrefl _)

/-- The words and their order leave only one list. -/
theorem Firsts.unique (h : Firsts words firsts) (h' : Firsts words others) : firsts = others := by
  have hperm : firsts.Perm others :=
    (List.perm_ext_iff_of_nodup h.nodup h'.nodup).2 fun word => by
      rw [h.mem_iff, h'.mem_iff]
  exact hperm.eq_of_pairwise (fun a b _ _ hab hba => absurd hab (Nat.lt_asymm hba))
    h.ordered h'.ordered

theorem firsts_distinct (words : List String) : Firsts words (distinct words) := by
  refine ⟨fun word => mem_distinct_iff, ?_⟩
  induction words with
  | nil => exact .nil
  | cons word rest ih =>
    -- In the longer list, every other word stands one place further on.
    have hlater : ∀ {other}, other ≠ word → (word :: rest).idxOf other = rest.idxOf other + 1 :=
      fun hne => List.idxOf_cons_ne rest hne.symm
    rw [distinct, List.pairwise_cons]
    constructor
    · intro other hother
      have hne : other ≠ word := by simpa using (List.mem_filter.1 hother).2
      rw [List.idxOf_cons_self, hlater hne]
      exact Nat.succ_pos _
    · refine (ih.filter _).imp_of_mem fun {a b} ha hb hlt => ?_
      have hna : a ≠ word := by simpa using (List.mem_filter.1 ha).2
      have hnb : b ≠ word := by simpa using (List.mem_filter.1 hb).2
      rw [hlater hna, hlater hnb]
      exact Nat.succ_lt_succ hlt

/-- The first occurrences are what is kept. -/
theorem firsts_iff : Firsts words firsts ↔ firsts = distinct words :=
  ⟨fun h => h.unique (firsts_distinct words), fun h => h ▸ firsts_distinct words⟩

end RegistrySync.Text
