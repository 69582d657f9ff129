/-
The algebra of names.

Names are put down by walking over values of any kind. The walk keeps the names that it has put
down, in their order, and apart from them the set of those that it has seen; the two stay in step.

* `Naming` — values of some kind: which of them count as none, and the texts of the others;
* `Roll`, `Naming.enrol` — the walk, and what one value does to it;
* `Roll.InStep`, `names_enrol` — a walk keeps what it finds, and adds the first occurrences of the
  names that it does not find;
* `uniqueNames_eq` — containers are named by such a walk;
* `names_algebra` — which names there are and in which order, that naming the names again leaves
  them as they are, and the names of two lists of values, one behind the other.
-/
import RegistrySync.Proofs.Reconciler.Merging
import Mathlib.Data.Finset.Insert

namespace RegistrySync.Reconciler

variable {α : Type}

/-! ### Values and their names -/

/-- Values of some kind, as far as names go: which of them count as none, and their texts. -/
structure Naming (α : Type) where
  isNone : α → Bool
  text : α → String

namespace Naming

/-- The values by which containers are given. -/
def ofJson : Naming Json := ⟨Json.isEmpty, Json.text⟩

/-- A value as a name, without blanks around it. -/
def name (naming : Naming α) (value : α) : String :=
  if naming.isNone value then "" else Text.strip (naming.text value)

/-- What values are called, apart from those without a name. -/
def called (naming : Naming α) (values : List α) : List String :=
  (values.map naming.name).filter (· ≠ "")

variable {naming : Naming α}

theorem name_ne_empty_iff {value : α} :
    naming.name value ≠ "" ↔ naming.isNone value = false ∧
      ∃ c ∈ (naming.text value).toList, Text.isBlank c = false := by
  unfold name
  cases naming.isNone value with
  | true => simp
  | false => simp [Text.strip_eq_empty_iff]

theorem mem_called {values : List α} {word : String} :
    word ∈ naming.called values ↔ ∃ value ∈ values, naming.isNone value = false ∧
      word = Text.strip (naming.text value) ∧
        ∃ c ∈ (naming.text value).toList, Text.isBlank c = false := by
  simp only [called, List.mem_filter, List.mem_map, decide_eq_true_eq]
  constructor
  · rintro ⟨⟨value, hvalue, rfl⟩, hne⟩
    obtain ⟨hsome, hblank⟩ := name_ne_empty_iff.1 hne
    exact ⟨value, hvalue, hsome, by simp [name, hsome], hblank⟩
  · rintro ⟨value, hvalue, hsome, rfl, hblank⟩
    have hname : naming.name value = Text.strip (naming.text value) := by simp [name, hsome]
    exact ⟨⟨value, hvalue, hname⟩, hname ▸ name_ne_empty_iff.2 ⟨hsome, hblank⟩⟩

/-- What is called by a name has no blanks around it. -/
theorem trimmed_of_mem_called {values : List α} {word : String} (h : word ∈ naming.called values) :
    Text.Trimmed word.toList := by
  obtain ⟨value, -, -, rfl, -⟩ := mem_called.1 h
  exact Text.trimmed_strip _

end Naming

/-! ### The walk -/

/-- The names that have been put down, and those that have been seen. -/
structure Roll where
  names : List String := []
  seen : Finset String := ∅

namespace Roll

/-- Put a name down, unless it is empty or has been seen. -/
def add (roll : Roll) (word : String) : Roll :=
  if word = "" ∨ word ∈ roll.seen then roll else ⟨roll.names ++ [word], insert word roll.seen⟩

/-- What has been seen is what has been put down, and nothing has been put down twice. -/
structure InStep (roll : Roll) : Prop where
  mem_seen : ∀ word, word ∈ roll.seen ↔ word ∈ roll.names
  nodup : roll.names.Nodup

theorem inStep_empty : InStep {} := ⟨fun word => by simp, List.nodup_nil⟩

/-- One name keeps the two in step. -/
theorem InStep.add {roll : Roll} (h : roll.InStep) (word : String) : (roll.add word).InStep := by
  unfold Roll.add
  split
  · exact h
  · rename_i hnew
    have hfresh : word ∉ roll.names := fun hmem => hnew (Or.inr ((h.mem_seen word).2 hmem))
    constructor
    · intro other
      simp [h.mem_seen other, or_comm]
    · exact h.nodup.append (List.nodup_singleton word) (by simpa using hfresh)

end Roll

/-- Walk over values. -/
def Naming.enrol (naming : Naming α) (roll : Roll) (values : List α) : Roll :=
  values.foldl (fun roll value => roll.add (naming.name value)) roll

/-- The names that values give. -/
def Naming.names (naming : Naming α) (values : List α) : List String :=
  (naming.enrol {} values).names

/-! ### What a walk leaves -/

/-- First occurrences that are looked for among words that are there already. -/
theorem distinct_cons_of_old {word : String} {rest words : List String} (h : word ∈ words) :
    (Text.distinct (word :: rest)).filter (· ∉ words) =
      (Text.distinct rest).filter (· ∉ words) := by
  have hsame : ∀ other, other ∉ words → other ≠ word := by
    rintro other hother rfl
    exact hother h
  rw [Text.distinct, List.filter_cons_of_neg (by simpa using h), List.filter_filter]
  refine List.filter_congr fun other _ => ?_
  by_cases hother : other ∈ words
  · simp [hother]
  · simp [hother, hsame other hother]

theorem distinct_cons_of_new {word : String} {rest words : List String} (h : word ∉ words) :
    (Text.distinct (word :: rest)).filter (· ∉ words) =
      word :: (Text.distinct rest).filter (· ∉ words ++ [word]) := by
  rw [Text.distinct, List.filter_cons_of_pos (by simpa using h), List.filter_filter]
  exact congrArg (word :: ·) (List.filter_congr fun other _ => by simp)

variable {naming : Naming α}

/-- A walk keeps what it finds, and puts down behind it the first occurrences of the names that it
does not find. -/
theorem names_enrol {roll : Roll} (h : roll.InStep) (values : List α) :
    (naming.enrol roll values).InStep ∧
      (naming.enrol roll values).names =
        roll.names ++ (Text.distinct (naming.called values)).filter (· ∉ roll.names) := by
  -- What has been put down grows from value to value, so it is left open.
  induction values generalizing roll with
  | nil => exact ⟨h, by simp [Naming.enrol, Naming.called, Text.distinct]⟩
  | cons value rest ih =>
    obtain ⟨hstep, hnames⟩ := ih (h.add (naming.name value))
    refine ⟨hstep, hnames.trans ?_⟩
    by_cases hempty : naming.name value = ""
    · have hcalled : naming.called (value :: rest) = naming.called rest := by
        simp [Naming.called, hempty]
      rw [hcalled, Roll.add, if_pos (Or.inl hempty)]
    · have hcalled : naming.called (value :: rest) = naming.name value :: naming.called rest := by
        simp [Naming.called, hempty]
      rw [hcalled]
      by_cases hold : naming.name value ∈ roll.names
      · rw [Roll.add, if_pos (Or.inr ((h.mem_seen _).2 hold)), distinct_cons_of_old hold]
      · have hnew : ¬(naming.name value = "" ∨ naming.name value ∈ roll.seen) := by
          rintro (hnone | hseen)
          · exact hempty hnone
          · exact hold ((h.mem_seen _).1 hseen)
        rw [Roll.add, if_neg hnew, distinct_cons_of_new hold, List.append_assoc]
        rfl

theorem names_eq (values : List α) :
    naming.names values = Text.distinct (naming.called values) := by
  rw [Naming.names, (names_enrol Roll.inStep_empty values).2]
  simp

/-- Containers are named by such a walk. -/
theorem uniqueNames_eq (values : List Json) : uniqueNames values = Naming.ofJson.names values := by
  rw [names_eq]
  exact Text.firsts_iff.1 (firsts_uniqueNames values)

/-- Names that are each there once, without blanks around them, are named as they are. -/
theorem uniqueNames_of_names {words : List String} (hnodup : words.Nodup)
    (hne : ∀ word ∈ words, word ≠ "") (htrimmed : ∀ word ∈ words, Text.Trimmed word.toList) :
    uniqueNames (words.map .str) = words := by
  have hname : ∀ word ∈ words, Naming.ofJson.name (.str word) = word := by
    intro word hword
    have hsome : Naming.ofJson.isNone (.str word) = false := by
      simpa [Naming.ofJson, Json.isEmpty, String.isEmpty_iff] using hne word hword
    rw [Naming.name, hsome]
    simp [Naming.ofJson, Text.strip, (htrimmed word hword).trim_eq]
  have hcalled : Naming.ofJson.called (words.map .str) = words := by
    have hmap : (words.map Json.str).map Naming.ofJson.name = words := by
      rw [List.map_map]
      exact (List.map_congr_left hname).trans (List.map_id words)
    rw [Naming.called, hmap]
    exact List.filter_eq_self.2 fun word hword => decide_eq_true (hne word hword)
  rw [uniqueNames_eq, names_eq, hcalled, Text.distinct_of_nodup hnodup]

/-! ### The algebra -/

/-- The place of the first value of that name. -/
def Naming.firstAt (naming : Naming α) (values : List α) (word : String) : Nat :=
  values.findIdx fun value => naming.name value = word

/-- Of two names, the one that is called first is the one that belongs to the earlier value. -/
theorem firstAt_lt_of_idxOf_called {values : List α} {a b : String} (hb : b ≠ "")
    (h : (naming.called values).idxOf a < (naming.called values).idxOf b) :
    naming.firstAt values a < naming.firstAt values b := by
  induction values with
  | nil => exact absurd h (by simp [Naming.called])
  | cons value rest ih =>
    by_cases hva : naming.name value = a
    · have hvb : naming.name value ≠ b := by
        rintro rfl
        rw [hva] at h
        exact absurd h (Nat.lt_irrefl _)
      simp [Naming.firstAt, List.findIdx_cons, hva, hva ▸ hvb]
    · by_cases hvb : naming.name value = b
      · have hcalled : naming.called (value :: rest) = b :: naming.called rest := by
          simp [Naming.called, hvb, hb]
        rw [hcalled, List.idxOf_cons_self] at h
        exact absurd h (Nat.not_lt_zero _)
      · -- The value stands in front of both, with or without a name of its own.
        have hrest : (naming.called rest).idxOf a < (naming.called rest).idxOf b := by
          by_cases hempty : naming.name value = ""
          · simpa [Naming.called, hempty] using h
          · have hcalled : naming.called (value :: rest) =
                naming.name value :: naming.called rest := by simp [Naming.called, hempty]
            rw [hcalled, List.idxOf_cons_ne _ hva, List.idxOf_cons_ne _ hvb] at h
            exact Nat.lt_of_succ_lt_succ h
        simpa [Naming.firstAt, List.findIdx_cons, hva, hvb] using ih hrest

/-- The names that values give, be they of any kind, are without repetitions. They are the texts,
without blanks around them, of those values that do not count as none and whose texts are not blank,
and they stand in the order of the first values that give them. Names that are named again stay as
they are. Values behind others add those of their names that the others do not give. Containers are
named in this way. -/
theorem names_algebra (naming : Naming α) (xs ys : List α) :
    let names := naming.names xs
    names.Nodup ∧
      (∀ word, word ∈ names ↔ ∃ value ∈ xs, naming.isNone value = false ∧
        word = Text.strip (naming.text value) ∧
          ∃ c ∈ (naming.text value).toList, Text.isBlank c = false) ∧
      (names.Pairwise fun a b => naming.firstAt xs a < naming.firstAt xs b) ∧
      uniqueNames (names.map .str) = names ∧
      naming.names (xs ++ ys) = names ++ (naming.names ys).filter (· ∉ names) ∧
      ∀ values, uniqueNames values = Naming.ofJson.names values := by
  intro names
  have hfirsts : Text.Firsts (naming.called xs) names := Text.firsts_iff.2 (names_eq xs)
  have hcalled : ∀ word ∈ names, word ∈ naming.called xs := fun word => (hfirsts.mem_iff word).1
  have hne : ∀ word ∈ names, word ≠ "" := fun word hword =>
    of_decide_eq_true (List.mem_filter.1 (hcalled word hword)).2
  refine ⟨hfirsts.nodup, fun word => (hfirsts.mem_iff word).trans Naming.mem_called, ?_, ?_, ?_,
    uniqueNames_eq⟩
  · exact hfirsts.ordered.imp_of_mem fun _ hb hlt => firstAt_lt_of_idxOf_called (hne _ hb) hlt
  · exact uniqueNames_of_names hfirsts.nodup hne fun word hword =>
      Naming.trimmed_of_mem_called (hcalled word hword)
  · -- The walk over both lists finds the names of the first one when it comes to the second.
    have hfirst : (naming.enrol {} xs).InStep := (names_enrol Roll.inStep_empty xs).1
    rw [names_eq ys, Naming.names, Naming.enrol, List.foldl_append]
    exact (names_enrol hfirst ys).2

example :
    uniqueNames [.str " web", .null, .str "\u2003", .int 0, .str "db", .bool true, .str "web\n"] =
      ["web", "db", "True"] := by
  decide +kernel

end RegistrySync.Reconciler
