/-
The search for tokens as a pattern of the usual kind.

A letter or digit, host characters, a letter or digit, a dot or none, and parameters or none,
where a repetition is tried with more characters before it is tried with fewer: what this finds in
a text is what the search for the longest stretches finds.

* `domainPattern` — the pattern;
* `front?_hostPattern_eq_some_iff` — its first part fits where there is a host, and takes the dot
  along;
* `front?_paramPattern` — its second part takes what the search takes for parameters;
* `front?_domainPattern`, `map_findFrom` — the pattern fits as a token starts, and at the same
  places.
-/
import RegistrySync.Proofs.DomainSpec.Position
import RegistrySync.Proofs.Text.Pattern

namespace RegistrySync.DomainSpec

open Text (Pattern Fit)

variable {cs : List Char} {j : Nat}

/-! ### The pattern -/

/-- A letter or digit, host characters, a letter or digit, and a dot or none. -/
def hostPattern : Pattern :=
  .seq (.char Char.isAlphanum)
    (.seq (.many isHostChar) (.seq (.char Char.isAlphanum) (.opt (.char (· == '.')))))

/-- A colon and characters that are no blanks. -/
def paramPattern : Pattern := .seq (.char (· == ':')) (.group 3 (.many isBlockChar))

/-- A host, with a dot or none, and parameters or none. -/
def domainPattern : Pattern := .seq (.group 1 hostPattern) (.opt (.group 2 paramPattern))

/-- A host without the dot that may stand behind it. -/
def withoutDot (host : List Char) : List Char :=
  if host.getLast? = some '.' then host.dropLast else host

/-- The token that a fit of the pattern gives. -/
def tokenOf (fit : Fit) : Token :=
  ⟨withoutDot ((fit.group? 1).getD []), fit.group? 3, fit.width⟩

theorem front?_dot : (Pattern.opt (.char (· == '.'))).front? cs = some ⟨dotWidth cs, []⟩ := by
  rw [Pattern.front?_opt]
  cases cs with
  | nil => rfl
  | cons c rest =>
    by_cases hc : c = '.'
    · subst hc
      rfl
    · simp [Pattern.front?_char_cons, dotWidth, hc]

/-- The end of a host: a letter or digit, and a dot or none. -/
theorem front?_hostEnd :
    (Pattern.seq (.char Char.isAlphanum) (.opt (.char (· == '.')))).front? cs =
      if cs.head?.any Char.isAlphanum then some ⟨1 + dotWidth (cs.drop 1), []⟩ else none := by
  cases cs with
  | nil => rw [Pattern.front?_char_seq_nil]; rfl
  | cons c rest =>
    rw [Pattern.front?_char_seq_cons, front?_dot]
    rfl

theorem front?_hostEnd_drop_eq_some_iff {n : Nat} {fit : Fit} :
    (Pattern.seq (.char Char.isAlphanum) (.opt (.char (· == '.')))).front? (cs.drop n) = some fit ↔
      Has cs Char.isAlphanum n ∧ fit = ⟨1 + dotWidth (cs.drop (n + 1)), []⟩ := by
  have hhas : Has cs Char.isAlphanum n ↔ (cs.drop n).head?.any Char.isAlphanum = true := by
    rw [← has_zero_iff, has_drop, Nat.add_zero]
  rw [front?_hostEnd, hhas, List.drop_drop]
  by_cases h : (cs.drop n).head?.any Char.isAlphanum = true
  · rw [if_pos h, Option.some_inj]
    exact ⟨fun heq => ⟨h, heq.symm⟩, fun heq => heq.2.symm⟩
  · rw [if_neg h]
    exact ⟨nofun, fun heq => absurd heq.1 h⟩

theorem front?_hostEnd_drop_eq_none_iff {n : Nat} :
    (Pattern.seq (.char Char.isAlphanum) (.opt (.char (· == '.')))).front? (cs.drop n) = none ↔
      ¬ Has cs Char.isAlphanum n := by
  rw [← Option.not_isSome_iff_eq_none, Option.isSome_iff_exists]
  simp only [front?_hostEnd_drop_eq_some_iff, exists_and_left, exists_eq, and_true]

/-- The pattern for a host fits where there is one, and takes its dot along. -/
theorem front?_hostPattern_eq_some_iff {fit : Fit} :
    hostPattern.front? cs = some fit ↔
      ∃ j, HostAt cs 0 j ∧ fit = ⟨j + 1 + dotWidth (cs.drop (j + 1)), []⟩ := by
  cases cs with
  | nil =>
    rw [hostPattern, Pattern.front?_char_seq_nil]
    refine ⟨nofun, ?_⟩
    rintro ⟨j, hj, -⟩
    exact absurd hj.first.lt_length (Nat.not_lt_zero 0)
  | cons c rest =>
    rw [hostPattern, Pattern.front?_char_seq_cons]
    constructor
    · intro h
      split at h
      · rename_i hc
        obtain ⟨found, hfound, rfl⟩ := Option.map_eq_some_iff.1 h
        -- The repetition has taken `n` characters, and with more of them nothing that can end a
        -- host would have been left: that is what makes the stretch the longest one.
        obtain ⟨n, hn, ⟨behind, hbehind, rfl⟩, hnone⟩ :=
          Pattern.front?_many_seq_eq_some_iff.1 hfound
        obtain ⟨halpha, rfl⟩ := front?_hostEnd_drop_eq_some_iff.1 hbehind
        refine ⟨n + 2, hostAt_cons_iff.2 ⟨hc, hn, halpha, fun larger hlarger hlt => ?_⟩, ?_⟩
        · exact front?_hostEnd_drop_eq_none_iff.1 (hnone larger hlarger hlt)
        · have hdrop : rest.drop (n + 1 + 1) = (c :: rest).drop (n + 2 + 1) := rfl
          simp only [Fit.append, List.nil_append, hdrop, Fit.mk.injEq, and_true]
          omega
      · cases h
    · rintro ⟨j, hj, rfl⟩
      -- A host has a first and a last character, and so `n` characters between them.
      obtain ⟨n, rfl⟩ := Nat.exists_eq_add_of_le' (show 2 ≤ j by have := hj.long; omega)
      obtain ⟨hc, hn, halpha, hnone⟩ := hostAt_cons_iff.1 hj
      rw [if_pos hc, Option.map_eq_some_iff]
      refine ⟨⟨n + 1 + (1 + dotWidth (rest.drop (n + 2))), []⟩, ?_, ?_⟩
      · refine Pattern.front?_many_seq_eq_some_iff.2
          ⟨n, hn, ⟨_, front?_hostEnd_drop_eq_some_iff.2 ⟨halpha, rfl⟩, rfl⟩, ?_⟩
        intro larger hlarger hlt
        exact front?_hostEnd_drop_eq_none_iff.2 (hnone larger hlarger hlt)
      · simp only [Fit.append, List.nil_append, List.drop_succ_cons, Fit.mk.injEq, and_true]
        omega

/-- The pattern for parameters takes what the search takes for them. -/
theorem front?_paramPattern :
    paramPattern.front? cs = (paramBlock cs).map fun block => ⟨1 + block.length, [(3, block)]⟩ := by
  cases cs with
  | nil => rfl
  | cons c rest =>
    rw [paramPattern, Pattern.front?_char_seq_cons]
    by_cases hc : c = ':'
    · subst hc
      have hblock : paramBlock (':' :: rest) = if (rest.takeWhile isBlockChar).isEmpty then none
          else some (rest.takeWhile isBlockChar) := rfl
      have htake := List.prefix_iff_eq_take.1 (List.takeWhile_prefix (l := rest) isBlockChar)
      rw [hblock, Pattern.front?_group, Pattern.front?_many]
      by_cases hnil : rest.takeWhile isBlockChar = []
      · simp [hnil]
      · simp [hnil, Fit.append, ← htake]
    · simp [paramBlock, hc]

/-! ### Tokens -/

/-- The dot behind a host is dropped, and nothing else is. -/
theorem withoutDot_take (h : HostAt cs 0 j) :
    withoutDot (cs.take (j + 1 + dotWidth (cs.drop (j + 1)))) = cs.take (j + 1) := by
  rw [dotWidth_drop]
  by_cases hdot : cs[j + 1]? = some '.'
  · rw [if_pos hdot, List.take_add_one, hdot]
    simp [withoutDot]
  · obtain ⟨c, hc, halpha⟩ := h.alphanum
    have hne : c ≠ '.' := by
      rintro rfl
      cases halpha
    rw [if_neg hdot, Nat.add_zero, List.take_add_one, hc]
    simp [withoutDot, hne]

/-- The pattern fits as a token starts. -/
theorem front?_domainPattern (cs : List Char) :
    (domainPattern.front? cs).map tokenOf = Token.front? cs := by
  rw [domainPattern, Pattern.front?_seq_opt, Pattern.front?_group, Option.map_map, Option.map_map]
  cases hf : hostPattern.front? cs with
  | none =>
    symm
    refine front?_eq_none_iff.2 fun j hj => ?_
    rw [front?_hostPattern_eq_some_iff.2 ⟨j, hj, rfl⟩] at hf
    cases hf
  | some fit =>
    obtain ⟨j, hj, rfl⟩ := front?_hostPattern_eq_some_iff.1 hf
    -- The host is in the text up to its last character, so that much can be taken.
    have hlen : (cs.take (j + 1)).length = j + 1 := by
      have hlt := hj.alphanum.lt_length
      rw [List.length_take]
      omega
    rw [Option.map_some, front?_eq_some_iff.2 ⟨j, hj, rfl⟩, ofHost_eq, hlen]
    simp only [Function.comp_apply, Pattern.front?_group, front?_paramPattern]
    have hdot := withoutDot_take hj
    cases paramBlock (cs.drop (j + 1 + dotWidth (cs.drop (j + 1)))) with
    | none => simp [tokenOf, Fit.append, Fit.group?, blockWidth, hdot]
    | some block => simp [tokenOf, Fit.append, Fit.group?, List.lookup_cons, blockWidth, hdot]

/-- The places where the pattern fits are the tokens of a text. -/
theorem map_findFrom (position skip : Nat) (cs : List Char) :
    (domainPattern.findFrom position skip cs).map (fun found => tokenOf found.2) =
      tokensFrom skip cs := by
  induction cs generalizing position skip with
  | nil => cases skip <;> rfl
  | cons c rest ih =>
    cases skip with
    | succ skip => exact ih (position + 1) skip
    | zero =>
      rw [Pattern.findFrom, tokensFrom, ← front?_domainPattern]
      cases domainPattern.front? (c :: rest) with
      | none => exact ih (position + 1) 0
      | some fit => exact congrArg (tokenOf fit :: ·) (ih (position + 1) (fit.width - 1))

end RegistrySync.DomainSpec
