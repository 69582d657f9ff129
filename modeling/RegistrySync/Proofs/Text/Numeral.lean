/-
Numerals that are written and read again.

* `digitsOf_eq` — a numeral is the characters of its digits, and these denote the number;
* `isDigit_of_mem_digitsOf` — a numeral has nothing but ASCII digits;
* `length_digitsOf_le` — a number below a power of ten has at most as many digits;
* `mapM_digitsOf` — every digit of a numeral is read;
* `mapM_asciiDigit?_eq_some_iff`, `natOfDigits_map` — which texts are read digit by digit, and the
  numbers that they denote;
* `groupedDigits?_of_isDigit`, `trimNumeral_of_not_blank` — where digits of any script, underscores
  and blanks are allowed, a text of ASCII digits is read in the same way.
-/
import RegistrySync.Text.Integer
import RegistrySync.Proofs.Text.Blank
import Mathlib.Algebra.Group.Nat.Defs
import Mathlib.Data.List.Basic

namespace RegistrySync.Text

theorem asciiDigit?_digitChar {d : Nat} (h : d < 10) : asciiDigit? (Nat.digitChar d) = some d := by
  have hall : ∀ d < 10, asciiDigit? (Nat.digitChar d) = some d := by decide
  exact hall d h

theorem isDigit_digitChar {d : Nat} (h : d < 10) : (Nat.digitChar d).isDigit = true := by
  have hall : ∀ d < 10, (Nat.digitChar d).isDigit = true := by decide
  exact hall d h

/-- The numeral of a number is the characters of its digits, and these denote the number. -/
theorem digitsOf_eq (n : Nat) :
    ∃ digits : List Nat, (∀ d ∈ digits, d < 10) ∧ digitsOf n = digits.map Nat.digitChar ∧
      natOfDigits digits = n := by
  -- The last digit is the remainder, and the others are the digits of the tenth.
  induction n using digitsOf.induct with
  | case1 n hn =>
    refine ⟨[n], by simpa using hn, ?_, by simp [natOfDigits]⟩
    rw [digitsOf, if_pos hn, List.map_singleton]
  | case2 n hn ih =>
    obtain ⟨digits, hlt, heq, hval⟩ := ih
    refine ⟨digits ++ [n % 10], ?_, ?_, ?_⟩
    · intro d hd
      cases List.mem_append.1 hd with
      | inl hd => exact hlt d hd
      | inr hd =>
        rw [List.mem_singleton] at hd
        omega
    · rw [digitsOf, if_neg hn, heq, List.map_append, List.map_singleton]
    · rw [natOfDigits_append, hval]
      omega

/-- A numeral has nothing but ASCII digits. -/
theorem isDigit_of_mem_digitsOf {n : Nat} {c : Char} (h : c ∈ digitsOf n) : c.isDigit = true := by
  obtain ⟨digits, hlt, heq, -⟩ := digitsOf_eq n
  rw [heq, List.mem_map] at h
  obtain ⟨d, hd, rfl⟩ := h
  exact isDigit_digitChar (hlt d hd)

theorem isBlank_of_mem_digitsOf {n : Nat} {c : Char} (h : c ∈ digitsOf n) : isBlank c = false :=
  isBlank_of_isAlphanum (by simp [Char.isAlphanum, isDigit_of_mem_digitsOf h])

/-- A number below a power of ten has at most as many digits. -/
theorem length_digitsOf_le (k : Nat) {n : Nat} (h : n < 10 ^ (k + 1)) :
    (digitsOf n).length ≤ k + 1 := by
  induction k generalizing n with
  | zero =>
    rw [digitsOf, if_pos (by omega)]
    simp
  | succ k ih =>
    rw [digitsOf]
    split
    · simp
    · -- Without its last digit the number is below the power before.
      have hq : n / 10 < 10 ^ (k + 1) := by
        rw [Nat.div_lt_iff_lt_mul (by omega), ← Nat.pow_succ]
        exact h
      rw [List.length_append]
      exact Nat.add_le_add_right (ih hq) 1

theorem mapM_map_digitChar {digits : List Nat} (h : ∀ d ∈ digits, d < 10) :
    (digits.map Nat.digitChar).mapM asciiDigit? = some digits := by
  induction digits with
  | nil => rfl
  | cons d rest ih =>
    obtain ⟨hd, hr⟩ := List.forall_mem_cons.1 h
    rw [List.map_cons, List.mapM_cons, asciiDigit?_digitChar hd, ih hr]
    rfl

/-- Every digit of a numeral is read, and the digits denote the number. -/
theorem mapM_digitsOf (n : Nat) :
    ∃ digits, (digitsOf n).mapM asciiDigit? = some digits ∧
      digits.length = (digitsOf n).length ∧ natOfDigits digits = n := by
  obtain ⟨digits, hlt, heq, hval⟩ := digitsOf_eq n
  refine ⟨digits, ?_, ?_, hval⟩
  · rw [heq, mapM_map_digitChar hlt]
  · rw [heq, List.length_map]

theorem asciiDigit?_eq_some_iff {c : Char} {d : Nat} :
    asciiDigit? c = some d ↔ c.isDigit = true ∧ d = c.toNat - '0'.toNat := by
  by_cases h : c.isDigit = true
  · rw [asciiDigit?, if_pos h, Option.some_inj]
    exact ⟨fun heq => ⟨h, heq.symm⟩, fun heq => heq.2.symm⟩
  · rw [asciiDigit?, if_neg h]
    exact ⟨nofun, fun heq => absurd heq.1 h⟩

/-- A text is read digit by digit exactly if it has nothing but ASCII digits. -/
theorem mapM_asciiDigit?_eq_some_iff {cs : List Char} {digits : List Nat} :
    cs.mapM asciiDigit? = some digits ↔
      (∀ c ∈ cs, c.isDigit = true) ∧ digits = cs.map fun c => c.toNat - '0'.toNat := by
  induction cs generalizing digits with
  | nil =>
    rw [List.mapM_nil, List.map_nil]
    exact ⟨fun h => ⟨nofun, (Option.some.inj h).symm⟩, fun h => congrArg some h.2.symm⟩
  | cons c rest ih =>
    rw [List.mapM_cons, List.forall_mem_cons, List.map_cons]
    constructor
    · intro h
      obtain ⟨d, hd, htail⟩ := Option.bind_eq_some_iff.1 h
      obtain ⟨others, hothers, hcons⟩ := Option.bind_eq_some_iff.1 htail
      obtain ⟨hc, rfl⟩ := asciiDigit?_eq_some_iff.1 hd
      obtain ⟨hrest, rfl⟩ := ih.1 hothers
      exact ⟨⟨hc, hrest⟩, (Option.some.inj hcons).symm⟩
    · rintro ⟨⟨hc, hrest⟩, rfl⟩
      rw [asciiDigit?_eq_some_iff.2 ⟨hc, rfl⟩, ih.2 ⟨hrest, rfl⟩]
      rfl

/-- The number that digits denote is the one that their characters spell. -/
theorem natOfDigits_map (cs : List Char) :
    natOfDigits (cs.map fun c => c.toNat - '0'.toNat) = Nat.ofDigitChars 10 cs 0 := by
  rw [natOfDigits, List.foldl_map]
  rfl

/-! ### Numerals of any script -/

theorem digitValue?_of_isDigit {c : Char} (h : c.isDigit = true) :
    digitValue? c = some (c.toNat - '0'.toNat) := by
  -- The script of the ASCII digits is the first of all.
  obtain ⟨hlow, hhigh⟩ := Char.isDigit_iff_toNat.1 h
  have hscript : decimalZeros.find? (fun first => first ≤ c.toNat && c.toNat ≤ first + 9) =
      some '0'.toNat := List.find?_cons_of_pos (by simpa using ⟨hlow, hhigh⟩)
  rw [digitValue?, hscript]
  rfl

/-- A text of ASCII digits is read digit by digit. -/
theorem groupedDigits?_of_isDigit {cs : List Char} (hne : cs ≠ [])
    (h : ∀ c ∈ cs, c.isDigit = true) :
    groupedDigits? cs = some (cs.map fun c => c.toNat - '0'.toNat) := by
  induction cs with
  | nil => exact absurd rfl hne
  | cons c rest ih =>
    obtain ⟨hc, hrest⟩ := List.forall_mem_cons.1 h
    cases rest with
    | nil =>
      rw [groupedDigits?, digitValue?_of_isDigit hc]
      rfl
    | cons next others =>
      -- An underscore would be passed over, but it is no digit.
      have hnext : next ≠ '_' := by
        rintro rfl
        exact absurd (hrest '_' List.mem_cons_self) (by decide)
      rw [groupedDigits?, digitValue?_of_isDigit hc]
      simp only
      rw [if_neg hnext, ih (List.cons_ne_nil _ _) hrest]
      rfl

theorem trimNumeral_of_not_blank {cs : List Char} (h : ∀ c ∈ cs, isBlank c = false) :
    trimNumeral cs = cs := by
  have hdrop : ∀ {cs : List Char}, (∀ c ∈ cs, isBlank c = false) →
      cs.dropWhile isNumeralBlank = cs := by
    intro cs h
    cases cs with
    | nil => rfl
    | cons c rest => simp [isNumeralBlank, h c List.mem_cons_self]
  rw [trimNumeral, hdrop h, hdrop fun c hc => h c (List.mem_reverse.1 hc), List.reverse_reverse]

end RegistrySync.Text
