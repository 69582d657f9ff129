/-
Rounding a whole number to a floating-point number.

A whole number of more than 53 significant bits is rounded by dropping its lowest bits. What comes
out is a floating-point number, none is nearer, and of two that are equally near it is the even one:

* `IsDouble`, `IsEvenDouble` — the whole numbers that are floating-point numbers, of any size, and
  those whose last significant bit is zero;
* `RoundsTo` — rounding to the nearest and ties to even, without a word on how it is done;
* `roundsTo_nearestDouble` — `nearestDouble` rounds like this;
* `nearestDouble_of_isDouble`, `nearestDouble_mono` — floating-point numbers stay as they are, and
  the order of numbers is kept;
* `nearestDouble_error` — by how much a number changes at the most;
* `fitsDouble_iff` — the numbers that are too large.
-/
import Mathlib.Algebra.Order.Ring.Nat
import Mathlib.Algebra.Ring.Parity
import Mathlib.Tactic.Ring
import RegistrySync.Settings.Refresh

namespace RegistrySync.Settings

/-- The whole numbers that are floating-point numbers, if there were no bound on their size. -/
def IsDouble (d : Nat) : Prop := ∃ significand scale,
  significand < 2 ^ precision ∧ d = significand * 2 ^ scale

/-- A floating-point number that has all significant bits, of which the last one is zero. -/
def IsEvenDouble (d : Nat) : Prop := ∃ significand scale,
  2 ^ (precision - 1) ≤ significand ∧ significand < 2 ^ precision ∧ Even significand ∧
    d = significand * 2 ^ scale

/-- How far two numbers are apart. -/
def gap (a b : Nat) : Nat := ((a : Int) - b).natAbs

/-- A number and the nearest floating-point number; of two that are equally near, the even one. -/
structure RoundsTo (n d : Nat) : Prop where
  isDouble : IsDouble d
  nearest : ∀ other, IsDouble other → gap n d ≤ gap n other
  even : ∀ other, IsDouble other → gap n other = gap n d → other ≠ d → IsEvenDouble d

/-! ### Dropping the lowest bits -/

theorem div_le_roundShift (n bits : Nat) : n / 2 ^ bits ≤ roundShift n bits := by
  simp only [roundShift, Nat.shiftRight_eq_div_pow]
  split <;> omega

theorem roundShift_le_div (n bits : Nat) : roundShift n bits ≤ n / 2 ^ bits + 1 := by
  simp only [roundShift, Nat.shiftRight_eq_div_pow]
  split <;> omega

/-- What is rounded changes by half a unit at the most. -/
theorem gap_roundShift (n bits : Nat) : 2 * gap n (roundShift n bits * 2 ^ bits) ≤ 2 ^ bits := by
  have hn := Nat.div_add_mod n (2 ^ bits)
  have hr := Nat.mod_lt n (Nat.two_pow_pos bits)
  simp only [roundShift, Nat.shiftRight_eq_div_pow, Nat.shiftLeft_eq, Nat.one_mul, gap]
  rw [Nat.mul_comm] at hn
  -- The multiple of the unit below is a product, which the arithmetic takes for one number.
  split
  · rw [Nat.add_mul, Nat.one_mul]
    generalize n / 2 ^ bits * 2 ^ bits = whole at *
    omega
  · generalize n / 2 ^ bits * 2 ^ bits = whole at *
    omega

/-- Multiples of a unit are a unit apart. -/
theorem mul_add_le_of_lt {k l : Nat} (bits : Nat) (h : k < l) :
    k * 2 ^ bits + 2 ^ bits ≤ l * 2 ^ bits := by
  have hunit := Nat.mul_le_mul_right (2 ^ bits) (Nat.succ_le_of_lt h)
  rwa [Nat.succ_mul] at hunit

/-- No multiple of the unit is nearer. -/
theorem gap_roundShift_le (n bits k : Nat) :
    gap n (roundShift n bits * 2 ^ bits) ≤ gap n (k * 2 ^ bits) := by
  have hgap := gap_roundShift n bits
  obtain hk | hk | hk := Nat.lt_trichotomy k (roundShift n bits)
  · have hunit := mul_add_le_of_lt bits hk
    unfold gap at *
    omega
  · rw [hk]
  · have hunit := mul_add_le_of_lt bits hk
    unfold gap at *
    omega

/-- If another multiple of the unit is equally near, both are half a unit away. -/
theorem gap_roundShift_of_tie {n bits k : Nat} (hk : k ≠ roundShift n bits)
    (h : gap n (k * 2 ^ bits) = gap n (roundShift n bits * 2 ^ bits)) :
    2 * gap n (roundShift n bits * 2 ^ bits) = 2 ^ bits := by
  have hgap := gap_roundShift n bits
  obtain hk | hk := Nat.lt_or_gt_of_ne hk
  · have hunit := mul_add_le_of_lt bits hk
    unfold gap at *
    omega
  · have hunit := mul_add_le_of_lt bits hk
    unfold gap at *
    omega

/-- Half a unit is rounded to the even side. -/
theorem even_roundShift {n bits : Nat}
    (h : 2 * gap n (roundShift n bits * 2 ^ bits) = 2 ^ bits) : Even (roundShift n bits) := by
  have hn := Nat.div_add_mod n (2 ^ bits)
  have hunit := Nat.two_pow_pos bits
  rw [Nat.mul_comm] at hn
  rw [Nat.even_iff]
  simp only [roundShift, Nat.shiftRight_eq_div_pow, Nat.shiftLeft_eq, Nat.one_mul, gap] at h ⊢
  split at h
  · rename_i hup
    rw [if_pos hup]
    rw [Nat.add_mul, Nat.one_mul] at h
    generalize n / 2 ^ bits * 2 ^ bits = whole at *
    omega
  · rename_i hdown
    rw [if_neg hdown]
    generalize n / 2 ^ bits * 2 ^ bits = whole at *
    omega

/-- Rounding to multiples of one unit keeps the order. -/
theorem roundShift_mono {n m : Nat} (bits : Nat) (h : n ≤ m) :
    roundShift n bits ≤ roundShift m bits := by
  obtain hlt | heq := Nat.lt_or_eq_of_le (Nat.div_le_div_right (c := 2 ^ bits) h)
  · exact (roundShift_le_div n bits).trans (Nat.le_trans hlt (div_le_roundShift m bits))
  · have hn := Nat.div_add_mod n (2 ^ bits)
    have hm := Nat.div_add_mod m (2 ^ bits)
    rw [heq] at hn
    simp only [roundShift, Nat.shiftRight_eq_div_pow, Nat.shiftLeft_eq, Nat.one_mul, heq]
    generalize 2 ^ bits * (m / 2 ^ bits) = whole at *
    split <;> split <;> omega

theorem roundShift_mul (k bits : Nat) : roundShift (k * 2 ^ bits) bits = k := by
  have hunit := Nat.two_pow_pos bits
  simp only [roundShift, Nat.shiftRight_eq_div_pow, Nat.shiftLeft_eq, Nat.one_mul,
    Nat.mul_div_cancel _ hunit, Nat.mul_mod_left]
  rw [if_neg (by omega)]

/-! ### The nearest floating-point number -/

theorem nearestDouble_eq (n : Nat) :
    nearestDouble n = roundShift n (excessBits n) * 2 ^ excessBits n := by
  rw [nearestDouble, Nat.shiftLeft_eq]

/-- With the excess bits gone, at most the significant ones are left. -/
theorem lt_of_excessBits (n : Nat) : n < 2 ^ precision * 2 ^ excessBits n := by
  rw [← Nat.pow_add]
  refine Nat.lt_of_lt_of_le (Nat.lt_log2_self (n := n)) (Nat.pow_le_pow_right (by decide) ?_)
  unfold excessBits
  omega

/-- A number with excess bits has all the significant ones. -/
theorem le_of_excessBits {n : Nat} (h : excessBits n ≠ 0) :
    2 ^ (precision - 1) * 2 ^ excessBits n ≤ n := by
  rw [← Nat.pow_add]
  have hlog : precision - 1 + excessBits n = n.log2 := by
    unfold excessBits precision at *
    omega
  rw [hlog]
  refine Nat.log2_self_le ?_
  rintro rfl
  exact h (by decide)

theorem roundShift_le_precision (n : Nat) : roundShift n (excessBits n) ≤ 2 ^ precision :=
  (roundShift_le_div _ _).trans
    (Nat.div_lt_of_lt_mul (by rw [Nat.mul_comm]; exact lt_of_excessBits n))

theorem precision_le_roundShift {n : Nat} (h : excessBits n ≠ 0) :
    2 ^ (precision - 1) ≤ roundShift n (excessBits n) :=
  ((Nat.le_div_iff_mul_le (Nat.two_pow_pos _)).2 (le_of_excessBits h)).trans
    (div_le_roundShift _ _)

theorem nearestDouble_of_no_excess {n : Nat} (h : excessBits n = 0) : nearestDouble n = n := by
  rw [nearestDouble_eq, h]
  simpa using roundShift_mul n 0

theorem isDouble_nearestDouble (n : Nat) : IsDouble (nearestDouble n) := by
  rw [nearestDouble_eq]
  obtain hlt | heq := Nat.lt_or_eq_of_le (roundShift_le_precision n)
  · exact ⟨_, _, hlt, rfl⟩
  -- Rounding up may take one bit more, and then all others are zero.
  · refine ⟨1, precision + excessBits n, by decide, ?_⟩
    rw [heq, Nat.one_mul, Nat.pow_add]

/-- A floating-point number that has as many excess bits ends with so many zeros. -/
theorem exists_mul_of_isDouble {d bits : Nat} (hd : IsDouble d)
    (h : 2 ^ (precision - 1) * 2 ^ bits ≤ d) : ∃ k, d = k * 2 ^ bits := by
  obtain ⟨significand, scale, hs, rfl⟩ := hd
  have hscale : bits ≤ scale := by
    by_contra hlt
    have hle : 2 ^ precision * 2 ^ scale ≤ 2 ^ (precision - 1) * 2 ^ bits := by
      rw [← Nat.pow_add, ← Nat.pow_add]
      refine Nat.pow_le_pow_right (by decide) ?_
      unfold precision
      omega
    have hsize := Nat.mul_lt_mul_of_pos_right hs (Nat.two_pow_pos scale)
    omega
  refine ⟨significand * 2 ^ (scale - bits), ?_⟩
  rw [Nat.mul_assoc, ← Nat.pow_add, Nat.sub_add_cancel hscale]

/-- No floating-point number below the first one with as many bits is as near as that one. -/
theorem gap_first_lt {n d : Nat} (he : excessBits n ≠ 0)
    (hd : d < 2 ^ (precision - 1) * 2 ^ excessBits n) :
    gap n (2 ^ (precision - 1) * 2 ^ excessBits n) < gap n d := by
  have hle := le_of_excessBits he
  unfold gap
  omega

theorem gap_nearestDouble_le (n : Nat) {d : Nat} (hd : IsDouble d) :
    gap n (nearestDouble n) ≤ gap n d := by
  by_cases he : excessBits n = 0
  · rw [nearestDouble_of_no_excess he]
    simp [gap]
  · rw [nearestDouble_eq]
    obtain hlt | hle := Nat.lt_or_ge d (2 ^ (precision - 1) * 2 ^ excessBits n)
    · exact (gap_roundShift_le _ _ _).trans (gap_first_lt he hlt).le
    · obtain ⟨k, rfl⟩ := exists_mul_of_isDouble hd hle
      exact gap_roundShift_le _ _ _

theorem isEvenDouble_of_tie {n d : Nat} (hd : IsDouble d)
    (htie : gap n d = gap n (nearestDouble n)) (hne : d ≠ nearestDouble n) :
    IsEvenDouble (nearestDouble n) := by
  -- A number without bits in excess is a double itself, so that there is no tie.
  by_cases he : excessBits n = 0
  · rw [nearestDouble_of_no_excess he] at htie hne
    unfold gap at htie
    omega
  rw [nearestDouble_eq] at htie hne ⊢
  -- Doubles with fewer bits are farther away than the first one of this scale.
  obtain hlt | hle := Nat.lt_or_ge d (2 ^ (precision - 1) * 2 ^ excessBits n)
  · have hfirst := gap_first_lt he hlt
    have hnearest := gap_roundShift_le n (excessBits n) (2 ^ (precision - 1))
    omega
  obtain ⟨k, rfl⟩ := exists_mul_of_isDouble hd hle
  have hk : k ≠ roundShift n (excessBits n) := fun h => hne (by rw [h])
  have heven := even_roundShift (gap_roundShift_of_tie hk htie)
  obtain hsmall | hall := Nat.lt_or_eq_of_le (roundShift_le_precision n)
  · exact ⟨_, _, precision_le_roundShift he, hsmall, heven, rfl⟩
  · -- Rounding up may reach the next power of two, which is even on the next scale.
    refine ⟨2 ^ (precision - 1), excessBits n + 1, Nat.le_refl _, by decide, by decide, ?_⟩
    rw [hall, Nat.pow_succ, Nat.mul_comm _ 2, ← Nat.mul_assoc]
    rfl

/-- `nearestDouble` rounds to the nearest floating-point number and ties to the even one. -/
theorem roundsTo_nearestDouble (n : Nat) : RoundsTo n (nearestDouble n) where
  isDouble := isDouble_nearestDouble n
  nearest _ hother := gap_nearestDouble_le n hother
  even _ hother htie hne := isEvenDouble_of_tie hother htie hne

/-- A floating-point number is rounded to itself. -/
theorem nearestDouble_of_isDouble {d : Nat} (h : IsDouble d) : nearestDouble d = d := by
  have hgap := gap_nearestDouble_le d h
  unfold gap at hgap
  omega

theorem excessBits_mono {n m : Nat} (h : n ≤ m) : excessBits n ≤ excessBits m := by
  by_cases he : excessBits n = 0
  · omega
  have hpow : 2 ^ (precision - 1 + excessBits n) < 2 ^ (precision + excessBits m) := by
    rw [Nat.pow_add, Nat.pow_add]
    exact Nat.lt_of_le_of_lt ((le_of_excessBits he).trans h) (lt_of_excessBits m)
  have hexp := (Nat.pow_lt_pow_iff_right (by decide)).1 hpow
  unfold precision at hexp
  omega

/-- Rounding keeps the order: between two numbers with different excess bits there is a power of
two. -/
theorem nearestDouble_mono {n m : Nat} (h : n ≤ m) : nearestDouble n ≤ nearestDouble m := by
  obtain hlt | heq := Nat.lt_or_eq_of_le (excessBits_mono h)
  · have hm : excessBits m ≠ 0 := by omega
    calc nearestDouble n
        ≤ 2 ^ precision * 2 ^ excessBits n := by
          rw [nearestDouble_eq]
          exact Nat.mul_le_mul_right _ (roundShift_le_precision n)
      _ ≤ 2 ^ (precision - 1) * 2 ^ excessBits m := by
          rw [← Nat.pow_add, ← Nat.pow_add]
          exact Nat.pow_le_pow_right (by decide) (by unfold precision; omega)
      _ ≤ nearestDouble m := by
          rw [nearestDouble_eq]
          exact Nat.mul_le_mul_right _ (precision_le_roundShift hm)
  · rw [nearestDouble_eq, nearestDouble_eq, heq]
    exact Nat.mul_le_mul_right _ (roundShift_mono _ h)

/-- Rounding changes a number by one part in `2 ^ 53` at the most. -/
theorem nearestDouble_error (n : Nat) :
    2 ^ precision * nearestDouble n ≤ (2 ^ precision + 1) * n := by
  by_cases he : excessBits n = 0
  · rw [nearestDouble_of_no_excess he]
    exact Nat.mul_le_mul_right _ (by decide)
  · have hgap := gap_roundShift n (excessBits n)
    have hle := le_of_excessBits he
    rw [← nearestDouble_eq] at hgap
    unfold gap precision at *
    omega

/-! ### Numbers that are too large -/

/-- The least number that is rounded to one that is too large. -/
def firstTooLarge : Nat := 2 ^ 1024 - 2 ^ 970

theorem fitsDouble_iff {n : Nat} : fitsDouble n = true ↔ n < firstTooLarge := by
  have hfirst : nearestDouble firstTooLarge = doubleBound := by decide +kernel
  have hlast : nearestDouble (firstTooLarge - 1) < doubleBound := by decide +kernel
  rw [fitsDouble, decide_eq_true_iff]
  constructor
  · intro h
    by_contra hlarge
    have hle := nearestDouble_mono (Nat.not_lt.1 hlarge)
    omega
  · intro h
    exact Nat.lt_of_le_of_lt (nearestDouble_mono (Nat.le_sub_one_of_lt h)) hlast

end RegistrySync.Settings
