/-
The interval between two cycles that an expiry gives when none is chosen.

The interval is 45 percent of the expiry, computed with floating-point numbers: the expiry is
rounded, multiplied by the floating-point number nearest to 0.45, and the product is rounded again.

* `twenty_mul_ratioMantissa` — the factor is a little more than 0.45;
* `ratioOf_eq` — up to `10 ^ 15` the two roundings are not seen: what is added by the factor and by
  rounding is less than the twentieth that a product lacks to the next whole number;
* `ratioOf_mono`, `two_mul_ratioOf_lt` — the order is kept, and two intervals are shorter than the
  expiry, whatever its size;
* `unset_refresh_follows_expire` — what all of this means for the interval in force.
-/
import RegistrySync.Proofs.Settings.Refusal
import RegistrySync.Proofs.Settings.Rounding

namespace RegistrySync.Settings

/-! ### The factor -/

/-- The factor is more than 0.45 by a fifth of its last bit, so no floating-point number is nearer
to 0.45. -/
theorem twenty_mul_ratioMantissa : 20 * ratioMantissa = 9 * 2 ^ ratioScale + 4 := by decide

theorem ratioOf_eq_div (n : Nat) :
    ratioOf n = nearestDouble (nearestDouble n * ratioMantissa) / 2 ^ ratioScale := by
  rw [ratioOf, Nat.shiftRight_eq_div_pow]

theorem ratioOf_mono {n m : Nat} (h : n ≤ m) : ratioOf n ≤ ratioOf m := by
  rw [ratioOf_eq_div, ratioOf_eq_div]
  exact Nat.div_le_div_right
    (nearestDouble_mono (Nat.mul_le_mul_right _ (nearestDouble_mono h)))

/-- Each of the two roundings adds one part in `2 ^ 53` at the most, which is far from what 45
percent lack to a half. -/
theorem two_mul_ratioOf_lt {n : Nat} (h : 0 < n) : 2 * ratioOf n < n := by
  have hexpire := nearestDouble_error n
  have hproduct := nearestDouble_error (nearestDouble n * ratioMantissa)
  have hwhole := Nat.div_mul_le_self (nearestDouble (nearestDouble n * ratioMantissa))
    (2 ^ ratioScale)
  rw [← ratioOf_eq_div] at hwhole
  have hfactor := twenty_mul_ratioMantissa
  unfold precision ratioScale ratioMantissa at *
  omega

/-- A product of a number up to `10 ^ 15` has at most 50 bits more than a floating-point number. -/
theorem excessBits_product_le {n : Nat} (h : n ≤ 10 ^ 15) :
    excessBits (n * ratioMantissa) ≤ 50 := by
  calc excessBits (n * ratioMantissa)
      ≤ excessBits (10 ^ 15 * ratioMantissa) := excessBits_mono (Nat.mul_le_mul_right _ h)
    _ ≤ 50 := by decide

theorem ratioOf_eq {n : Nat} (h : n ≤ 10 ^ 15) : ratioOf n = 9 * n / 20 := by
  have hself : nearestDouble n = n :=
    nearestDouble_of_isDouble ⟨n, 0, Nat.lt_of_le_of_lt h (by decide), (Nat.mul_one n).symm⟩
  have hfactor := twenty_mul_ratioMantissa
  have hproduct : 20 * (n * ratioMantissa) = 9 * n * 2 ^ ratioScale + 4 * n := by
    rw [Nat.mul_left_comm, hfactor]
    ring
  have hdiv := Nat.div_add_mod (9 * n) 20
  have hmod := Nat.mod_lt (9 * n) (show 0 < 20 by decide)
  -- The whole number below is a floating-point number itself, so rounding does not go below it.
  have hbelow : 9 * n / 20 * 2 ^ ratioScale ≤ nearestDouble (n * ratioMantissa) := by
    have hdouble : IsDouble (9 * n / 20 * 2 ^ ratioScale) :=
      ⟨9 * n / 20, ratioScale, by unfold precision; omega, rfl⟩
    rw [← nearestDouble_of_isDouble hdouble]
    refine nearestDouble_mono ?_
    unfold ratioScale at *
    omega
  -- Rounding adds half a unit at the most, which does not reach the next whole number.
  have habove : nearestDouble (n * ratioMantissa) < (9 * n / 20 + 1) * 2 ^ ratioScale := by
    have hgap := gap_roundShift (n * ratioMantissa) (excessBits (n * ratioMantissa))
    have hunit : 2 ^ excessBits (n * ratioMantissa) ≤ 2 ^ 50 :=
      Nat.pow_le_pow_right (by decide) (excessBits_product_le h)
    rw [← nearestDouble_eq] at hgap
    unfold gap ratioScale at *
    omega
  rw [ratioOf_eq_div, hself]
  exact Nat.div_eq_of_lt_le hbelow habove

/-! ### The interval in force -/

theorem defaultRefresh?_of_lt {expire : Int} (h : expire.natAbs < firstTooLarge) :
    defaultRefresh? expire =
      some (max minRefresh (if expire < 0 then 0 else ratioOf expire.natAbs)) := by
  rw [defaultRefresh?, if_pos (fitsDouble_iff.2 h)]

/-- The interval in force for an expiry when none is chosen. -/
theorem resolveRefresh_of_default {expire seconds : Int}
    (h : defaultRefresh? expire = some seconds) :
    resolveRefresh (some expire) none = .ok (some seconds) := by
  unfold resolveRefresh
  simp only [h]

theorem resolveRefresh_unset {expire : Int} (h : expire.natAbs < firstTooLarge) :
    resolveRefresh (some expire) none =
      .ok (some (max minRefresh (if expire < 0 then 0 else ratioOf expire.natAbs))) :=
  resolveRefresh_of_default (defaultRefresh?_of_lt h)

theorem resolveRefresh_unset_of_pos {expire : Nat} (h : expire < firstTooLarge) :
    resolveRefresh (some (expire : Int)) none =
      .ok (some (max minRefresh (ratioOf expire : Int))) := by
  have hpos : ¬ ((expire : Int) < 0) := Int.not_lt.2 (Int.natCast_nonneg expire)
  rw [resolveRefresh_unset (by simpa using h), if_neg hpos, Int.natAbs_natCast]

/-- A negative expiry gives a negative product, for which the least interval stands in as it does
for nothing. -/
theorem max_sign_mul (expire : Int) (n : Nat) (h : expire = 0 → n = 0) :
    max minRefresh (if expire < 0 then 0 else (n : Int)) = max minRefresh (expire.sign * n) := by
  obtain hneg | rfl | hpos := Int.lt_trichotomy expire 0
  · rw [if_pos hneg, Int.sign_eq_neg_one_of_neg hneg]
    unfold minRefresh
    omega
  · rw [h rfl]
    simp
  · rw [if_neg (by omega), Int.sign_eq_one_of_pos hpos, Int.one_mul]

/-- The interval that an expiry gives when none is chosen. Every expiry below the first one that is
too large gives one, and it is the product of the expiry and the factor, both rounded to the nearest
and ties to even, without its fraction and at least ten. Up to `10 ^ 15` that is 45 percent of the
expiry exactly; a longer expiry never gives a shorter interval; and two intervals are shorter than
any expiry of more than twenty seconds. -/
theorem unset_refresh_follows_expire :
    (∀ expire : Int, expire.natAbs < firstTooLarge →
      ∃ seconds rounded product, resolveRefresh (some expire) none = .ok (some seconds) ∧
        RoundsTo expire.natAbs rounded ∧ RoundsTo (rounded * ratioMantissa) product ∧
        seconds = max 10 (expire.sign * (product / 2 ^ ratioScale : Nat))) ∧
    (∀ expire : Int, firstTooLarge ≤ expire.natAbs →
      resolveRefresh (some expire) none = .error .expireTooLarge) ∧
    (∀ expire : Int, 1 ≤ expire → expire ≤ 10 ^ 15 →
      resolveRefresh (some expire) none = .ok (some (max 10 (9 * expire / 20)))) ∧
    (∀ shorter longer : Int, shorter ≤ longer → shorter.natAbs < firstTooLarge →
      longer.natAbs < firstTooLarge →
      ∃ less more, resolveRefresh (some shorter) none = .ok (some less) ∧
        resolveRefresh (some longer) none = .ok (some more) ∧ less ≤ more) ∧
    (∀ expire : Int, 21 ≤ expire → expire.natAbs < firstTooLarge →
      ∃ seconds, resolveRefresh (some expire) none = .ok (some seconds) ∧
        2 * seconds < expire) := by
  refine ⟨?_, ?_, ?_, ?_, ?_⟩
  · intro expire hfits
    refine ⟨_, _, _, resolveRefresh_unset hfits, roundsTo_nearestDouble _,
      roundsTo_nearestDouble _, ?_⟩
    rw [← ratioOf_eq_div]
    -- The sign matters only where the whole is below the least interval, and there the least
    -- interval wins.
    refine max_sign_mul expire _ ?_
    rintro rfl
    decide
  · intro expire hlarge
    refine resolveRefresh_eq_error_iff.2 ⟨rfl, rfl, expire, rfl, ?_⟩
    rw [Bool.eq_false_iff]
    exact fun hfits => Nat.not_lt.2 hlarge (fitsDouble_iff.1 hfits)
  · intro expire hpos hle
    obtain ⟨n, rfl⟩ := Int.eq_ofNat_of_zero_le (show 0 ≤ expire by omega)
    have hn : n ≤ 10 ^ 15 := by omega
    have hfits : n < firstTooLarge := Nat.lt_of_le_of_lt hn (by decide +kernel)
    -- Up to this bound both roundings leave the whole part of the product as it is.
    rw [resolveRefresh_unset_of_pos hfits, ratioOf_eq hn]
    rfl
  · intro shorter longer hle hshorter hlonger
    refine ⟨_, _, resolveRefresh_unset hshorter, resolveRefresh_unset hlonger, ?_⟩
    refine max_le_max_left _ ?_
    split
    · split
      · exact Int.le_refl _
      · exact Int.natCast_nonneg _
    · -- If the shorter one is not negative, neither is the longer one, and rounding never turns
      -- them around.
      rw [if_neg (by omega)]
      exact Int.ofNat_le.2 (ratioOf_mono (by omega))
  · intro expire hle hfits
    obtain ⟨n, rfl⟩ := Int.eq_ofNat_of_zero_le (show 0 ≤ expire by omega)
    refine ⟨_, resolveRefresh_unset_of_pos (by simpa using hfits), ?_⟩
    have hhalf := two_mul_ratioOf_lt (n := n) (by omega)
    unfold minRefresh
    omega

/-- The last expiry of the exact ones, one that no floating-point number is equal to, and one that
is too large. -/
theorem unset_refresh_follows_expire_far :
    ((1 : Int) ≤ 10 ^ 15 ∧ resolveRefresh (some (10 ^ 15)) none = .ok (some 450000000000000)) ∧
    ((21 : Int) ≤ 2 ^ 60 + 1 ∧ (2 ^ 60 + 1 : Int).natAbs < firstTooLarge ∧
      (∃ rounded product, RoundsTo (2 ^ 60 + 1 : Int).natAbs rounded ∧
        RoundsTo (rounded * ratioMantissa) product) ∧
      (∃ less more, resolveRefresh (some 21) none = .ok (some less) ∧
        resolveRefresh (some (2 ^ 60 + 1)) none = .ok (some more) ∧ less ≤ more) ∧
      ∃ seconds, resolveRefresh (some (2 ^ 60 + 1)) none = .ok (some seconds) ∧
        2 * seconds < 2 ^ 60 + 1) ∧
    (firstTooLarge ≤ (2 ^ 1024 : Int).natAbs ∧
      resolveRefresh (some (2 ^ 1024)) none = .error .expireTooLarge) := by
  obtain ⟨hrounded, hlarge, hexact, horder, hhalf⟩ := unset_refresh_follows_expire
  have hfar : (2 ^ 60 + 1 : Int).natAbs < firstTooLarge := by decide +kernel
  have hnear : (21 : Int).natAbs < firstTooLarge := by decide +kernel
  have htoo : firstTooLarge ≤ (2 ^ 1024 : Int).natAbs := by decide +kernel
  obtain ⟨_, rounded, product, -, hexpire, hproduct, -⟩ := hrounded (2 ^ 60 + 1) hfar
  exact ⟨⟨by decide, hexact _ (by decide) (by decide)⟩,
    ⟨by decide, hfar, ⟨rounded, product, hexpire, hproduct⟩,
      horder 21 (2 ^ 60 + 1) (by decide) hnear hfar, hhalf _ (by decide) hfar⟩,
    htoo, hlarge _ htoo⟩

end RegistrySync.Settings
