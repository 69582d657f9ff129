/-
The interval between two cycles when none is chosen: 45 percent of the expiry, so that two
refreshes fall within it, but at least ten seconds.

* `nearestDouble` — a whole number as the nearest binary floating-point number;
* `defaultRefresh?` — the default interval, unless the expiry is too large for one;
* `defaultRefresh?_ge` — the interval is at least ten seconds;
* `nearestDouble_of_lt` — small numbers are kept as they are.

Design notes: the product is one of binary floating-point numbers of 53 significant bits,
each step rounded to the nearest one and ties to the even one. All of it is computed in
whole numbers: the factor 0.45 is `ratioMantissa / 2 ^ ratioScale`, and rounding drops the
low bits of a number.
-/
import RegistrySync.Settings.Fault

namespace RegistrySync.Settings

/-- The least interval in seconds that is chosen by default. -/
def minRefresh : Int := 10

/-- The significant bits of a floating-point number. -/
def precision : Nat := 53

/-- The significant bits of the factor 0.45. -/
def ratioMantissa : Nat := 0x1CCCCCCCCCCCCD

/-- The power of two by which the significant bits of the factor are divided. -/
def ratioScale : Nat := 54

/-- A number without its lowest bits, rounded to the nearest and ties to even. -/
def roundShift (n bits : Nat) : Nat :=
  let quotient := n >>> bits
  let unit := 1 <<< bits
  let twice := 2 * (n % unit)
  if twice > unit ∨ (twice = unit ∧ quotient % 2 = 1) then quotient + 1 else quotient

/-- How many low bits of a number are beyond the significant ones. -/
def excessBits (n : Nat) : Nat := n.log2 + 1 - precision

/-- The floating-point number nearest to a whole number, without a bound on its size. -/
def nearestDouble (n : Nat) : Nat := roundShift n (excessBits n) <<< excessBits n

/-- The first number that is too large for a floating-point number. -/
def doubleBound : Nat := 1 <<< 1024

/-- Whether the nearest floating-point number is a finite one. -/
def fitsDouble (n : Nat) : Bool := nearestDouble n < doubleBound

/-- The whole part of 45 percent of a number that fits. -/
def ratioOf (n : Nat) : Nat := nearestDouble (nearestDouble n * ratioMantissa) >>> ratioScale

/-- The interval that an expiry gives by default. -/
def defaultRefresh? (expire : Int) : Option Int :=
  if fitsDouble expire.natAbs then
    some (max minRefresh (if expire < 0 then 0 else ratioOf expire.natAbs))
  else none

/-- The interval in force: none for a single cycle, which a zero asks for. -/
def resolveRefresh (expire refresh : Option Int) : Except SettingFault (Option Int) :=
  match refresh with
  | some seconds => .ok (if seconds = 0 then none else some seconds)
  | none =>
    match expire with
    | none => .ok none
    | some expire =>
      match defaultRefresh? expire with
      | some seconds => .ok (some seconds)
      | none => .error .expireTooLarge

/-- The interval is at least ten seconds. -/
theorem defaultRefresh?_ge {expire seconds : Int} (h : defaultRefresh? expire = some seconds) :
    minRefresh ≤ seconds := by
  unfold defaultRefresh? at h
  split at h
  · cases h
    exact Int.le_max_left ..
  · cases h

/-- Small numbers are kept as they are. -/
theorem nearestDouble_of_lt {n : Nat} (h : n.log2 < precision) : nearestDouble n = n := by
  have hb : excessBits n = 0 := Nat.sub_eq_zero_of_le h
  simp [nearestDouble, hb, roundShift, Nat.mod_one]

end RegistrySync.Settings
