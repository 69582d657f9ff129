/-
Patterns, and the order in which the ways to fit them are tried.

A pattern fits the front of a text in a number of ways. A repetition takes as many characters as it
can before it is tried with fewer, and a part that may be left out is tried before it is left out.
The first way in that order is the one that counts.

* `Pattern.fits` — the ways in which a pattern fits, in the order in which they are tried;
* `Pattern.find` — where a pattern fits in a text, each search going on behind what was found;
* `front?_many_seq_eq_some_iff` — a repetition gives back as few characters as what follows needs;
* `front?_seq_opt` — a part that may be left out never takes back what stands in front of it.

Design notes: nothing but classes of characters is repeated, so the ways to fit a repetition are as
many as the characters in front, and the definition is a recursion on the pattern.
-/
import Mathlib.Data.List.Basic

namespace RegistrySync.Text

/-- A pattern for the front of a text. -/
inductive Pattern where
  /-- One character of a class. -/
  | char (p : Char → Bool)
  /-- Characters of a class, at least one and rather more than fewer. -/
  | many (p : Char → Bool)
  /-- A part that may be left out. -/
  | opt (a : Pattern)
  | seq (a b : Pattern)
  /-- A part whose characters are kept under a number. -/
  | group (label : Nat) (a : Pattern)

/-- One way to fit a pattern: how many characters it takes, and what the groups keep. -/
structure Fit where
  width : Nat
  groups : List (Nat × List Char)
  deriving DecidableEq, Repr

/-- The characters that a group keeps, if it takes part. -/
def Fit.group? (fit : Fit) (label : Nat) : Option (List Char) := fit.groups.lookup label

/-- One fit, and another one behind it. -/
def Fit.append (first second : Fit) : Fit :=
  ⟨first.width + second.width, first.groups ++ second.groups⟩

namespace Pattern

/-- The ways to fit a pattern to the front of a text, in the order in which they are tried. -/
def fits : Pattern → List Char → List Fit
  | char p, cs => if cs.head?.any p then [⟨1, []⟩] else []
  | many p, cs => (List.range (cs.takeWhile p).length).reverse.map fun n => ⟨n + 1, []⟩
  | opt a, cs => a.fits cs ++ [⟨0, []⟩]
  | seq a b, cs =>
    (a.fits cs).flatMap fun first => (b.fits (cs.drop first.width)).map first.append
  | group label a, cs =>
    (a.fits cs).map fun fit => ⟨fit.width, (label, cs.take fit.width) :: fit.groups⟩

/-- The way that counts: the first one. -/
def front? (pattern : Pattern) (cs : List Char) : Option Fit := (pattern.fits cs).head?

/-- The places in a text where a pattern fits, if the first `skip` characters are passed over and
the text starts at `position`. -/
def findFrom (pattern : Pattern) : Nat → Nat → List Char → List (Nat × Fit)
  | _, _, [] => []
  | position, skip + 1, _ :: rest => findFrom pattern (position + 1) skip rest
  | position, 0, c :: rest =>
    match pattern.front? (c :: rest) with
    | some fit => (position, fit) :: findFrom pattern (position + 1) (fit.width - 1) rest
    | none => findFrom pattern (position + 1) 0 rest

/-- The places in a text where a pattern fits, from the left; each search goes on behind what was
found before. -/
def find (pattern : Pattern) (cs : List Char) : List (Nat × Fit) := pattern.findFrom 0 0 cs

variable {a b : Pattern} {p : Char → Bool} {cs rest : List Char} {c : Char}

/-! ### The way that counts -/

theorem front?_seq :
    (seq a b).front? cs =
      (a.fits cs).findSome? fun first => (b.front? (cs.drop first.width)).map first.append := by
  simp [front?, fits, List.head?_flatMap]

theorem front?_char_cons : (char p).front? (c :: rest) = if p c then some ⟨1, []⟩ else none := by
  by_cases h : p c <;> simp [front?, fits, h]

/-- One character of a class, and then the rest. -/
theorem front?_char_seq_cons :
    (seq (char p) b).front? (c :: rest) =
      if p c then (b.front? rest).map (Fit.append ⟨1, []⟩) else none := by
  by_cases h : p c <;> simp [front?_seq, fits, h]

theorem front?_char_seq_nil : (seq (char p) b).front? [] = none := by
  simp [front?_seq, fits]

theorem front?_group (label : Nat) :
    (group label a).front? cs =
      (a.front? cs).map fun fit => ⟨fit.width, (label, cs.take fit.width) :: fit.groups⟩ := by
  simp [front?, fits]

theorem front?_opt : (opt a).front? cs = some ((a.front? cs).getD ⟨0, []⟩) := by
  simp only [front?, fits, List.head?_append, List.head?_cons]
  cases (a.fits cs).head? <;> rfl

/-- A part that may be left out never takes back what stands in front of it. -/
theorem front?_seq_opt :
    (seq a (opt b)).front? cs =
      (a.front? cs).map fun first =>
        first.append ((b.front? (cs.drop first.width)).getD ⟨0, []⟩) := by
  rw [front?_seq]
  simp only [front?_opt, Option.map_some]
  cases h : a.fits cs with
  | nil => simp [front?, h]
  | cons first others => simp [front?, h]

/-- A repetition on its own takes all that it can. -/
theorem front?_many :
    (many p).front? cs =
      if (cs.takeWhile p).length = 0 then none else some ⟨(cs.takeWhile p).length, []⟩ := by
  simp only [front?, fits]
  cases h : (cs.takeWhile p).length with
  | zero => rfl
  | succ n => simp [List.range_succ]

/-! ### Repetitions -/

/-- The first number, from the largest below a bound downwards, that yields something. -/
theorem findSome?_range_reverse {α : Type} {g : Nat → Option α} {n : Nat} {x : α} :
    (List.range n).reverse.findSome? g = some x ↔
      ∃ k < n, g k = some x ∧ ∀ larger, k < larger → larger < n → g larger = none := by
  induction n with
  | zero => simp
  | succ n ih =>
    rw [List.range_succ, List.reverse_append, List.reverse_singleton, List.singleton_append,
      List.findSome?_cons]
    -- The last number is tried first: either it is found, or it is out of the way.
    cases hn : g n with
    | some y =>
      constructor
      · rintro ⟨⟩
        exact ⟨n, Nat.lt_succ_self n, hn, fun larger hlarger hbound => by omega⟩
      · rintro ⟨k, hk, hg, hnone⟩
        have hkn : k = n := by
          by_contra hne
          have hlast := hnone n (by omega) (Nat.lt_succ_self n)
          rw [hn] at hlast
          cases hlast
        rw [hkn, hn] at hg
        exact hg
    | none =>
      rw [ih]
      constructor
      · rintro ⟨k, hk, hg, hnone⟩
        refine ⟨k, by omega, hg, fun larger hlarger hbound => ?_⟩
        by_cases hlast : larger = n
        · rw [hlast, hn]
        · exact hnone larger hlarger (by omega)
      · rintro ⟨k, hk, hg, hnone⟩
        have hkn : k ≠ n := by
          rintro rfl
          rw [hn] at hg
          cases hg
        exact ⟨k, by omega, hg, fun larger hlarger hbound => hnone larger hlarger (by omega)⟩

/-- A repetition gives back as few characters as what follows needs: it takes the largest number,
up to all that it can take, with which the rest fits. -/
theorem front?_many_seq_eq_some_iff {fit : Fit} :
    (seq (many p) b).front? cs = some fit ↔
      ∃ n < (cs.takeWhile p).length,
        (∃ behind, b.front? (cs.drop (n + 1)) = some behind ∧
          fit = ⟨n + 1 + behind.width, behind.groups⟩) ∧
        ∀ larger, n < larger → larger < (cs.takeWhile p).length →
          b.front? (cs.drop (larger + 1)) = none := by
  rw [front?_seq, fits, List.findSome?_map, findSome?_range_reverse]
  simp only [Function.comp_apply, Option.map_eq_some_iff, Option.map_eq_none_iff, Fit.append,
    List.nil_append, @eq_comm _ _ fit]

/-! ### Places -/

/-- Passing over characters is the same as starting later. -/
theorem findFrom_drop (pattern : Pattern) (position skip : Nat) (cs : List Char) :
    pattern.findFrom position skip cs = pattern.findFrom (position + skip) 0 (cs.drop skip) := by
  induction cs generalizing position skip with
  | nil => cases skip <;> rfl
  | cons c rest ih =>
    cases skip with
    | zero => rfl
    | succ skip =>
      rw [findFrom, List.drop_succ_cons, ih]
      congr 1
      omega

end Pattern

end RegistrySync.Text
