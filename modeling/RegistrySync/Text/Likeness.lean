/-
How alike two words are: the characters that stand in both of them in the same order, counted
run by run, against the length of both.

* `commonStart_self`, `commonStart_comm` — the common start of two texts;
* `sharedCount` — the characters in shared runs, the longest run first;
* `likeWords` — the words of a list that are like a given one, the likest first.

Design notes: the longest shared run is taken first, then the texts on both sides of it are
compared in the same way. Which of several longest runs is taken can change the count, so it is
fixed: the one that starts first in the left text, and then in the right one. Likeness is a
quotient of whole numbers, so quotients are compared by their products.
-/

namespace RegistrySync.Text

/-- The length of the common start of two texts. -/
def commonStart : List Char → List Char → Nat
  | a :: as, b :: bs => if a = b then commonStart as bs + 1 else 0
  | _, _ => 0

theorem commonStart_self (cs : List Char) : commonStart cs cs = cs.length := by
  induction cs with
  | nil => rfl
  | cons c rest ih => simp [commonStart, ih]

theorem commonStart_comm (a b : List Char) : commonStart a b = commonStart b a := by
  induction a generalizing b with
  | nil => cases b <;> rfl
  | cons c rest ih =>
    cases b with
    | nil => rfl
    | cons d more => by_cases h : c = d <;> simp [commonStart, h, ih, eq_comm]

/-- A run of characters that stands in two texts: where it starts in each of them, and its
length. -/
structure SharedRun where
  left : Nat
  right : Nat
  length : Nat
  deriving DecidableEq, Repr

/-- The runs that two texts share, one for each pair of places, in the order of the places. -/
def sharedRuns (a b : List Char) : List SharedRun :=
  (List.range a.length).flatMap fun i =>
    (List.range b.length).map fun j => ⟨i, j, commonStart (a.drop i) (b.drop j)⟩

/-- The longest run that two texts share; the first one of several. -/
def longestShared (a b : List Char) : SharedRun :=
  (sharedRuns a b).foldl (fun best run => if best.length < run.length then run else best) ⟨0, 0, 0⟩

/-- How many characters stand in the longest shared run and, in the same way, on both sides of
it. Every run takes a character of the left text away, so its length is bound enough. -/
def sharedCountWithin : Nat → List Char → List Char → Nat
  | 0, _, _ => 0
  | bound + 1, a, b =>
    let run := longestShared a b
    if run.length = 0 then 0
    else
      sharedCountWithin bound (a.take run.left) (b.take run.right) + run.length +
        sharedCountWithin bound (a.drop (run.left + run.length)) (b.drop (run.right + run.length))

/-- How many characters two texts share in the same order. -/
def sharedCount (a b : List Char) : Nat := sharedCountWithin a.length a b

/-- How alike two words are: the shared characters, and the length of both words. -/
structure Likeness where
  shared : Nat
  total : Nat
  deriving DecidableEq, Repr

namespace Likeness

/-- The likeness of two words. -/
def between (a b : String) : Likeness :=
  ⟨sharedCount a.toList b.toList, a.length + b.length⟩

/-- Whether three fifths of the characters of two words are shared ones. -/
def isHigh (likeness : Likeness) : Bool := 3 * likeness.total ≤ 10 * likeness.shared

/-- Whether a likeness is higher than another one. -/
def exceeds (x y : Likeness) : Bool := y.shared * x.total < x.shared * y.total

end Likeness

/-- The words that are like a given one, the likest first and at most three of them. Of two that
are equally like it the one that comes later in a dictionary is first. -/
def likeWords (words : List String) (word : String) : List String :=
  let scored := (words.map fun known => (known, Likeness.between known word)).filter (·.2.isHigh)
  let sorted := scored.mergeSort fun x y =>
    x.2.exceeds y.2 || (!y.2.exceeds x.2 && decide (y.1 ≤ x.1))
  (sorted.take 3).map (·.1)

end RegistrySync.Text
