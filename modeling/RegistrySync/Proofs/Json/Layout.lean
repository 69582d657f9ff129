/-
The layout of a written tree: its blanks outside of literals.

* `Region`, `placed` — whether a character of a written tree stands in a literal;
* `squeeze` — a text without its layout;
* `Squeezed.append` — texts whose literals are closed squeeze one by one;
* `squeeze_eq_self_iff` — only a text without layout stays as it is;
* `InLiteral` — what stands between the quotes of a literal, which no squeezing touches.

A literal may hold blanks of its own, so where a character stands has to be known before it is
dropped.
-/
import RegistrySync.Text.Blank
import Mathlib.Data.List.Basic
import Mathlib.Data.List.Forall2

namespace RegistrySync.Json

open Text (isBlank)

/-! ### Regions -/

/-- Where a character of a written tree stands. -/
inductive Region where
  | outside
  | inside
  /-- In a literal, right behind a backslash. -/
  | escaped
  deriving DecidableEq, Repr

/-- Where the next character stands. -/
def Region.next : Region → Char → Region
  | outside, c => if c = '"' then inside else outside
  | inside, c => if c = '"' then outside else if c = '\\' then escaped else inside
  | escaped, _ => inside

/-- The characters of a text with where they stand, from a region on. -/
def placed : Region → List Char → List (Region × Char)
  | _, [] => []
  | region, c :: rest => (region, c) :: placed (region.next c) rest

theorem placed_append (region : Region) (a b : List Char) :
    placed region (a ++ b) = placed region a ++ placed (a.foldl Region.next region) b := by
  induction a generalizing region with
  | nil => rfl
  | cons c rest ih => exact congrArg ((region, c) :: ·) (ih (region.next c))

theorem map_snd_placed (region : Region) (cs : List Char) : (placed region cs).map (·.2) = cs := by
  induction cs generalizing region with
  | nil => rfl
  | cons c rest ih => exact congrArg (c :: ·) (ih (region.next c))

/-- Whether a character is a blank outside of literals. -/
def isLayout (place : Region × Char) : Bool := place.1 == .outside && isBlank place.2

/-- A text without the blanks outside of its literals. -/
def squeeze (cs : List Char) : List Char :=
  ((placed .outside cs).filter fun place => !isLayout place).map (·.2)

/-- A text whose literals are all closed, and what is left of it without its layout. -/
structure Squeezed (cs left : List Char) : Prop where
  closed : cs.foldl Region.next .outside = .outside
  eq : squeeze cs = left

theorem squeezed_nil : Squeezed [] [] := ⟨rfl, rfl⟩

theorem Squeezed.append {a b left right : List Char} (ha : Squeezed a left)
    (hb : Squeezed b right) : Squeezed (a ++ b) (left ++ right) := by
  refine ⟨?_, ?_⟩
  · rw [List.foldl_append, ha.closed, hb.closed]
  · rw [squeeze, placed_append, ha.closed, List.filter_append, List.map_append, ← ha.eq, ← hb.eq]
    rfl

/-- A character that begins no literal is dropped exactly if it is a blank. -/
theorem squeezed_singleton {c : Char} (h : c ≠ '"') :
    Squeezed [c] (if isBlank c then [] else [c]) := by
  refine ⟨?_, ?_⟩
  · simp [Region.next, h]
  · cases hb : isBlank c <;> simp [squeeze, placed, isLayout, hb]

/-- Neither a quote nor a blank. -/
def IsMark (c : Char) : Prop := c ≠ '"' ∧ isBlank c = false

instance (c : Char) : Decidable (IsMark c) := inferInstanceAs (Decidable (_ ∧ _))

-- Of a given text, character by character.
instance (cs : List Char) : Decidable (∀ c ∈ cs, IsMark c) := List.decidableBAll IsMark cs

theorem squeezed_of_isMark {cs : List Char} (h : ∀ c ∈ cs, IsMark c) : Squeezed cs cs := by
  induction cs with
  | nil => exact squeezed_nil
  | cons c rest ih =>
    obtain ⟨⟨hquote, hblank⟩, hrest⟩ := List.forall_mem_cons.1 h
    have hc := squeezed_singleton hquote
    rw [hblank] at hc
    exact hc.append (ih hrest)

/-- Brackets stay around what they hold. -/
theorem Squeezed.between {cs left : List Char} (h : Squeezed cs left) {opening closing : Char}
    (hopening : IsMark opening) (hclosing : IsMark closing) :
    Squeezed (opening :: (cs ++ [closing])) (opening :: (left ++ [closing])) := by
  have hfront : Squeezed [opening] [opening] := squeezed_of_isMark (by simpa using hopening)
  have hback : Squeezed [closing] [closing] := squeezed_of_isMark (by simpa using hclosing)
  exact hfront.append (h.append hback)

theorem squeezed_of_blank {cs : List Char} (h : ∀ c ∈ cs, isBlank c = true) : Squeezed cs [] := by
  induction cs with
  | nil => exact squeezed_nil
  | cons c rest ih =>
    obtain ⟨hblank, hrest⟩ := List.forall_mem_cons.1 h
    have hquote : c ≠ '"' := by rintro rfl; cases hblank
    have hc := squeezed_singleton hquote
    rw [hblank] at hc
    exact hc.append (ih hrest)

/-- Parts with a separator squeeze one by one. -/
theorem squeezed_intercalate {sep sep' : List Char} {texts lefts : List (List Char)}
    (hsep : Squeezed sep sep') (h : List.Forall₂ Squeezed texts lefts) :
    Squeezed (sep.intercalate texts) (sep'.intercalate lefts) := by
  induction h with
  | nil => exact squeezed_nil
  | @cons text left texts lefts hfirst hothers ih =>
    cases hothers with
    | nil => simpa using hfirst
    | cons hnext hmore =>
      rw [List.intercalate_cons_of_ne_nil (List.cons_ne_nil _ _),
        List.intercalate_cons_of_ne_nil (List.cons_ne_nil _ _)]
      exact (hfirst.append hsep).append ih

/-- Squeezing leaves a text as it is exactly if it has no layout. -/
theorem squeeze_eq_self_iff {cs : List Char} :
    squeeze cs = cs ↔ ∀ place ∈ placed .outside cs, isLayout place = false := by
  constructor
  · intro h place hplace
    have hlength : ((placed .outside cs).filter fun place => !isLayout place).length =
        (placed .outside cs).length := by
      have hall := congrArg List.length (h.trans (map_snd_placed .outside cs).symm)
      simpa [squeeze] using hall
    have hfilter := List.length_filter_eq_length_iff.1 hlength place hplace
    simpa using hfilter
  · intro h
    rw [squeeze, List.filter_eq_self.2, map_snd_placed]
    intro place hplace
    rw [h place hplace]
    rfl

/-! ### Literals -/

/-- A piece of a literal: the literal goes on behind it, and no character of it stands outside. -/
structure InLiteral (cs : List Char) : Prop where
  stays : cs.foldl Region.next .inside = .inside
  kept : ∀ place ∈ placed .inside cs, place.1 ≠ .outside

theorem inLiteral_nil : InLiteral [] := ⟨rfl, by simp [placed]⟩

theorem InLiteral.append {a b : List Char} (ha : InLiteral a) (hb : InLiteral b) :
    InLiteral (a ++ b) := by
  refine ⟨?_, ?_⟩
  · rw [List.foldl_append, ha.stays, hb.stays]
  · rw [placed_append, ha.stays, List.forall_mem_append]
    exact ⟨ha.kept, hb.kept⟩

theorem inLiteral_flatten {pieces : List (List Char)} (h : ∀ piece ∈ pieces, InLiteral piece) :
    InLiteral pieces.flatten := by
  induction pieces with
  | nil => exact inLiteral_nil
  | cons piece rest ih =>
    obtain ⟨hpiece, hrest⟩ := List.forall_mem_cons.1 h
    exact hpiece.append (ih hrest)

/-- A character that neither ends the literal nor begins an escape. -/
theorem inLiteral_singleton {c : Char} (hquote : c ≠ '"') (hslash : c ≠ '\\') :
    InLiteral [c] := by
  refine ⟨?_, ?_⟩
  · simp [Region.next, hquote, hslash]
  · simp [placed]

/-- Any character may stand behind a backslash. -/
theorem inLiteral_escaped (c : Char) : InLiteral ['\\', c] := by
  refine ⟨?_, ?_⟩
  · simp [Region.next]
  · simp [placed, Region.next]

/-- A literal is closed behind its second quote, and has no layout. -/
theorem InLiteral.squeezed {cs : List Char} (h : InLiteral cs) :
    Squeezed ('"' :: (cs ++ ['"'])) ('"' :: (cs ++ ['"'])) := by
  have hopen : Region.next .outside '"' = .inside := rfl
  refine ⟨?_, squeeze_eq_self_iff.2 ?_⟩
  · rw [List.foldl_cons, List.foldl_append, hopen, h.stays]
    rfl
  · rw [placed, hopen, placed_append, h.stays, List.forall_mem_cons, List.forall_mem_append]
    refine ⟨by decide, fun place hplace => ?_, by decide⟩
    have hkept := h.kept place hplace
    simp [isLayout, hkept]

end RegistrySync.Json
