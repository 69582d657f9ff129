/-
Cutting a text at a separating character.

* `cut_eq` — the two parts with the separator between them are the text;
* `split_ne_nil` — a split text has at least one part.
-/

namespace RegistrySync.Text

/-- The part before the first `sep` and, if there is one, the part after it. -/
def cut (sep : Char) : List Char → List Char × Option (List Char)
  | [] => ([], none)
  | c :: rest =>
    if c = sep then ([], some rest)
    else
      let parts := cut sep rest
      (c :: parts.1, parts.2)

/-- The parts between the occurrences of `sep`, in order. -/
def split (sep : Char) : List Char → List (List Char)
  | [] => [[]]
  | c :: rest =>
    if c = sep then [] :: split sep rest
    else
      match split sep rest with
      | [] => [[c]]
      | part :: parts => (c :: part) :: parts

/-- Whether `part` occurs in `cs` without a gap. -/
def occursIn (part : List Char) : List Char → Bool
  | [] => part.isEmpty
  | c :: rest => part.isPrefixOf (c :: rest) || occursIn part rest

theorem cut_eq (sep : Char) (cs : List Char) :
    cs = (cut sep cs).1 ++ ((cut sep cs).2.map (sep :: ·)).getD [] := by
  induction cs with
  | nil => rfl
  | cons c rest ih =>
    by_cases h : c = sep
    · simp [cut, h]
    · simp only [cut, h, if_false, List.cons_append]
      exact congrArg (c :: ·) ih

theorem split_ne_nil (sep : Char) (cs : List Char) : split sep cs ≠ [] := by
  cases cs with
  | nil => simp [split]
  | cons c rest =>
    by_cases h : c = sep
    · simp [split, h]
    · simp only [split, h, if_false]
      split <;> simp

end RegistrySync.Text
