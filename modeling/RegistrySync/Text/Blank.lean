/-
Blank characters and trimming.

* `isBlank` — which characters are blanks;
* `trim`, `strip` — a text without the blanks at both ends;
* `isBlank_of_isWhitespace` — every character that core calls white space is a blank.
-/

namespace RegistrySync.Text

/-- A blank: a control that moves the print position, one of the four information
separators, or a space of any width. Zero-width characters are no blanks. -/
def isBlank (c : Char) : Bool :=
  let n := c.toNat
  (0x09 ≤ n && n ≤ 0x0D) || (0x1C ≤ n && n ≤ 0x20) || n == 0x85 || n == 0xA0 || n == 0x1680 ||
    (0x2000 ≤ n && n ≤ 0x200A) || n == 0x2028 || n == 0x2029 || n == 0x202F || n == 0x205F ||
    n == 0x3000

/-- The characters from the first that is no blank. -/
def trimStart (cs : List Char) : List Char := cs.dropWhile isBlank

/-- The characters up to the last that is no blank. -/
def trimEnd (cs : List Char) : List Char := (cs.reverse.dropWhile isBlank).reverse

/-- The characters without the blanks at both ends. -/
def trim (cs : List Char) : List Char := trimEnd (trimStart cs)

/-- The string without the blanks at both ends. -/
def strip (s : String) : String := String.ofList (trim s.toList)

theorem isBlank_of_isWhitespace {c : Char} (h : c.isWhitespace = true) : isBlank c = true := by
  simp only [Char.isWhitespace, Bool.or_eq_true, decide_eq_true_eq] at h
  rcases h with ((h | h) | h) | h <;> subst h <;> decide

end RegistrySync.Text
