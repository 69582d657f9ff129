/-
Lower and upper case of a text, letter by letter; the lower case of a capital sigma depends
on whether it ends a word. Folding takes away every difference of case, so that two spellings
of a word can be compared.

* `lowerLetter_ascii`, `upperLetter_ascii` — on ASCII a letter stays one letter;
* `lower_nil`, `upper_nil`, `fold_nil` — nothing comes from nothing;
* `fold_append` — folding does not look at the letters around a letter.
-/
import RegistrySync.Text.LetterCase.Table

namespace RegistrySync.Text

/-- Whether the code point is one of the run. -/
def CaseShift.covers (run : CaseShift) (n : Nat) : Bool :=
  run.first ≤ n && n ≤ run.last && (n - run.first) % run.step == 0

/-- The code point after the shift of the run that covers it. -/
def shiftCase (runs : List CaseShift) (n : Nat) : Nat :=
  match runs.find? (·.covers n) with
  | some run => ((n : Int) + run.shift).toNat
  | none => n

/-- The lower case of a letter on its own. A capital I with a dot becomes an i and a
combining dot. -/
def lowerLetter (c : Char) : List Char :=
  if c.toNat < 0x80 then [c.toLower]
  else if c.toNat = 0x130 then ['i', Char.ofNat 0x307]
  else [Char.ofNat (shiftCase lowerShifts c.toNat)]

/-- The upper case of a letter. -/
def upperLetter (c : Char) : List Char :=
  if c.toNat < 0x80 then [c.toUpper]
  else
    match upperExpansions.find? (·.1 == c.toNat) with
    | some (_, letters) => letters.map Char.ofNat
    | none => [Char.ofNat (shiftCase upperShifts c.toNat)]

/-- Whether a character is looked through when the last letter of a word is sought. -/
def isCaseIgnorable (c : Char) : Bool :=
  caseIgnorableRanges.any fun range => range.1 ≤ c.toNat && c.toNat ≤ range.2

/-- Whether a character that is not case-ignorable has a case. -/
def isCased (c : Char) : Bool :=
  casedRanges.any fun range => range.1 ≤ c.toNat && c.toNat ≤ range.2

/-- Whether the first character that counts is a cased one. -/
def meetsCased (cs : List Char) : Bool :=
  (cs.dropWhile isCaseIgnorable).head?.any isCased

/-- The lower case of the characters that stand after `before`, which lists the nearest
first. A capital sigma at the end of a word becomes a final sigma. -/
def lowerAfter (before : List Char) : List Char → List Char
  | [] => []
  | c :: rest =>
    (if c = 'Σ' then [if meetsCased before && !meetsCased rest then 'ς' else 'σ']
     else lowerLetter c) ++ lowerAfter (c :: before) rest

/-- The lower case of a text. -/
def lower (cs : List Char) : List Char := lowerAfter [] cs

/-- The upper case of a text. -/
def upper (cs : List Char) : List Char := cs.flatMap upperLetter

/-- The folded form of a letter: its lower case, but for the letters that are folded in a way
of their own. -/
def foldLetter (c : Char) : List Char :=
  match foldExpansions.find? (·.1 == c.toNat) with
  | some (_, letters) => letters.map Char.ofNat
  | none =>
    if foldShifts.any (·.covers c.toNat) then [Char.ofNat (shiftCase foldShifts c.toNat)]
    else lowerLetter c

/-- A text without differences of case. -/
def fold (cs : List Char) : List Char := cs.flatMap foldLetter

/-- The lower case of a string. -/
def lowerCase (s : String) : String := String.ofList (lower s.toList)

/-- The upper case of a string. -/
def upperCase (s : String) : String := String.ofList (upper s.toList)

/-- A string without differences of case. -/
def foldCase (s : String) : String := String.ofList (fold s.toList)

theorem lowerLetter_ascii {c : Char} (h : c.toNat < 0x80) : lowerLetter c = [c.toLower] := by
  simp [lowerLetter, h]

theorem upperLetter_ascii {c : Char} (h : c.toNat < 0x80) : upperLetter c = [c.toUpper] := by
  simp [upperLetter, h]

@[simp] theorem lower_nil : lower [] = [] := rfl

@[simp] theorem upper_nil : upper [] = [] := rfl

@[simp] theorem fold_nil : fold [] = [] := rfl

theorem fold_append (a b : List Char) : fold (a ++ b) = fold a ++ fold b := by
  simp [fold]

end RegistrySync.Text
