/-
Whole numbers as the values of options. Many spellings of a number are accepted: blanks around
it, one plus sign in front, any zeros in front, single underscores between digits, and a point
with nothing but zeros behind it.

* `readNumber?` — the number that a value denotes, if it denotes one;
* `plainNumber?` — what all the spellings are brought to: a minus and digits without a zero in
  front;
* `spelledNumber?_plus` — a plus sign in front of a digit says nothing.

Design notes: each of `dropPlus?`, `dropZeros?`, `dropFraction` and `joinGroups?` takes one
freedom of spelling away, in this order. Zeros are dropped up to the first digit that counts,
behind a minus as well as without one. A minus may also stand behind zeros, but then none may
follow it. Underscores among the zeros need no digits around them. Only the digits that are left
count towards the limit on digits.
-/
import RegistrySync.Text.Cut
import RegistrySync.Text.Integer

namespace RegistrySync.CommandLine

/-- Whether a character is a digit that counts at the front of a numeral. -/
def isLeadingDigit (c : Char) : Bool := c.isDigit && c != '0'

/-- The text behind one plus sign, which no minus may follow. -/
def dropPlus? : List Char → Option (List Char)
  | '+' :: '-' :: _ => none
  | '+' :: rest => some rest
  | cs => some cs

/-- The text behind zeros and underscores, of which `last` is the nearest that was passed. It
is kept where a digit is needed: in front of a point and at the end. -/
def passZeros? (last : Char) : List Char → Option (List Char)
  | [] => some [last]
  | c :: rest =>
    if c = '0' ∨ c = '_' then passZeros? c rest
    else if c = '-' ∨ isLeadingDigit c then some (c :: rest)
    else if c = '.' then some (last :: c :: rest)
    else none

/-- An unsigned numeral without the zeros in front of it. -/
def dropUnsignedZeros? : List Char → Option (List Char)
  | [] => none
  | c :: rest =>
    if c = '0' then passZeros? c rest
    else if isLeadingDigit c then some (c :: rest)
    else none

/-- A numeral without the zeros in front of its digits; a minus stays in front of them. -/
def dropZeros? : List Char → Option (List Char)
  | '-' :: rest => (dropUnsignedZeros? rest).map ('-' :: ·)
  | cs => dropUnsignedZeros? cs

/-- A numeral without a point that has zeros behind it, and nothing else. -/
def dropFraction (cs : List Char) : List Char :=
  match Text.cut '.' cs with
  | (whole, some fraction) =>
    if !fraction.isEmpty && fraction.all (· == '0') then whole else cs
  | (_, none) => cs

/-- A numeral without its underscores, each of which must have something on both sides. -/
def joinGroups? (cs : List Char) : Option (List Char) :=
  let groups := Text.split '_' cs
  if groups.any (·.isEmpty) then none else some groups.flatten

/-- The number with these digits, unless there are none or too many of them or there is a
needless zero. -/
def plainDigits? : List Nat → Option Nat
  | [] => none
  | [d] => some d
  | d :: rest =>
    if d = 0 ∨ Text.maxDigits < rest.length + 1 then none else some (Text.natOfDigits (d :: rest))

/-- The number that an optional minus and digits denote. The minus is no digit, so it does not
count towards the limit. -/
def plainNumber? : List Char → Option Int
  | '-' :: body => ((body.mapM Text.asciiDigit?).bind plainDigits?).map fun n => -(n : Int)
  | cs => ((cs.mapM Text.asciiDigit?).bind plainDigits?).map fun n => (n : Int)

/-- The number that a text without blanks around it denotes. -/
def spelledNumber? (cs : List Char) : Option Int := do
  let unsigned ← dropPlus? cs
  let significant ← dropZeros? unsigned
  let joined ← joinGroups? (dropFraction significant)
  plainNumber? joined

/-- The number that the value of an option denotes, if it denotes one. -/
def readNumber? (value : String) : Option Int := spelledNumber? (Text.trimNumeral value.toList)

/-- A plus sign in front of a digit says nothing. -/
theorem spelledNumber?_plus {c : Char} (rest : List Char) (h : c.isDigit = true) :
    spelledNumber? ('+' :: c :: rest) = spelledNumber? (c :: rest) := by
  have hm : c ≠ '-' := by
    rintro rfl
    exact absurd h (by decide)
  have hp : c ≠ '+' := by
    rintro rfl
    exact absurd h (by decide)
  have hl : dropPlus? ('+' :: c :: rest) = some (c :: rest) := by
    unfold dropPlus?
    split <;> simp_all
  have hr : dropPlus? (c :: rest) = some (c :: rest) := by
    unfold dropPlus?
    split <;> simp_all
  simp [spelledNumber?, hl, hr]

end RegistrySync.CommandLine
