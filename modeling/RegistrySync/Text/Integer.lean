/-
Whole numbers as text: the decimal numeral that is written, and the wider set of numerals
that is read.

* `digitsOf_ne_nil` — a numeral has at least one digit;
* `natOfDigits_append` — reading digit by digit, from the left.

Design notes: what is read may carry blanks around it, a sign, single underscores between
digits and decimal digits of any script, but no more than `maxDigits` digits.
-/
import RegistrySync.Text.Blank

namespace RegistrySync.Text

/-- The zeros of all decimal digit scripts; each is followed by its digits one to nine. -/
def decimalZeros : List Nat :=
  [0x30, 0x660, 0x6F0, 0x7C0, 0x966, 0x9E6, 0xA66, 0xAE6, 0xB66, 0xBE6, 0xC66, 0xCE6, 0xD66,
   0xDE6, 0xE50, 0xED0, 0xF20, 0x1040, 0x1090, 0x17E0, 0x1810, 0x1946, 0x19D0, 0x1A80, 0x1A90,
   0x1B50, 0x1BB0, 0x1C40, 0x1C50, 0xA620, 0xA8D0, 0xA900, 0xA9D0, 0xA9F0, 0xAA50, 0xABF0,
   0xFF10, 0x104A0, 0x10D30, 0x11066, 0x110F0, 0x11136, 0x111D0, 0x112F0, 0x11450, 0x114D0,
   0x11650, 0x116C0, 0x11730, 0x118E0, 0x11950, 0x11C50, 0x11D50, 0x11DA0, 0x16A60, 0x16AC0,
   0x16B50, 0x1D7CE, 0x1D7D8, 0x1D7E2, 0x1D7EC, 0x1D7F6, 0x1E140, 0x1E2F0, 0x1E950, 0x1FBF0]

/-- The value of a decimal digit of any script. -/
def digitValue? (c : Char) : Option Nat :=
  (decimalZeros.find? fun first => first ≤ c.toNat && c.toNat ≤ first + 9).map (c.toNat - ·)

/-- The value of an ASCII digit. -/
def asciiDigit? (c : Char) : Option Nat := if c.isDigit then some (c.toNat - '0'.toNat) else none

/-- The most digits that a numeral may have to be read. -/
def maxDigits : Nat := 4300

/-- The number with these digits, the most significant first. -/
def natOfDigits (digits : List Nat) : Nat := digits.foldl (fun n d => 10 * n + d) 0

/-- The decimal numeral of a number, without leading zeros. -/
def digitsOf (n : Nat) : List Char :=
  if n < 10 then [Nat.digitChar n] else digitsOf (n / 10) ++ [Nat.digitChar (n % 10)]
termination_by n

/-- The decimal numeral of an integer, with a sign only if it is negative. -/
def numeral : Int → List Char
  | .ofNat n => digitsOf n
  | .negSucc n => '-' :: digitsOf (n + 1)

/-- The numeral of an integer as a string. -/
def showInt (i : Int) : String := String.ofList (numeral i)

/-- The numeral of a number as a string. -/
def showNat (n : Nat) : String := String.ofList (digitsOf n)

/-- The digits of a text of digits in which single underscores may stand between two
digits. -/
def groupedDigits? : List Char → Option (List Nat)
  | [] => none
  | [c] => (digitValue? c).map ([·])
  | c :: next :: rest =>
    match digitValue? c with
    | none => none
    | some d =>
      (if next = '_' then groupedDigits? rest else groupedDigits? (next :: rest)).map (d :: ·)

/-- The blanks that may surround a numeral: all but the four information separators. -/
def isNumeralBlank (c : Char) : Bool := isBlank c && !(0x1C ≤ c.toNat && c.toNat ≤ 0x1F)

/-- A numeral without the blanks that may surround it. -/
def trimNumeral (cs : List Char) : List Char :=
  ((cs.dropWhile isNumeralBlank).reverse.dropWhile isNumeralBlank).reverse

/-- The sign of a numeral (`true` for a minus) and what follows it. -/
def takeSign : List Char → Bool × List Char
  | '+' :: rest => (false, rest)
  | '-' :: rest => (true, rest)
  | cs => (false, cs)

/-- The integer that a numeral denotes, if the text is a numeral of at most `maxDigits`
digits. -/
def readInt? (cs : List Char) : Option Int :=
  let (negative, body) := takeSign (trimNumeral cs)
  match groupedDigits? body with
  | none => none
  | some digits =>
    if digits.length ≤ maxDigits then
      let n : Int := natOfDigits digits
      some (if negative then -n else n)
    else none

theorem digitsOf_ne_nil (n : Nat) : digitsOf n ≠ [] := by
  unfold digitsOf
  split <;> simp

theorem natOfDigits_append (ds : List Nat) (d : Nat) :
    natOfDigits (ds ++ [d]) = 10 * natOfDigits ds + d := by
  simp [natOfDigits]

end RegistrySync.Text
