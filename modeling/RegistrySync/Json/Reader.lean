/-
Reading a data tree from its written form.

* `Json.read?` — the tree that a text denotes, if it denotes one;
* `joinUnits_chars` — plain characters are read as they are.

Design notes: a literal is read piece by piece, and only then are the pieces that give
halves of a character joined. Every reading is bounded by the length of the text, which it
never reaches.
-/
import RegistrySync.Json.Basic

namespace RegistrySync.Json

/-- The blanks between the parts of a written tree. -/
def isGap (c : Char) : Bool := c == ' ' || c == '\n' || c == '\r' || c == '\t'

/-- The text behind the blanks in front of it. -/
def skipGap (cs : List Char) : List Char := cs.dropWhile isGap

/-! ### String literals -/

/-- One piece of a literal. -/
inductive Piece where
  | char (c : Char)
  /-- A number that stands for a character or for half of one. -/
  | unit (n : Nat)
  | close
  deriving DecidableEq, Repr

/-- The value of a hexadecimal digit. -/
def hexValue? (c : Char) : Option Nat :=
  if c.isDigit then some (c.toNat - '0'.toNat)
  else if 'a' ≤ c ∧ c ≤ 'f' then some (c.toNat - 'a'.toNat + 10)
  else if 'A' ≤ c ∧ c ≤ 'F' then some (c.toNat - 'A'.toNat + 10)
  else none

/-- The number of four hexadecimal digits. -/
def hexUnit? (digits : List Char) : Option Nat :=
  if digits.length = 4 then
    (digits.mapM hexValue?).map fun values => values.foldl (fun n d => 16 * n + d) 0
  else none

/-- The character that a letter behind a backslash stands for. -/
def escaped? : Char → Option Char
  | '"' => some '"'
  | '\\' => some '\\'
  | '/' => some '/'
  | 'b' => some (Char.ofNat 0x08)
  | 'f' => some (Char.ofNat 0x0C)
  | 'n' => some '\n'
  | 'r' => some '\r'
  | 't' => some '\t'
  | _ => none

/-- The piece at the front of a text, and the text behind it. -/
def piece? : List Char → Option (Piece × List Char)
  | [] => none
  | c :: rest =>
    if c = '"' then some (.close, rest)
    else if c = '\\' then
      match rest with
      | [] => none
      | e :: more =>
        if e = 'u' then (hexUnit? (more.take 4)).map fun n => (.unit n, more.drop 4)
        else (escaped? e).map fun c => (.char c, more)
    else if c.toNat < 0x20 then none
    else some (.char c, rest)

/-- The pieces up to the end of a literal, and the text behind it. -/
def pieces? : Nat → List Char → Option (List Piece × List Char)
  | 0, _ => none
  | bound + 1, cs =>
    match piece? cs with
    | none => none
    | some (.close, rest) => some ([], rest)
    | some (piece, rest) =>
      match pieces? bound rest with
      | none => none
      | some (others, behind) => some (piece :: others, behind)

/-- Whether a number stands for the first half of a character. -/
def isHighHalf (n : Nat) : Bool := 0xD800 ≤ n && n < 0xDC00

/-- Whether a number stands for the second half of a character. -/
def isLowHalf (n : Nat) : Bool := 0xDC00 ≤ n && n < 0xE000

/-- The characters of pieces; two halves that follow one another are one character. -/
def joinUnits : List Piece → List Char
  | [] => []
  | .unit high :: .unit low :: rest =>
    if isHighHalf high && isLowHalf low then
      Char.ofNat (0x10000 + (high - 0xD800) * 0x400 + (low - 0xDC00)) :: joinUnits rest
    else Char.ofNat high :: joinUnits (.unit low :: rest)
  | .unit n :: rest => Char.ofNat n :: joinUnits rest
  | .char c :: rest => c :: joinUnits rest
  | .close :: rest => joinUnits rest

/-- The string of a literal behind its opening quote, and the text behind it. -/
def literal? (cs : List Char) : Option (String × List Char) :=
  (pieces? (cs.length + 1) cs).map fun (pieces, rest) => (String.ofList (joinUnits pieces), rest)

/-! ### Numbers -/

/-- The characters of a number. -/
def isNumberChar (c : Char) : Bool :=
  c.isDigit || c == '-' || c == '+' || c == '.' || c == 'e' || c == 'E'

/-- The number that is written this way. -/
def numberOf (cs : List Char) : Option Json :=
  match cs with
  | '-' :: digits => if isWhole digits then some (int (-(valueOf digits))) else other cs
  | digits => if isWhole digits then some (int (valueOf digits)) else other cs
where
  /-- Whether a text has nothing but digits. -/
  isWhole (digits : List Char) : Bool := !digits.isEmpty && digits.all Char.isDigit
  /-- The value of digits. -/
  valueOf (digits : List Char) : Int :=
    Text.natOfDigits (digits.map fun c => c.toNat - '0'.toNat)
  /-- A number that is not whole. -/
  other (cs : List Char) : Option Json :=
    if cs.any Char.isDigit then some (decimal (String.ofList cs)) else none

/-! ### Trees -/

mutual

/-- The tree at the front of a text, and the text behind it. -/
def value? : Nat → List Char → Option (Json × List Char)
  | 0, _ => none
  | bound + 1, cs =>
    match skipGap cs with
    | [] => none
    | '"' :: rest => (literal? rest).map fun (s, behind) => (str s, behind)
    | '[' :: rest =>
      match skipGap rest with
      | ']' :: behind => some (arr [], behind)
      | _ => (items? bound rest).map fun (items, behind) => (arr items, behind)
    | '{' :: rest =>
      match skipGap rest with
      | '}' :: behind => some (obj [], behind)
      | _ => (fields? bound rest).map fun (fields, behind) => (obj fields, behind)
    | 'n' :: 'u' :: 'l' :: 'l' :: rest => some (null, rest)
    | 't' :: 'r' :: 'u' :: 'e' :: rest => some (bool true, rest)
    | 'f' :: 'a' :: 'l' :: 's' :: 'e' :: rest => some (bool false, rest)
    | front => (numberOf (front.takeWhile isNumberChar)).map fun number =>
        (number, front.dropWhile isNumberChar)

/-- The items of an array up to its closing bracket, and the text behind it. -/
def items? : Nat → List Char → Option (List Json × List Char)
  | 0, _ => none
  | bound + 1, cs =>
    match value? bound cs with
    | none => none
    | some (item, rest) =>
      match skipGap rest with
      | ']' :: behind => some ([item], behind)
      | ',' :: more =>
        (items? bound more).map fun (others, behind) => (item :: others, behind)
      | _ => none

/-- The fields of an object up to its closing bracket, and the text behind it. -/
def fields? : Nat → List Char → Option (List (String × Json) × List Char)
  | 0, _ => none
  | bound + 1, cs =>
    match skipGap cs with
    | '"' :: rest =>
      match literal? rest with
      | none => none
      | some (name, rest) =>
        match skipGap rest with
        | ':' :: rest =>
          match value? bound rest with
          | none => none
          | some (value, rest) =>
            match skipGap rest with
            | '}' :: behind => some ([(name, value)], behind)
            | ',' :: more =>
              (fields? bound more).map fun (others, behind) => ((name, value) :: others, behind)
            | _ => none
        | _ => none
    | _ => none

end

/-- The tree that a text denotes. -/
def read? (text : String) : Option Json :=
  let cs := text.toList
  match value? (cs.length + 1) cs with
  | some (value, rest) => if (skipGap rest).isEmpty then some value else none
  | none => none

/-- Plain characters are read as they are. -/
theorem joinUnits_chars (cs : List Char) : joinUnits (cs.map Piece.char) = cs := by
  induction cs with
  | nil => rfl
  | cons c rest ih => simpa [joinUnits] using ih

end RegistrySync.Json
