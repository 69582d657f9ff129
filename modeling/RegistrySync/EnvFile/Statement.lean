/-
Environment files: lines `NAME=VALUE`, with comments, quotes and an optional `export`.

* `items` — what a text says, statement by statement, with the lines that cannot be read;
* `quotedValue?` — where a quoted value ends;
* `bareValue` — a value without quotes.

Design notes: a value between quotes can go on over several lines. A statement that cannot
be read is given up together with the rest of its line, and the next one starts behind it.
-/
import RegistrySync.Text.Blank
import RegistrySync.Text.Cut

namespace RegistrySync.EnvFile

open Text (isBlank)

/-! ### Characters -/

/-- Every line end as a single new-line character. -/
def unifyNewLines : List Char → List Char
  | [] => []
  | '\r' :: '\n' :: rest => '\n' :: unifyNewLines rest
  | '\r' :: rest => '\n' :: unifyNewLines rest
  | c :: rest => c :: unifyNewLines rest

/-- A text without the mark of its encoding in front of it. -/
def dropMark : List Char → List Char
  | c :: rest => if c.toNat = 0xFEFF then rest else c :: rest
  | [] => []

/-- A blank within a line. -/
def isLineBlank (c : Char) : Bool := isBlank c && c != '\n' && c != '\r'

/-- The text behind the blanks of the line in front of it. -/
def skipLineBlanks (cs : List Char) : List Char := cs.dropWhile isLineBlank

/-- The rest of the line, without its end. -/
def restOfLine (cs : List Char) : List Char := cs.takeWhile fun c => c != '\n' && c != '\r'

/-- The text from the end of the line. -/
def toLineEnd (cs : List Char) : List Char := cs.dropWhile fun c => c != '\n' && c != '\r'

/-- The text behind the line. -/
def skipLine (cs : List Char) : List Char := (toLineEnd cs).drop 1

/-! ### Quoted values -/

/-- What stands between an opening quote and the quote that ends it, and what stands behind.
A backslash takes the next character with it, whatever that is, so that it ends nothing. -/
def quotedValue? (quote : Char) : List Char → Option (List Char × List Char)
  | [] => none
  | [c] => if c = quote then some ([], []) else none
  | c :: next :: rest =>
    if c = quote then some ([], next :: rest)
    else if c = '\\' then
      (quotedValue? quote rest).map fun (inner, behind) => (c :: next :: inner, behind)
    else (quotedValue? quote (next :: rest)).map fun (inner, behind) => (c :: inner, behind)

/-- The characters that a backslash can stand before, with what is meant, between single
quotes. -/
def singleEscapes : List (Char × Char) := [('\\', '\\'), ('\'', '\'')]

/-- The characters that a backslash can stand before, with what is meant, between double
quotes. -/
def doubleEscapes : List (Char × Char) :=
  [('\\', '\\'), ('\'', '\''), ('"', '"'), ('a', Char.ofNat 0x07), ('b', Char.ofNat 0x08),
   ('f', Char.ofNat 0x0C), ('n', '\n'), ('r', '\r'), ('t', '\t'), ('v', Char.ofNat 0x0B)]

/-- A quoted text with its escapes resolved; a backslash before any other character stays. -/
def unescape (escapes : List (Char × Char)) : List Char → List Char
  | [] => []
  | [c] => [c]
  | c :: next :: rest =>
    if c = '\\' then
      match escapes.lookup next with
      | some meant => meant :: unescape escapes rest
      | none => c :: unescape escapes (next :: rest)
    else c :: unescape escapes (next :: rest)

/-! ### Statements -/

/-- A bare value up to the comment behind it. A comment starts at a number sign behind a
blank. -/
def cutComment : List Char → List Char
  | [] => []
  | c :: rest =>
    if isBlank c && ((rest.dropWhile isBlank).head? == some '#') then [] else c :: cutComment rest

/-- A bare value, without the blanks around it. -/
def bareValue (cs : List Char) : List Char := Text.trim (cutComment (restOfLine cs))

/-- The value at the front of a text, and the text behind it. -/
def value? (cs : List Char) : Option (List Char × List Char) :=
  match skipLineBlanks cs with
  | '\'' :: rest =>
    (quotedValue? '\'' rest).map fun (inner, behind) => (unescape singleEscapes inner, behind)
  | '"' :: rest =>
    (quotedValue? '"' rest).map fun (inner, behind) => (unescape doubleEscapes inner, behind)
  | _ => some (bareValue cs, toLineEnd cs)

/-- The characters of a bare name. -/
def isNameChar (c : Char) : Bool := c != '=' && c != '#' && !isBlank c

/-- The text behind the word `export` and the blanks that must follow it. -/
def skipExport (cs : List Char) : List Char :=
  match cs with
  | 'e' :: 'x' :: 'p' :: 'o' :: 'r' :: 't' :: rest =>
    if rest.head?.any isLineBlank then skipLineBlanks rest else cs
  | _ => cs

/-- The name at the front of a text, if a statement has one, and the text behind it. Outside
is nothing if no name can be read. -/
def name? (cs : List Char) : Option (Option (List Char) × List Char) :=
  match cs with
  | '#' :: _ => some (none, cs)
  | '\'' :: rest =>
    let inner := rest.takeWhile (· != '\'')
    if inner.isEmpty then none
    else
      match rest.dropWhile (· != '\'') with
      | _ :: behind => some (some inner, behind)
      | [] => none
  | _ =>
    let inner := cs.takeWhile isNameChar
    if inner.isEmpty then none else some (some inner, cs.dropWhile isNameChar)

/-- The text behind a comment, if there is one. -/
def skipComment (cs : List Char) : List Char :=
  match skipLineBlanks cs with
  | '#' :: rest => toLineEnd rest
  | _ => cs

/-- The text behind the end of a line, if nothing but blanks stands before it. -/
def endLine? (cs : List Char) : Option (List Char) :=
  match skipLineBlanks cs with
  | [] => some []
  | c :: rest => if c = '\n' ∨ c = '\r' then some rest else none

/-- A statement: a name and, unless it is only mentioned, its value. -/
structure Statement where
  name : Option String
  value : Option String
  deriving DecidableEq, Repr

/-- The optional value behind a name, with the text behind it. Without a value the text is
where reading stopped. -/
def assigned? (cs : List Char) : Except (List Char) (Option (List Char) × List Char) :=
  match skipLineBlanks cs with
  | '=' :: rest =>
    match value? rest with
    | some (value, behind) => .ok (some value, behind)
    | none => .error rest
  | behind => .ok (none, behind)

/-- The statement at the front of a text, and the text behind it. Otherwise the text is where
reading stopped. -/
def statement? (cs : List Char) : Except (List Char) (Statement × List Char) :=
  let start := skipExport (cs.dropWhile isBlank)
  match name? start with
  | none => .error start
  | some (name, rest) =>
    match assigned? rest with
    | .error stopped => .error stopped
    | .ok (value, behind) =>
      let stopped := skipComment behind
      match endLine? stopped with
      | some behind => .ok (⟨name.map String.ofList, value.map String.ofList⟩, behind)
      | none => .error stopped

/-- What a text says: a statement, or the number of a line that cannot be read. -/
inductive Item where
  | statement (statement : Statement)
  | unreadable (line : Nat)
  deriving DecidableEq, Repr

/-- The line on which a text starts that is left of an earlier one. -/
def lineAfter (line : Nat) (before after : List Char) : Nat :=
  line + ((before.take (before.length - after.length)).filter (· == '\n')).length

/-- What a text says that starts on the given line, with a bound on the number of items. -/
def itemsFrom : Nat → Nat → List Char → List Item
  | 0, _, _ => []
  | bound + 1, line, cs =>
    if (cs.dropWhile isBlank).isEmpty then []
    else
      match statement? cs with
      | .ok (statement, behind) =>
        .statement statement :: itemsFrom bound (lineAfter line cs behind) behind
      | .error stopped =>
        let behind := skipLine stopped
        .unreadable line :: itemsFrom bound (lineAfter line cs behind) behind

/-- What a text says, statement by statement. Every item takes a character, so there are no
more items than characters. -/
def items (text : String) : List Item :=
  let cs := dropMark (unifyNewLines text.toList)
  itemsFrom cs.length 1 cs

end RegistrySync.EnvFile
