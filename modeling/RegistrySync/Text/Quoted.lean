/-
Quoted texts.

* `quoted` — as messages show a value that may hold anything: between quotes, with escapes for
  the quote, the backslash and whatever is not printable;
* `delimiter_eq` — the quotes are single unless only single quotes occur in the text;
* `shellWord`, `shellLine` — command words as a shell would read them back;
* `shellWord_of_plain` — a non-empty word of plain characters is written as it is.
-/
import RegistrySync.Text.Printable

namespace RegistrySync.Text

/-! ### Values in messages -/

/-- The quote around a text: a single one, unless the text has single quotes and no double
ones. -/
def delimiter (cs : List Char) : Char :=
  if '\'' ∈ cs ∧ '"' ∉ cs then '"' else '\''

/-- The last `width` hexadecimal digits of a number, in lower case. -/
def hexDigits (width n : Nat) : List Char :=
  (List.range width).reverse.map fun place => Nat.digitChar ((n >>> (4 * place)) % 16)

/-- A character by its number, in the shortest of three widths. -/
def numberEscape (c : Char) : List Char :=
  let n := c.toNat
  if n < 0x100 then '\\' :: 'x' :: hexDigits 2 n
  else if n < 0x10000 then '\\' :: 'u' :: hexDigits 4 n
  else '\\' :: 'U' :: hexDigits 8 n

/-- The characters that are written as a letter behind a backslash. -/
def quotedLetters : List (Char × Char) := [('\t', 't'), ('\n', 'n'), ('\r', 'r')]

/-- A character as it is written between quotes `quote`. -/
def quoteChar (quote c : Char) : List Char :=
  if c = quote ∨ c = '\\' then ['\\', c]
  else
    match quotedLetters.lookup c with
    | some letter => ['\\', letter]
    | none => if isPrintable c then [c] else numberEscape c

/-- A text between quotes. -/
def quoteChars (cs : List Char) : List Char :=
  let quote := delimiter cs
  quote :: (cs.flatMap (quoteChar quote) ++ [quote])

/-- A string between quotes. -/
def quoted (s : String) : String := String.ofList (quoteChars s.toList)

theorem delimiter_eq (cs : List Char) : delimiter cs = '\'' ∨ delimiter cs = '"' := by
  unfold delimiter
  split <;> simp

/-! ### Command words -/

/-- A character that needs no quotes in a command word. -/
def isPlainInShell (c : Char) : Bool :=
  c.isAlphanum || c ∈ ['_', '@', '%', '+', '=', ':', ',', '.', '/', '-']

/-- A word between single quotes; a single quote itself goes between double quotes. -/
def shellQuote (cs : List Char) : List Char :=
  '\'' :: (cs.flatMap fun c => if c = '\'' then ['\'', '"', '\'', '"', '\''] else [c]) ++ ['\'']

/-- A word as it is written on a command line. -/
def shellWord (cs : List Char) : List Char :=
  if cs ≠ [] ∧ cs.all isPlainInShell then cs else shellQuote cs

/-- Words as one command line. -/
def shellLine (words : List String) : String :=
  " ".intercalate (words.map fun word => String.ofList (shellWord word.toList))

theorem shellWord_of_plain {cs : List Char} (h : cs ≠ []) (hp : cs.all isPlainInShell = true) :
    shellWord cs = cs := by
  simp only [shellWord, hp, and_true, ne_eq, h, not_false_eq_true, if_true]

end RegistrySync.Text
