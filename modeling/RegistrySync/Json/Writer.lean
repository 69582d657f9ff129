/-
The two written forms of a data tree: the compact one, which is stored in the registry, and
the indented one, which is shown to people.

* `compact_str`, `compact_arr` — how the parts of the compact form are put together;
* `mem_sortFields` — sorting the fields of an object loses and adds nothing.

Design notes: fields are sorted by their names. Every field is written on its own before
the fields are sorted, so that both writers are recursions on the tree.
-/
import RegistrySync.Json.Basic

namespace RegistrySync.Json

/-- The control characters that have a letter of their own behind a backslash. -/
def controlLetters : List (Char × Char) :=
  [('\n', 'n'), ('\t', 't'), ('\r', 'r'), (Char.ofNat 0x08, 'b'), (Char.ofNat 0x0C, 'f')]

/-- A character inside a string literal. Only the quote, the backslash and the control
characters are escaped. -/
def escapeChar (c : Char) : List Char :=
  if c = '"' ∨ c = '\\' then ['\\', c]
  else
    match controlLetters.lookup c with
    | some letter => ['\\', letter]
    | none => if c.toNat < 0x20 then '\\' :: 'u' :: Text.hexDigits 4 c.toNat else [c]

/-- A string literal. -/
def literal (s : String) : String :=
  String.ofList ('"' :: (s.toList.flatMap escapeChar ++ ['"']))

section

variable {α : Type}

/-- Fields in the order of their names, with one more put in front of those of its name. -/
def insertField (field : String × α) : List (String × α) → List (String × α)
  | [] => [field]
  | next :: rest =>
    if field.1 ≤ next.1 then field :: next :: rest else next :: insertField field rest

/-- Fields in the order of their names. Fields of one name keep their order. -/
def sortFields (fields : List (String × α)) : List (String × α) :=
  fields.foldr insertField []

end

mutual

/-- The written form without any blanks. -/
def compact : Json → String
  | null => "null"
  | bool true => "true"
  | bool false => "false"
  | int value => Text.showInt value
  | decimal text => text
  | str value => literal value
  | arr items => "[" ++ ",".intercalate (compactItems items) ++ "]"
  | obj fields =>
    "\x7b" ++ ",".intercalate ((sortFields (compactFields fields)).map (·.2)) ++ "\x7d"

/-- The written forms of the items of an array. -/
def compactItems : List Json → List String
  | [] => []
  | item :: rest => item.compact :: compactItems rest

/-- The fields of an object, each name with the written form of the field. -/
def compactFields : List (String × Json) → List (String × String)
  | [] => []
  | (name, value) :: rest =>
    (name, literal name ++ ":" ++ value.compact) :: compactFields rest

end

/-- A new line, indented by two spaces for each level. -/
def newLine (depth : Nat) : String := String.ofList ('\n' :: List.replicate (2 * depth) ' ')

/-- Parts between brackets, one on each line, or the bare brackets when there is none. -/
def block (opening closing : String) (depth : Nat) (parts : List String) : String :=
  if parts.isEmpty then opening ++ closing
  else
    opening ++ newLine (depth + 1) ++ ("," ++ newLine (depth + 1)).intercalate parts ++
      newLine depth ++ closing

mutual

/-- The written form with every element on its own line, at the given depth. -/
def indentedAt (depth : Nat) : Json → String
  | null => "null"
  | bool true => "true"
  | bool false => "false"
  | int value => Text.showInt value
  | decimal text => text
  | str value => literal value
  | arr items => block "[" "]" depth (indentedItems (depth + 1) items)
  | obj fields =>
    block "\x7b" "\x7d" depth ((sortFields (indentedFields (depth + 1) fields)).map (·.2))

/-- The written forms of the items of an array. -/
def indentedItems (depth : Nat) : List Json → List String
  | [] => []
  | item :: rest => item.indentedAt depth :: indentedItems depth rest

/-- The fields of an object, each name with the written form of the field. -/
def indentedFields (depth : Nat) : List (String × Json) → List (String × String)
  | [] => []
  | (name, value) :: rest =>
    (name, literal name ++ ": " ++ value.indentedAt depth) :: indentedFields depth rest

end

/-- The written form with every element on its own line. -/
def indented (value : Json) : String := value.indentedAt 0

/-- Sorting loses and adds nothing. -/
theorem mem_sortFields {α : Type} {field : String × α} {fields : List (String × α)} :
    field ∈ sortFields fields ↔ field ∈ fields := by
  have h : ∀ (f : String × α) (l : List (String × α)),
      field ∈ insertField f l ↔ field = f ∨ field ∈ l := by
    intro f l
    induction l with
    | nil => simp [insertField]
    | cons next rest ih =>
      unfold insertField
      split
      · simp
      · simp [ih, or_left_comm]
  induction fields with
  | nil => simp [sortFields]
  | cons f rest ih => simpa [sortFields, h] using or_congr_right ih

@[simp] theorem compact_str (s : String) : compact (str s) = literal s := by
  simp [compact]

theorem compact_arr (items : List Json) :
    compact (arr items) = "[" ++ ",".intercalate (items.map compact) ++ "]" := by
  have h : ∀ l : List Json, compactItems l = l.map compact := by
    intro l
    induction l with
    | nil => simp [compactItems]
    | cons item rest ih => simp [compactItems, ih]
  simp [compact, h]

end RegistrySync.Json
