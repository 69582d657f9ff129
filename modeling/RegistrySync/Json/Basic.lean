/-
Data trees: the payloads of the container daemon and the records of the registry.

* `Json.isEmpty` — which values count as no value at all;
* `Json.text` — how a value reads inside a text.

Design notes: a number that is not whole is kept as it is written, since nothing is computed
with it. An object keeps its fields in the order of its text.
-/
import RegistrySync.Text.Integer
import RegistrySync.Text.Quoted

namespace RegistrySync

/-- A data tree. -/
inductive Json where
  | null
  | bool (value : Bool)
  | int (value : Int)
  /-- A number that is not whole, as it is written. -/
  | decimal (text : String)
  | str (value : String)
  | arr (items : List Json)
  | obj (fields : List (String × Json))
  deriving Inhabited, BEq, Repr

namespace Json

/-- The value of the first field of that name, if the tree is an object that has one. -/
def field? (name : String) : Json → Option Json
  | obj fields => fields.lookup name
  | _ => none

/-- The tree itself if it is an object, else the empty object. -/
def orEmptyObject : Json → Json
  | obj fields => obj fields
  | _ => obj []

/-- Whether a number that is written this way is zero: all digits before its exponent are. -/
def isZeroText (text : String) : Bool :=
  (text.toList.takeWhile fun c => c != 'e' && c != 'E').all fun c => !c.isDigit || c == '0'

/-- The values that count as no value: null, false, zero and whatever is empty. -/
def isEmpty : Json → Bool
  | null => true
  | bool value => !value
  | int value => value == 0
  | decimal text => isZeroText text
  | str value => value.isEmpty
  | arr items => items.isEmpty
  | obj fields => fields.isEmpty

/-- The items of an array, the letters of a string as strings, and nothing for the rest. -/
def elements : Json → List Json
  | arr items => items
  | str value => value.toList.map fun c => str (String.singleton c)
  | _ => []

/-- The name of a value's kind, as messages about a misplaced value give it. -/
def kindName : Json → String
  | null => "NoneType"
  | bool _ => "bool"
  | int _ => "int"
  | decimal _ => "float"
  | str _ => "str"
  | arr _ => "list"
  | obj _ => "dict"

mutual

/-- A value as it is shown inside another one: strings stand between quotes. -/
def shown : Json → String
  | null => "None"
  | bool true => "True"
  | bool false => "False"
  | int value => Text.showInt value
  | decimal text => text
  | str value => Text.quoted value
  | arr items => "[" ++ ", ".intercalate (shownItems items) ++ "]"
  | obj fields => "\x7b" ++ ", ".intercalate (shownFields fields) ++ "\x7d"

/-- Each item of an array as it is shown. -/
def shownItems : List Json → List String
  | [] => []
  | item :: rest => item.shown :: shownItems rest

/-- Each field of an object as it is shown. -/
def shownFields : List (String × Json) → List String
  | [] => []
  | (name, value) :: rest => (Text.quoted name ++ ": " ++ value.shown) :: shownFields rest

end

/-- How a value reads inside a text: a string as it is, any other value as it is shown. -/
def text : Json → String
  | str value => value
  | value => value.shown

@[simp] theorem text_str (s : String) : text (str s) = s := rfl

@[simp] theorem elements_arr (items : List Json) : elements (arr items) = items := rfl

end Json

end RegistrySync
