/-
Options on a command line: which words are options, which are their values, and which are
neither.

* `parseWords` — a command line taken apart;
* `Parsed.last?`, `Parsed.has` — what was said about one option;
* `parseWords_dashes` — behind a pair of dashes nothing is an option.
-/
import RegistrySync.Text.Cut
import RegistrySync.Text.Quoted

namespace RegistrySync.CommandLine

/-- An option: its name, a letter that stands for it, and whether it takes a value. -/
structure OptionSpec where
  name : String
  letter : Option Char := none
  takesValue : Bool := false
  deriving DecidableEq, Repr

/-- Why a command line cannot be taken apart. -/
inductive WordFault where
  | unknownOption
  | valueMissing (name : String)
  | valueUnexpected (name : String)
  deriving DecidableEq, Repr

/-- A fault, and the words behind the one in which it was found. -/
structure WordStop where
  fault : WordFault
  behind : List String
  deriving DecidableEq, Repr

/-- An option that was given, with its value if it takes one. -/
structure Given where
  name : String
  value : Option String := none
  deriving DecidableEq, Repr

/-- A command line taken apart. -/
structure Parsed where
  given : List Given := []
  words : List String := []
  deriving DecidableEq, Repr

namespace Parsed

/-- The value of an option; the last one counts. -/
def last? (parsed : Parsed) (name : String) : Option String :=
  ((parsed.given.filter (·.name == name)).getLast?).bind (·.value)

/-- Whether an option was given. -/
def has (parsed : Parsed) (name : String) : Bool := parsed.given.any (·.name == name)

/-- One more option in front. -/
def addGiven (parsed : Parsed) (given : List Given) : Parsed :=
  { parsed with given := given ++ parsed.given }

/-- One more word in front. -/
def addWord (parsed : Parsed) (word : String) : Parsed :=
  { parsed with words := word :: parsed.words }

end Parsed

/-- Whether a word looks like an option: a dash and something behind it. -/
def looksLikeOption (word : String) : Bool :=
  match word.toList with
  | '-' :: _ :: _ => true
  | _ => false

/-- Whether a word starts with two dashes. -/
def startsWithDashes (word : String) : Bool := ['-', '-'].isPrefixOf word.toList

/-- The option that a letter stands for. None of them takes a value. -/
def letterOption? (specs : List OptionSpec) (c : Char) : Option Given :=
  (specs.find? fun spec => spec.letter == some c).map fun spec => ⟨spec.name, none⟩

/-- What a word with an option in it says. -/
inductive OptionWord where
  /-- Options that are complete. -/
  | complete (given : List Given)
  /-- An option whose value is the next word. -/
  | awaits (name : String)
  deriving DecidableEq, Repr

/-- A word as one long option, with a value behind an equals sign, or as a dash and a row of
letters. -/
def readOption (specs : List OptionSpec) (word : String) : Except WordFault OptionWord :=
  let (name, value) := Text.cut '=' word.toList
  match specs.find? fun spec => spec.name == String.ofList name with
  | some spec =>
    match spec.takesValue, value with
    | true, some value => .ok (.complete [⟨spec.name, some (String.ofList value)⟩])
    | true, none => .ok (.awaits spec.name)
    | false, some _ => .error (.valueUnexpected spec.name)
    | false, none => .ok (.complete [⟨spec.name, none⟩])
  | none =>
    if startsWithDashes word then .error .unknownOption
    else
      match (word.toList.drop 1).mapM (letterOption? specs) with
      | some given => .ok (.complete given)
      | none => .error .unknownOption

/-- Take a command line apart. With `mixed`, options may stand behind words; without, the
first word ends the options, and it and all behind it are words. -/
def parseWords (specs : List OptionSpec) (mixed : Bool) : List String → Except WordStop Parsed
  | [] => .ok {}
  | word :: rest =>
    if word = "--" then .ok { words := rest }
    else if looksLikeOption word then
      match readOption specs word with
      | .error fault => .error ⟨fault, rest⟩
      | .ok (.complete given) => (parseWords specs mixed rest).map (·.addGiven given)
      | .ok (.awaits name) =>
        match rest with
        | [] => .error ⟨.valueMissing name, []⟩
        | value :: more => (parseWords specs mixed more).map (·.addGiven [⟨name, some value⟩])
    else if mixed then (parseWords specs mixed rest).map (·.addWord word)
    else .ok { words := word :: rest }

/-- The wording of a fault that is told in a frame of its own. -/
def WordFault.message : WordFault → String
  | .unknownOption => "No such option"
  | .valueMissing name => "Option " ++ Text.quoted name ++ " requires an argument."
  | .valueUnexpected name => "Option " ++ Text.quoted name ++ " does not take a value."

/-- A text with blanks behind it up to a width. -/
def padded (width : Nat) (text : String) : String :=
  text ++ String.ofList (List.replicate (width - text.length) ' ')

/-- A line of dashes. -/
def rule (width : Nat) : String := String.ofList (List.replicate width '─')

/-- A message in a frame of eighty columns. -/
def framed (message : String) : String :=
  "╭─ Error " ++ rule 70 ++ "╮\n│ " ++ padded 76 message ++ " │\n╰" ++ rule 78 ++ "╯\n"

/-- Behind a pair of dashes nothing is an option. -/
theorem parseWords_dashes (specs : List OptionSpec) (mixed : Bool) (rest : List String) :
    parseWords specs mixed ("--" :: rest) = .ok { words := rest } := by
  simp [parseWords]

end RegistrySync.CommandLine
