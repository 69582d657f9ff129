/-
The command line as it is logged: quoted for a shell, and with passwords left out.

* `redact` — the words with every secret replaced;
* `invocationLine` — the line that is logged;
* `redact_secret` — the word behind a secret option is replaced, whatever it is.
-/
import RegistrySync.Text.Blank
import RegistrySync.Text.Cut
import RegistrySync.Text.LetterCase
import RegistrySync.Text.Quoted

namespace RegistrySync.CommandLine

/-- What stands for a secret. -/
def redacted : String := "<redacted>"

/-- The options whose value is a secret. -/
def secretOptions : List String := ["--redis-password", "--password"]

/-- Whether a word is an option whose value is a secret. -/
def isSecretOption (word : String) : Bool := Text.lowerCase word ∈ secretOptions

/-- Whether a word holds a secret behind an equals sign. -/
def holdsSecret (word : String) : Bool :=
  Text.occursIn "password=".toList (Text.lower word.toList)

/-- A word that holds a secret, with the secret replaced. -/
def withoutSecret (word : String) : String :=
  String.ofList (Text.cut '=' word.toList).1 ++ "=" ++ redacted

/-- The words with every secret replaced; `hide` says whether the next word is one. Empty
words are left out. -/
def redact (hide : Bool) : List String → List String
  | [] => []
  | word :: rest =>
    if word.isEmpty then redact hide rest
    else if hide then redacted :: redact false rest
    else if isSecretOption word then word :: redact true rest
    else if holdsSecret word then withoutSecret word :: redact false rest
    else word :: redact false rest

/-- The name of the program, unless it is called by another one. -/
def programName : String := "beachhead-companion"

/-- The name under which the program was called. -/
def calledName (name : Option String) : String :=
  Text.strip (match name with
    | some name => if name.isEmpty then programName else name
    | none => programName)

/-- The command line as it is logged. -/
def invocationLine (name : Option String) (words : List String) : String :=
  Text.shellLine (calledName name :: redact false words)

/-- The word behind a secret option is replaced, whatever it is. -/
theorem redact_secret {option secret : String} (rest : List String)
    (ho : isSecretOption option = true) (hs : secret ≠ "") :
    redact false (option :: secret :: rest) = option :: redacted :: redact false rest := by
  have hn : option.isEmpty = false := by
    rw [Bool.eq_false_iff]
    intro he
    rw [String.isEmpty_iff.1 he] at ho
    exact absurd ho (by decide)
  have hs' : secret.isEmpty = false := by simpa [String.isEmpty_iff] using hs
  simp [redact, hn, hs', ho]

end RegistrySync.CommandLine
