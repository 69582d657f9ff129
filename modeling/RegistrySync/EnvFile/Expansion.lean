/-
Expansion of values: `${NAME}` stands for the value of another variable, and
`${NAME:-DEFAULT}` for the default if there is no such variable.

* `expand` — a value with all references replaced;
* `resolve` — all values of a file, in order; a value sees those before it.
-/
import RegistrySync.EnvFile.Statement
import RegistrySync.Settings.Environment

namespace RegistrySync.EnvFile

/-- A reference to a variable, and the text behind it. -/
structure Reference where
  name : List Char
  default : List Char
  behind : List Char
  deriving DecidableEq, Repr

/-- The reference behind a dollar sign, if there is one. -/
def reference? : List Char → Option Reference
  | '{' :: rest =>
    let name := rest.takeWhile fun c => c != '}' && c != ':'
    match rest.drop name.length with
    | '}' :: behind => some ⟨name, [], behind⟩
    | ':' :: '-' :: more =>
      let default := more.takeWhile (· != '}')
      match more.drop default.length with
      | _ :: behind => some ⟨name, default, behind⟩
      | [] => none
    | _ => none
  | _ => none

/-- A value with its references replaced by what `meaning` gives for a name and a default;
`bound` is at least the length of the value. -/
def expandFrom (meaning : String → String → String) : Nat → List Char → List Char
  | 0, _ => []
  | _ + 1, [] => []
  | bound + 1, c :: rest =>
    if c = '$' then
      match reference? rest with
      | some r =>
        (meaning (String.ofList r.name) (String.ofList r.default)).toList ++
          expandFrom meaning bound r.behind
      | none => c :: expandFrom meaning bound rest
    else c :: expandFrom meaning bound rest

/-- A value with all references replaced. -/
def expand (meaning : String → String → String) (value : String) : String :=
  String.ofList (expandFrom meaning value.toList.length value.toList)

/-- The variables of a file with their values; one that is only mentioned has none. -/
abbrev Bindings : Type := List (String × Option String)

/-- The bindings with one more. A name keeps its place when it is bound again. -/
def bindName (bindings : Bindings) (name : String) (value : Option String) : Bindings :=
  if bindings.any (·.1 == name) then
    bindings.map fun pair => if pair.1 = name then (name, value) else pair
  else bindings ++ [(name, value)]

/-- What a reference means: the variable of the environment, else the one of the file. The
default is for names that are found in neither. -/
def meaningIn (env : Environment) (bindings : Bindings) (name default : String) : String :=
  match env.value? name with
  | some value => value
  | none =>
    match bindings.lookup name with
    | some value => value.getD ""
    | none => default

/-- Read on: the bindings after more statements. -/
def resolveFrom (env : Environment) (bindings : Bindings) : List Statement → Bindings
  | [] => bindings
  | ⟨none, _⟩ :: rest => resolveFrom env bindings rest
  | ⟨some name, value⟩ :: rest =>
    resolveFrom env (bindName bindings name (value.map (expand (meaningIn env bindings)))) rest

/-- All variables of a file. -/
def resolve (env : Environment) (statements : List Statement) : Bindings :=
  resolveFrom env [] statements

end RegistrySync.EnvFile
