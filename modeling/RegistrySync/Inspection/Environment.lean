/-
The environment of a container as a list of lines `NAME=VALUE`, and the domains that it
declares.

* `declaredValues` — the values of one variable, in order;
* `readEnvironment` — whether the variable is there and what its values yield;
* `readEnvironment_of_not_mem` — without the variable nothing is read.
-/
import RegistrySync.DomainSpec.Parse

namespace RegistrySync.Inspection

open DomainSpec (Parse)

/-- The value in a line, if the line is about the variable. -/
def valueIn (name line : String) : Option String :=
  let (key, value) := Text.cut '=' line.toList
  if String.ofList key = name then value.map String.ofList else none

/-- The values of a variable. A variable may stand in any number of lines. -/
def declaredValues (name : String) (lines : List String) : List String :=
  lines.filterMap (valueIn name)

/-- What the values yield, one after another, behind the specs that are there already. -/
def readValues : List String → List DomainSpec → Parse
  | [], specs => ⟨specs, [], none⟩
  | value :: rest, specs =>
    let first := DomainSpec.parseAll value specs
    match first.stop with
    | some _ => first
    | none =>
      let others := readValues rest first.specs
      { others with unknown := first.unknown ++ others.unknown }

/-- What an environment says about domains. -/
structure Declaration where
  /-- Whether the variable is there. -/
  present : Bool
  parse : Parse
  deriving DecidableEq, Repr

/-- What the lines of an environment say about domains. -/
def readEnvironment (lines : List String) (name : String) (initial : List DomainSpec) :
    Declaration :=
  let values := declaredValues name lines
  ⟨!values.isEmpty, readValues values initial⟩

/-- Without the variable nothing is read. -/
theorem readEnvironment_of_not_mem {lines : List String} {name : String}
    (initial : List DomainSpec) (h : declaredValues name lines = []) :
    readEnvironment lines name initial = ⟨false, ⟨initial, [], none⟩⟩ := by
  simp [readEnvironment, h, readValues]

end RegistrySync.Inspection
