/-
Policies: how serious it is when a container cannot be inspected, or does not declare any
domains.

* `MissingContainer.escalation`, `MissingVariable.escalation` — the level of the record that
  is written, and whether the trouble counts as an error of the cycle;
* `MissingContainer.report_iff`, `MissingVariable.report_iff` — when it counts.

Design notes: containers that were named on purpose are held to a stricter rule than
containers that were found running, since those come and go between being listed and being
inspected.
-/
import RegistrySync.Journal.Record

namespace RegistrySync

open Journal (Level)

/-- The level of the record about some trouble, and whether it counts as an error. -/
structure Escalation where
  level : Level
  report : Bool
  deriving DecidableEq, Repr

/-- What to do about a container without the variable that declares its domains. -/
inductive MissingVariable where
  | automatic
  | report
  | ignore
  deriving DecidableEq, Repr

namespace MissingVariable

/-- All choices, in the order in which they are offered. -/
def all : List MissingVariable := [automatic, report, ignore]

/-- The word for a choice. -/
def word : MissingVariable → String
  | automatic => "automatic"
  | report => "report"
  | ignore => "ignore"

/-- The choice that a word stands for. -/
def ofWord? (w : String) : Option MissingVariable := all.find? fun choice => choice.word == w

/-- The trouble counts if it is always to be reported, or if the container was named on
purpose and the choice is left to the program. -/
def escalation (choice : MissingVariable) (explicit : Bool) : Escalation :=
  match choice with
  | report => ⟨.error, true⟩
  | automatic => if explicit then ⟨.error, true⟩ else ⟨.info, false⟩
  | ignore => ⟨.info, false⟩

theorem report_iff {choice : MissingVariable} {explicit : Bool} :
    (choice.escalation explicit).report = true ↔
      choice = report ∨ (choice = automatic ∧ explicit = true) := by
  cases choice <;> cases explicit <;> decide

@[simp] theorem ofWord?_word (choice : MissingVariable) : ofWord? choice.word = some choice := by
  cases choice <;> decide

end MissingVariable

/-- What to do about a container that cannot be inspected. -/
inductive MissingContainer where
  | report
  | ignore
  deriving DecidableEq, Repr

namespace MissingContainer

/-- All choices, in the order in which they are offered. -/
def all : List MissingContainer := [report, ignore]

/-- The word for a choice. -/
def word : MissingContainer → String
  | report => "report"
  | ignore => "ignore"

/-- The choice that a word stands for. -/
def ofWord? (w : String) : Option MissingContainer := all.find? fun choice => choice.word == w

/-- The trouble counts if it is always to be reported or if the container was named on
purpose. -/
def escalation (choice : MissingContainer) (explicit : Bool) : Escalation :=
  match choice with
  | report => ⟨.error, true⟩
  | ignore => if explicit then ⟨.warning, true⟩ else ⟨.info, false⟩

theorem report_iff {choice : MissingContainer} {explicit : Bool} :
    (choice.escalation explicit).report = true ↔ choice = report ∨ explicit = true := by
  cases choice <;> cases explicit <;> decide

@[simp] theorem ofWord?_word (choice : MissingContainer) : ofWord? choice.word = some choice := by
  cases choice <;> decide

end MissingContainer

end RegistrySync
