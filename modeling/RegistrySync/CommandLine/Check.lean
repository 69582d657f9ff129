/-
The command `check`: show the records that domain specs would give.

* `checkSpecs` — what is written where, and with which status it ends.
-/
import RegistrySync.CommandLine.Options
import RegistrySync.CommandLine.Session

namespace RegistrySync.CommandLine

variable {ω : Type}

/-- The status for domain specs that cannot be read. -/
def invalidSpecStatus : Nat := 2

/-- The options of the command. -/
def checkOptions : List OptionSpec :=
  [{ name := "--host", takesValue := true }, { name := "--help" }]

/-- Show the records that the specs would give for a host. -/
def checkSpecs (raw host : String) : Command ω Unit := do
  let parse := DomainSpec.parseAll raw []
  Command.emit parse.records
  match parse.result with
  | .ok specs => Command.say ((Publication.recordsOf host specs).indented ++ "\n")
  | .error fault =>
    Command.tell ("Invalid domain spec: " ++ (Fault.mk (.badSpec fault) none).message ++ "\n")
    Command.stop invalidSpecStatus

/-- The command with its options and its one word. -/
def check (parsed : Parsed) : Command ω Unit := do
  if parsed.has "--help" then Command.help
  match parsed.words with
  | [raw] => checkSpecs raw ((parsed.last? "--host").getD "HOST")
  | _ => Command.misuse

end RegistrySync.CommandLine
