/-
The reconciler keeps the records of the registry in step with the running containers.

* `Alarm`, `Alarm.timed` — what ends a run, and the kind that a program waits for by the clock;
* `Reconciler.uniqueNames` — the names that values give: blanks around them do not count, nor do
  empty names, and of equal names the first is kept;
* `Reconciler.create?` — a reconciler over usable settings;
* `merge` — the plan of a cycle: the containers named on purpose, then those found running;
* `refresh` — inspect one container and publish what it declares;
* `cycle` — the plan carried out; its value is the list of the faults that count.

Design notes: a fault that a cycle knows how to handle is a value in the list of faults. Any
other fault leaves the cycle at once. A wait may end with a fault as well: a clock does not
count as far as an interval may reach.
-/
import RegistrySync.Inspection.Basic
import RegistrySync.Publication.Registry
import RegistrySync.Text.Distinct

namespace RegistrySync

open Journal (Level)

/-- What tells the program to stop: it can be looked at, and waited for. -/
structure Alarm (ω : Type) where
  isSet : ω → Bool
  wait : Int → Task ω Unit

/-- The longest time for which can be waited, in seconds: as many as a clock that counts
nanoseconds in 64 bits can tell. -/
def longestWait : Int := 9223372036

/-- An alarm that is waited for by the clock: `pass` is what happens until it is set or the time
is over. An alarm that is set is not waited for, and a time that is too long is refused. -/
def Alarm.timed {ω : Type} (isSet : ω → Bool) (pass : Int → Act ω Unit) : Alarm ω where
  isSet := isSet
  wait seconds := do
    if isSet (← Task.ofAct Act.look) then return
    else if longestWait < seconds then Task.fail ⟨.waitTooLong, none⟩
    else Task.ofAct (pass seconds)

/-- Keeps the records of the registry in step with the running containers. -/
structure Reconciler (ω : Type) where
  settings : Settings
  inspector : Inspector ω
  publisher : Publisher ω
  alarm : Alarm ω
  /-- The containers that were named on purpose. -/
  names : List String

/-- A container in the plan of a cycle. -/
structure Pending where
  /-- Whether it was named on purpose. -/
  explicit : Bool
  /-- The name by which it is inspected. -/
  value : String
  deriving DecidableEq, Repr

/-- How the container came into the plan, as records tell it. -/
def Pending.origin (pending : Pending) : String :=
  if pending.explicit then "explicit" else "discovered"

/-- The containers of a cycle by their names, in the order in which they are refreshed. -/
abbrev Plan : Type := List (String × Pending)

namespace Reconciler

variable {ω : Type}

/-- Write a record of the reconciler. -/
def log (level : Level) (text : String) : Task ω Unit :=
  Task.log level Journal.Source.reconciler text

/-! ### Names -/

/-- A value as a name, without blanks around it. -/
def nameOf (value : Json) : String := if value.isEmpty then "" else Text.strip value.text

/-- The names that values give. -/
def uniqueNames (values : List Json) : List String :=
  Text.distinct ((values.map nameOf).filter (!·.isEmpty))

theorem uniqueNames_nodup (values : List Json) : (uniqueNames values).Nodup :=
  Text.distinct_nodup _

/-- A reconciler, if the settings are usable. -/
def create? (settings : Settings) (inspector : Inspector ω) (publisher : Publisher ω)
    (alarm : Alarm ω) (containers : List Json) : Except Fault (Reconciler ω) :=
  match settings.problems with
  | [] => .ok ⟨settings, inspector, publisher, alarm, uniqueNames containers⟩
  | problems => .error ⟨.invalidSettings problems, none⟩

/-! ### The plan of a cycle -/

/-- The entries of names that were given on purpose. -/
def explicitPlan (names : List String) : Plan := names.map fun name => (name, ⟨true, name⟩)

/-- The entries of names that were found and not given on purpose. -/
def discoveredPlan (names discovered : List String) : Plan :=
  (Text.distinct (discovered.filter fun name => name ∉ names)).map fun name => (name, ⟨false, name⟩)

/-- A failed enumeration as the fault that counts. -/
def enumerationFault (fault : Fault) : Fault :=
  if fault.kind = .enumeration then fault else ⟨.enumerationFailed fault.message, none⟩

/-- The plan of a cycle, and the fault of an enumeration that failed. -/
def merge (r : Reconciler ω) : Task ω (Plan × List Fault) := do
  let explicit := explicitPlan r.names
  if !r.settings.enumerate then return (explicit, [])
  match ← r.inspector.enumerate.attempt with
  | .ok discovered => return (explicit ++ discoveredPlan r.names discovered, [])
  | .error fault =>
    if fault.kind.isReported then
      let counted := enumerationFault fault
      log .error ("Failed to enumerate containers; continuing with explicit ones only: " ++
        counted.message)
      return (explicit, [counted])
    else Task.fail fault

/-! ### One container -/

/-- The faults of an inspection that a cycle handles. -/
def handlesInspection (fault : Fault) : Bool :=
  fault.kind.isInspection || fault.kind = .domainSpec

/-- Tell of an inspection that failed; the fault counts if the policy says so. -/
def onInspectionFault (r : Reconciler ω) (name : String) (pending : Pending) (fault : Fault) :
    Task ω (List Fault) := do
  let fault := fault.about name
  let choice := r.settings.missingContainer
  let escalation := choice.escalation pending.explicit
  log escalation.level ("Failed to inspect " ++ pending.origin ++ " container " ++ name ++
    " (missing-container=" ++ choice.word ++ "): " ++ fault.message)
  return if escalation.report then [fault] else []

/-- Tell of a container that declares no domains; it counts if the policy says so. -/
def onUndeclared (r : Reconciler ω) (name : String) (pending : Pending) :
    Task ω (List Fault) := do
  let choice := r.settings.missingVariable
  let escalation := choice.escalation pending.explicit
  log escalation.level ("No environment variable " ++ r.settings.envVar ++ " on " ++
    pending.origin ++ " container " ++ name ++ " (missing-envvar=" ++ choice.word ++ ")")
  return if escalation.report then [⟨.variableMissing r.settings.envVar, some name⟩] else []

/-- Announce what would be published. -/
def announce (r : Reconciler ω) (publication : Publication) : Task ω (List Fault) := do
  log .info ("Dry run; would publish " ++ recordKey r.settings publication.host ++ " = " ++
    publication.encode)
  return []

/-- The domains of a publication, as records tell them. -/
def shownDomains (publication : Publication) : String :=
  let domains := " ".intercalate (publication.specs.map (·.domain))
  if domains.isEmpty then "<none>" else domains

/-- Publish what a container declares. -/
def publish (r : Reconciler ω) (name : String) (pending : Pending) (publication : Publication) :
    Task ω (List Fault) := do
  match ← (r.publisher.publish publication).attempt with
  | .ok () =>
    log .info ("Published " ++ Text.showNat publication.specs.length ++ " domain(s) for " ++ name ++
      ": " ++ shownDomains publication)
    return []
  | .error fault =>
    if fault.kind = .publishing then
      let fault := fault.about name
      log .error ("Failed to publish " ++ pending.origin ++ " container " ++ name ++ ": " ++
        fault.message)
      return [fault]
    else Task.fail fault

/-- Refresh one container. The value is the list of the faults that count, at most one. -/
def refresh (r : Reconciler ω) (name : String) (pending : Pending) : Task ω (List Fault) := do
  log .info ("Refreshing beachhead config for " ++ name)
  match ← (r.inspector.inspect pending.value).attempt with
  | .error fault =>
    if handlesInspection fault then r.onInspectionFault name pending fault else Task.fail fault
  | .ok inspection =>
    if !inspection.declared then r.onUndeclared name pending
    else
      let publication := Publication.ofInspection inspection
      if r.settings.dryRun then r.announce publication else r.publish name pending publication

/-! ### A cycle -/

/-- Refresh the containers of a plan, one after another. -/
def refreshAll (r : Reconciler ω) : Plan → Task ω (List Fault)
  | [] => return []
  | (name, pending) :: rest => do
    let first ← r.refresh name pending
    let others ← r.refreshAll rest
    return first ++ others

/-- One cycle. The value is the list of the faults that count. -/
def cycle (r : Reconciler ω) : Task ω (List Fault) := do
  let (plan, early) ← r.merge
  if plan.isEmpty then log .warning "No containers to refresh"
  let faults ← r.refreshAll plan
  let all := early ++ faults
  log .debug ("Cycle finished containers=" ++ Text.showNat plan.length ++ " errors=" ++
    Text.showNat all.length)
  return all

end Reconciler

end RegistrySync
