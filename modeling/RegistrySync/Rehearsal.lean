/-
Rehearsals: collaborators that answer from tables, and an alarm that rings after so many
waits, so that runs can be gone through without a daemon or a registry.

* `Stage` — the world of a rehearsal;
* `rosterInspector`, `vetoPublisher` — an inspector and a publisher over tables;
* `stageAlarm` — an alarm that lets the world change at every wait and rings in the end.
-/
import RegistrySync.Inspection.Daemon
import RegistrySync.Publication.Registry
import RegistrySync.Reconciler.Run

namespace RegistrySync.Rehearsal

/-- What an inspector answers. -/
structure Roster where
  running : Except Fault (List String) := .ok []
  inspections : String → Except Fault Inspection

/-- What a publisher refuses: publications with a domain that contains the text. An empty
text refuses nothing. -/
structure Veto where
  text : String := ""
  fault : Fault

/-- Whether a publication is refused. -/
def Veto.refuses (veto : Veto) (publication : Publication) : Bool :=
  !veto.text.isEmpty &&
    publication.specs.any fun spec => Text.occursIn veto.text.toList spec.domain.toList

/-- The world of a rehearsal. -/
structure Stage where
  daemon : DaemonLink
  registry : RegistryLink
  roster : Roster
  veto : Veto
  /-- Whether the alarm is set, and after how many waits it is. -/
  ringing : Bool := false
  waits : Nat := 0
  lastWait : Int := 1

/-- An inspector that answers from the roster. -/
def rosterInspector : Inspector Stage where
  enumerate := do
    Task.ofAct (Act.request .enumerate)
    Task.ofExcept (← Task.ofAct Act.look).roster.running
  inspect name := do
    Task.ofAct (Act.request (.inspect name))
    Task.ofExcept ((← Task.ofAct Act.look).roster.inspections name)

/-- A publisher that refuses what the veto says. -/
def vetoPublisher : Publisher Stage where
  publish publication := do
    Task.ofAct (Act.request (.publish publication.host publication.specs))
    let veto := (← Task.ofAct Act.look).veto
    if veto.refuses publication then Task.fail veto.fault

/-- The inspector that asks the daemon of the stage. -/
def stageInspector (settings : Settings) : Inspector Stage :=
  (Inspection.daemonInspector settings).onPart (·.daemon) fun link stage =>
    { stage with daemon := link }

/-- The publisher that writes to the registry of the stage. -/
def stagePublisher (settings : Settings) : Publisher Stage :=
  (Publication.registryPublisher settings).onPart (·.registry) fun link stage =>
    { stage with registry := link }

/-- Set the alarm. -/
def Stage.ring (stage : Stage) : Stage := { stage with ringing := true }

/-- Unset the alarm and count the waits anew. -/
def Stage.clear (stage : Stage) : Stage := { stage with ringing := false, waits := 0 }

/-- An alarm whose waits end at once, however long they are. During the wait of each number the
world changes; the alarm rings at the last wait at the latest. -/
def stageAlarm (onWait : Nat → Stage → Stage) : Alarm Stage where
  isSet stage := stage.ringing
  wait seconds := do
    Task.ofAct (Act.request (.wait seconds))
    Task.ofAct (Act.change fun stage =>
      let count := stage.waits + 1
      let changed := onWait count { stage with waits := count }
      if stage.lastWait ≤ count then changed.ring else changed)

/-- As many cycles as a run on this stage can have before its alarm rings. -/
def Stage.cycleBound (stage : Stage) : Nat := stage.lastWait.toNat + 2

end RegistrySync.Rehearsal
