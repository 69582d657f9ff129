/-
The inspector that asks the container daemon.

* `Daemon` — how the daemon answers: which attempts to connect it refuses, what it lists and
  what it tells of each container;
* `DaemonLink` — the daemon and whether the client to it has been made;
* `daemonInspector` — the inspector over such a link;
* `connect_of_connected` — a client that has been made is used again.
-/
import RegistrySync.Inspection.Attributes

namespace RegistrySync

/-- How the daemon answers at the moment. -/
structure Daemon where
  /-- The reasons for which the next attempts to make a client fail, and the kind of fault that
  they fail with. -/
  refusals : List String := []
  refusalKind : Kind := .daemon
  /-- The running containers, each with its name and id. -/
  running : Except Fault (List Json) := .ok []
  /-- The attributes of a container. -/
  attributes : String → Except Fault Json

/-- The daemon, and whether the client to it has been made. -/
structure DaemonLink where
  daemon : Daemon
  connected : Bool := false

namespace Inspection

open Journal

/-- The daemon's address as records show it. -/
def shownUrl (settings : Settings) : String :=
  match settings.daemonUrl with
  | some url => if url.isEmpty then "<env>" else url
  | none => "<env>"

/-- The address for which a client is made, unless the environment says where the daemon is. -/
def clientUrl (settings : Settings) : Option String := settings.daemonUrl.filter (!·.isEmpty)

/-- Make the client, if it has not been made yet. -/
def connect (settings : Settings) : Task DaemonLink Unit := do
  let link ← Task.ofAct Act.look
  if link.connected then return ()
  Task.ofAct (Act.request (.openDaemon (clientUrl settings)))
  match link.daemon.refusals with
  | reason :: others =>
    Task.ofAct (Act.change fun link =>
      { link with daemon := { link.daemon with refusals := others } })
    Task.fail ⟨.daemonUnavailable ⟨link.daemon.refusalKind, reason⟩, none⟩
  | [] =>
    Task.ofAct (Act.change fun link => { link with connected := true })
    Task.log .debug Source.inspector ("Docker client initialized url=" ++ shownUrl settings)

/-- One attribute of a listed container as a text without blanks around it. -/
def listedText (name : String) (container : Json) : String :=
  match container.field? name with
  | some value => if value.isEmpty then "" else Text.strip value.text
  | none => ""

/-- The name of a listed container, or its id if it has no name. -/
def listedName (container : Json) : String :=
  let name := listedText "name" container
  if name.isEmpty then listedText "id" container else name

/-- The names of listed containers; a container with neither name nor id is left out. -/
def listedNames (containers : List Json) : List String :=
  (containers.map listedName).filter (!·.isEmpty)

/-- List the running containers. -/
def listRunning (settings : Settings) : Task DaemonLink (List Json) := do
  connect settings
  Task.ofAct (Act.request .listRunning)
  let link ← Task.ofAct Act.look
  Task.ofExcept link.daemon.running

/-- The names of the running containers. Whatever goes wrong is a failed listing. -/
def enumerate (settings : Settings) : Task DaemonLink (List String) := do
  match ← (listRunning settings).attempt with
  | .error fault => Task.fail ⟨.listingFailed fault.symptom, none⟩
  | .ok containers =>
    Task.log .debug Source.inspector
      ("Found " ++ Text.showNat containers.length ++ " running containers.")
    return listedNames containers

/-- Ask for the attributes of a container. -/
def fetch (settings : Settings) (name : String) : Task DaemonLink Json := do
  connect settings
  Task.ofAct (Act.request (.fetch name))
  let link ← Task.ofAct Act.look
  Task.ofExcept (link.daemon.attributes name)

/-- What a fault of the daemon means for an inspection: a container that is not there, a
failed inspection as it is, and trouble with the daemon for all else. -/
def fetchFault (name : String) (fault : Fault) : Fault :=
  if fault.kind.isNotFound then ⟨.noSuchContainer fault.symptom, some name⟩
  else if fault.kind.isInspection then fault
  else ⟨.daemonTrouble fault.symptom, some name⟩

/-- Inspect a container. -/
def inspect (settings : Settings) (name : String) : Task DaemonLink Inspection := do
  match ← (fetch settings name).attempt with
  | .error fault => Task.fail (fetchFault name fault)
  | .ok attributes =>
    let (records, result) := ofAttributes settings name attributes
    Task.ofAct (Act.logAll records)
    Task.ofExcept result

/-- The inspector that asks the daemon. -/
def daemonInspector (settings : Settings) : Inspector DaemonLink where
  enumerate := enumerate settings
  inspect := inspect settings

/-- A client that has been made is used again. -/
theorem connect_of_connected (settings : Settings) {link : DaemonLink}
    (h : link.connected = true) : (connect settings).run link = ⟨.ok (), link, []⟩ := by
  cases link with
  | mk daemon connected =>
    subst h
    rfl

end Inspection

end RegistrySync
