/-
Faults: everything that can go wrong in a cycle or before one, by cause.

* `Kind` — the kinds of faults, by which they are caught;
* `Cause` — why a fault arose; its wording is a function of the cause;
* `Fault` — a cause and, once it is known, the container it is about;
* `Fault.message_of_container` — the container's name is told at the end of the message.

Design notes: a fault that was caught and turned into another one is kept as a `Symptom`,
its kind and its wording: nobody looks deeper than that. Collaborators may raise faults of
any kind in words of their own, `Cause.stated`.
-/
import RegistrySync.DomainSpec.Parse
import RegistrySync.Files.Tree
import RegistrySync.Settings.Basic
import RegistrySync.Settings.Fault

namespace RegistrySync

/-- The kinds of faults. -/
inductive Kind where
  /-- A fault that the program tells of without a kind of its own. -/
  | general
  /-- Settings that cannot be used. -/
  | configuration
  /-- A domain spec that cannot be read. -/
  | domainSpec
  /-- A container that cannot be inspected. -/
  | inspection
  /-- A container that is not there. -/
  | containerNotFound
  /-- Containers that cannot be listed. -/
  | enumeration
  /-- A record that cannot be written. -/
  | publishing
  /-- A container that declares no domains. -/
  | variableMissing
  /-- The daemon's client, its answers, and what it does not find. -/
  | daemon
  | daemonAnswer
  | daemonNotFound
  | daemonImageNotFound
  /-- The registry's client. -/
  | registry
  | registryConnection
  | registryTimeout
  | registryAnswer
  /-- The system, and values that are not what they should be. -/
  | system
  | value
  | type
  | runtime
  | overflow
  deriving DecidableEq, Repr

namespace Kind

/-- The kinds that the program itself reports; their faults can name a container. -/
def isReported : Kind → Bool
  | general | configuration | domainSpec | inspection | containerNotFound | enumeration
  | publishing | variableMissing => true
  | _ => false

/-- The kinds of an inspection that failed. -/
def isInspection : Kind → Bool
  | inspection | containerNotFound => true
  | _ => false

/-- The kinds with which the daemon says that something is not there. -/
def isNotFound : Kind → Bool
  | daemonNotFound | daemonImageNotFound => true
  | _ => false

/-- The kinds of the registry's client. -/
def isRegistry : Kind → Bool
  | registry | registryConnection | registryTimeout | registryAnswer => true
  | _ => false

end Kind

/-- A fault as it shows to whoever catches it: its kind and its wording. -/
structure Symptom where
  kind : Kind
  text : String
  deriving DecidableEq, Repr

/-- A domain spec that cannot be read, with the specs that were read before it. -/
structure SpecFault where
  domain : String
  key : Option String
  cause : DomainSpec.PortFault
  specs : List DomainSpec
  deriving DecidableEq, Repr

/-- A reading that was stopped, as a fault. -/
def SpecFault.ofStop (specs : List DomainSpec) (stop : DomainSpec.Stop) : SpecFault :=
  ⟨stop.domain, some stop.key, stop.cause, specs⟩

/-- The wording of such a fault. -/
def SpecFault.text (fault : SpecFault) : String :=
  "Failed to parse domain spec option. Domain name: \"" ++ fault.domain ++ "\"" ++
    (match fault.key with
      | some key => " Option name: \"" ++ key ++ "\""
      | none => "") ++
    " Cause: " ++ fault.cause.message

/-- Why a fault arose. -/
inductive Cause where
  /-- A collaborator says so in its own words. -/
  | stated (kind : Kind) (text : String)
  | setting (fault : SettingFault)
  | invalidSettings (problems : List Problem)
  | nothingNamed
  | badSpec (fault : SpecFault)
  | specsRejected (fault : SpecFault)
  | daemonUnavailable (why : Symptom)
  | daemonTrouble (why : Symptom)
  | noSuchContainer (why : Symptom)
  | envNotList
  | noAddress
  | listingFailed (why : Symptom)
  | enumerationFailed (text : String)
  | notSerializable (host : String) (why : Symptom)
  | writeFailed (key : String) (why : Symptom)
  | variableMissing (envVar : String)
  | unknownHome
  | nulCharacter
  | unusablePath (fault : Files.FileFault)
  | waitTooLong
  deriving DecidableEq, Repr

namespace Cause

/-- The kind of a fault with this cause. -/
def kind : Cause → Kind
  | stated kind _ => kind
  | setting .expireTooLarge => .overflow
  | setting _ => .value
  | invalidSettings _ | nothingNamed => .configuration
  | badSpec _ => .domainSpec
  | specsRejected _ | daemonUnavailable _ | daemonTrouble _ | envNotList | noAddress => .inspection
  | noSuchContainer _ => .containerNotFound
  | listingFailed _ | enumerationFailed _ => .enumeration
  | notSerializable .. | writeFailed .. => .publishing
  | variableMissing _ => .variableMissing
  | unknownHome => .runtime
  | nulCharacter => .value
  | unusablePath _ => .system
  | waitTooLong => .overflow

/-- The wording of a cause. -/
def text : Cause → String
  | stated _ text => text
  | setting fault => fault.message
  | invalidSettings problems =>
    "Invalid configuration: " ++ "; ".intercalate (problems.map (·.message))
  | nothingNamed => "Provide at least one CONTAINER or use --enumerate"
  | badSpec fault => fault.text
  | specsRejected fault => fault.text
  | daemonUnavailable why => "Failed to initialize Docker client (" ++ why.text ++ ")"
  | daemonTrouble why => "Error while communicating with the docker daemon (" ++ why.text ++ ")"
  | noSuchContainer _ => "No such container."
  | envNotList => "Malformed inspection payload: Config.Env is not a list."
  | noAddress => "Container has no bridge IP address; consider --docker-network."
  | listingFailed why => "Failed to list running docker containers (" ++ why.text ++ ")"
  | enumerationFailed text => text
  | notSerializable host why =>
    "Failed to serialize publication for " ++ host ++ " (" ++ why.text ++ ")"
  | writeFailed key why => "Failed to write " ++ key ++ " to redis (" ++ why.text ++ ")"
  | variableMissing envVar => "No environment variable " ++ envVar ++ " on container."
  | unknownHome => "Could not determine home directory."
  | nulCharacter => "embedded null byte"
  | unusablePath fault => fault.message
  | waitTooLong => "timestamp too large to convert to C _PyTime_t"

/-- The kind of the fault from which this one was made, if it was made from one. -/
def origin : Cause → Option Kind
  | setting (.notInteger _) | setting (.unreadablePort _) | setting (.notAmong ..) => some .value
  | badSpec fault =>
    match fault.cause with
    | .stated _ => none
    | _ => some .value
  | specsRejected _ => some .domainSpec
  | daemonUnavailable why | daemonTrouble why | noSuchContainer why | listingFailed why
  | notSerializable _ why | writeFailed _ why => some why.kind
  | _ => none

end Cause

/-- A cause and, once it is known, the container it is about. -/
structure Fault where
  cause : Cause
  container : Option String := none
  deriving DecidableEq, Repr

namespace Fault

/-- The kind of a fault. -/
def kind (fault : Fault) : Kind := fault.cause.kind

/-- The message of a fault: its wording and, for the kinds that the program reports, the
container it is about. -/
def message (fault : Fault) : String :=
  match fault.container with
  | some name =>
    if fault.kind.isReported && !name.isEmpty then
      fault.cause.text ++ " Container name: " ++ name ++ "."
    else fault.cause.text
  | none => fault.cause.text

/-- How a fault shows to whoever catches it. -/
def symptom (fault : Fault) : Symptom := ⟨fault.kind, fault.message⟩

/-- The fault as one about this container, unless it already is about one. -/
def about (fault : Fault) (name : String) : Fault :=
  match fault.container with
  | some _ => fault
  | none => { fault with container := some name }

@[simp] theorem kind_about (fault : Fault) (name : String) :
    (fault.about name).kind = fault.kind := by
  unfold about
  split <;> rfl

/-- The container's name is told at the end of the message. -/
theorem message_of_container {fault : Fault} {name : String} (hc : fault.container = some name)
    (hk : fault.kind.isReported = true) (hn : name ≠ "") :
    fault.message = fault.cause.text ++ " Container name: " ++ name ++ "." := by
  have he : name.isEmpty = false := by simpa [String.isEmpty_iff] using hn
  simp [message, hc, hk, he]

end Fault

/-- The specs of a reading, or the fault that stopped it. -/
def DomainSpec.Parse.result (parse : DomainSpec.Parse) : Except SpecFault (List DomainSpec) :=
  match parse.stop with
  | some stop => .error (SpecFault.ofStop parse.specs stop)
  | none => .ok parse.specs

end RegistrySync
