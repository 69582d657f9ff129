/-
Publications and the records they are written as.

* `Publication` — a host and the domains it serves;
* `recordOf` — the record of one domain as a data tree;
* `encode` — the text of all records of a publication;
* `recordKey` — the key under which they are written.
-/
import RegistrySync.Inspection.Basic
import RegistrySync.Json.Writer

namespace RegistrySync

/-- A host and the domains it serves. -/
structure Publication where
  host : String
  specs : List DomainSpec := []
  deriving DecidableEq, Repr

namespace Publication

/-- What an inspection gives to publish. -/
def ofInspection (inspection : Inspection) : Publication := ⟨inspection.host, inspection.specs⟩

/-- Where a domain is served: a host and a port. -/
def backend (host : String) (port : Int) : Json := .obj [("host", .str host), ("port", .int port)]

/-- The field of a protocol, which is there only if the domain is served with it. -/
def protocolField (host : String) (spec : DomainSpec) (protocol : Protocol) :
    List (String × Json) :=
  match spec.port protocol with
  | some port => [(protocol.word, backend host port)]
  | none => []

/-- The record of one domain. -/
def recordOf (host : String) (spec : DomainSpec) : Json :=
  .obj ([("id", .str spec.recordId), ("domain", .str spec.domain)] ++
    protocolField host spec .http ++ protocolField host spec .https)

/-- The records of the domains of a host. -/
def recordsOf (host : String) (specs : List DomainSpec) : Json :=
  .arr (specs.map (recordOf host))

/-- The records of a publication. -/
def records (publication : Publication) : Json := recordsOf publication.host publication.specs

/-- The text of the records of a publication. -/
def encode (publication : Publication) : String := publication.records.compact

end Publication

/-- The key under which the records of a host are written. -/
def recordKey (settings : Settings) (host : String) : String := settings.keyPrefix ++ host

end RegistrySync
