/-
Domain specs: a domain and the ports on which a container serves it.

* `DomainSpec.recordId` — the name of a domain with only letters, digits and underscores;
* `DomainSpec.toDsl` — a spec as a token of the domain-spec language;
* `length_recordId`, `isIdChar_of_mem_recordId` — the id is as long as the domain, and has no
  other characters.
-/
import RegistrySync.Text.Integer

namespace RegistrySync

/-- The protocols that a domain can be served with. -/
inductive Protocol where
  | http
  | https
  deriving DecidableEq, Repr

namespace Protocol

/-- The word for a protocol in a domain spec. -/
def word : Protocol → String
  | http => "http"
  | https => "https"

/-- The port that a bare protocol stands for. -/
def defaultPort : Protocol → Int
  | http => 80
  | https => 443

/-- The protocol that a word stands for. -/
def ofWord? (w : String) : Option Protocol :=
  if w = "http" then some http else if w = "https" then some https else none

end Protocol

/-- A domain and the port of each protocol it is served with. A spec that is built directly
is not checked. -/
structure DomainSpec where
  domain : String
  httpPort : Option Int := none
  httpsPort : Option Int := none
  deriving DecidableEq, Repr, Inhabited

namespace DomainSpec

/-- The characters that an id keeps. -/
def isIdChar (c : Char) : Bool := c.isAlphanum || c == '_'

/-- The domain with an underscore for every character but ASCII letters and digits. -/
def recordId (spec : DomainSpec) : String :=
  String.ofList (spec.domain.toList.map fun c => if isIdChar c then c else '_')

/-- The port of a protocol. -/
def port (spec : DomainSpec) : Protocol → Option Int
  | .http => spec.httpPort
  | .https => spec.httpsPort

/-- The parameter that sets the port of a protocol, if there is one. -/
def portParam (spec : DomainSpec) (protocol : Protocol) : List String :=
  match spec.port protocol with
  | some port => [protocol.word ++ "=" ++ Text.showInt port]
  | none => []

/-- The spec as a token of the domain-spec language. -/
def toDsl (spec : DomainSpec) : String :=
  ":".intercalate (spec.domain :: (spec.portParam .http ++ spec.portParam .https))

/-- The id is as long as the domain. -/
theorem length_recordId (spec : DomainSpec) :
    spec.recordId.toList.length = spec.domain.toList.length := by
  simp [recordId]

/-- The id has only characters of ids. -/
theorem isIdChar_of_mem_recordId {spec : DomainSpec} {c : Char} (h : c ∈ spec.recordId.toList) :
    isIdChar c = true := by
  simp only [recordId, String.toList_ofList, List.mem_map] at h
  obtain ⟨d, -, rfl⟩ := h
  split
  · assumption
  · rfl

end DomainSpec

end RegistrySync
