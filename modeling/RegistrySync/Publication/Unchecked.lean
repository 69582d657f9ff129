/-
Publications from outside, in which a domain may be anything.

* `UncheckedSpec.check` — the spec, if its domain is a text;
* `publishUnchecked` — a publication with a domain that is no text is not published.
-/
import RegistrySync.Publication.Registry

namespace RegistrySync

/-- A spec whose domain may be anything. -/
structure UncheckedSpec where
  domain : Json
  httpPort : Option Int := none
  httpsPort : Option Int := none

/-- Why a domain that is no text cannot be written. -/
def notTextSymptom (domain : Json) : Symptom :=
  ⟨.type, "expected string or bytes-like object, got " ++ Text.quoted domain.kindName⟩

/-- The spec, if its domain is a text. -/
def UncheckedSpec.check (spec : UncheckedSpec) : Except Symptom DomainSpec :=
  match spec.domain with
  | .str domain => .ok ⟨domain, spec.httpPort, spec.httpsPort⟩
  | domain => .error (notTextSymptom domain)

/-- Publish specs from outside. The first domain that is no text is the fault. -/
def Publisher.publishUnchecked {ω : Type} (publisher : Publisher ω) (host : String)
    (specs : List UncheckedSpec) : Task ω Unit :=
  match specs.mapM UncheckedSpec.check with
  | .ok specs => publisher.publish ⟨host, specs⟩
  | .error symptom => Task.fail ⟨.notSerializable host symptom, none⟩

end RegistrySync
