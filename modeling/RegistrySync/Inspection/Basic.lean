/-
Inspections: what is known of a container, and those who find it out.

* `Inspection` — where a container is reached and what domains it declares;
* `Inspector` — lists the running containers and inspects one of them.
-/
import RegistrySync.Act

namespace RegistrySync

/-- What is known of a container. -/
structure Inspection where
  /-- The name or address at which the container is reached. -/
  host : String
  /-- The domains it declares. -/
  specs : List DomainSpec := []
  /-- Whether it has the variable that declares domains at all. -/
  declared : Bool := false
  deriving DecidableEq, Repr

/-- Lists the running containers and inspects one of them. -/
structure Inspector (ω : Type) where
  enumerate : Task ω (List String)
  inspect : String → Task ω Inspection

/-- An inspector whose world is a part of a larger one. -/
def Inspector.onPart {ω σ : Type} (get : ω → σ) (put : σ → ω → ω) (inspector : Inspector σ) :
    Inspector ω where
  enumerate := inspector.enumerate.onPart get put
  inspect name := (inspector.inspect name).onPart get put

end RegistrySync
