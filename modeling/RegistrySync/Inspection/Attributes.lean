/-
Container attributes as the daemon tells them: a data tree in which any part may be missing
or misshapen.

* `environmentLines?` — the lines of the environment, if there is a list of them;
* `bridgeAddress` — the address on the bridge network, empty if there is none;
* `ofAttributes` — the inspection that the attributes give, with the records about its
  domain specs.
-/
import RegistrySync.Fault
import RegistrySync.Inspection.Basic
import RegistrySync.Inspection.Environment
import RegistrySync.Json.Basic

namespace RegistrySync.Inspection

/-- A section of the attributes; what is no object counts as an empty one. -/
def attributeSection (name : String) (attributes : Json) : Json :=
  ((attributes.field? name).getD .null).orEmptyObject

/-- The lines of the environment. A missing or empty environment has no lines; anything
else must be a list, whose items are read as texts. -/
def environmentLines? (attributes : Json) : Option (List String) :=
  let env := ((attributeSection "Config" attributes).field? "Env").getD .null
  if env.isEmpty then some []
  else
    match env with
    | .arr items => some (items.map Json.text)
    | _ => none

/-- The address on the bridge network. -/
def bridgeAddress (attributes : Json) : String :=
  let address := ((attributeSection "NetworkSettings" attributes).field? "IPAddress").getD .null
  if address.isEmpty then "" else Text.strip address.text

/-- The inspection of the container `name` that its attributes give. Only a container that
declares domains needs an address. -/
def ofAttributes (settings : Settings) (name : String) (attributes : Json) :
    List Journal.Record × Except Fault Inspection :=
  match environmentLines? attributes with
  | none => ([], .error ⟨.envNotList, some name⟩)
  | some lines =>
    let declaration := readEnvironment lines settings.envVar []
    let parse := declaration.parse
    (parse.records,
      match parse.result with
      | .error fault => .error ⟨.specsRejected fault, some name⟩
      | .ok specs =>
        if settings.useNames then .ok ⟨name, specs, declaration.present⟩
        else
          let host := bridgeAddress attributes
          if host.isEmpty && declaration.present then .error ⟨.noAddress, some name⟩
          else .ok ⟨host, specs, declaration.present⟩)

end RegistrySync.Inspection
