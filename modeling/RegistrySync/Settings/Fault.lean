/-
Faults of single settings: a value that cannot be what its variable or option stands for.

* `SettingFault.message` — the wording of each fault.
-/
import RegistrySync.Journal.Record
import RegistrySync.Text.Quoted

namespace RegistrySync

/-- Why a setting cannot be read. -/
inductive SettingFault where
  /-- No integer where one is needed. -/
  | notInteger (name : String)
  /-- No port at all. -/
  | noPort (name : String)
  /-- A port that is no integer. -/
  | unreadablePort (name : String)
  /-- An integer that is no port. -/
  | portOutOfRange (name : String)
  /-- A word that is none of the choices. -/
  | notAmong (name : String) (choices : List String)
  /-- A word that is no value of a policy. -/
  | noPolicy (word : String) (policy : String)
  /-- An expiry from which no refresh interval can be computed. -/
  | expireTooLarge
  /-- A word that is no log level. -/
  | noLogLevel
  deriving DecidableEq, Repr

/-- The wording of a fault. -/
def SettingFault.message : SettingFault → String
  | .notInteger name => name ++ " must be an integer"
  | .noPort name => "Missing " ++ name
  | .unreadablePort name => "Invalid " ++ name
  | .portOutOfRange name => "Invalid " ++ name
  | .notAmong name choices => name ++ " must be one of: " ++ ", ".intercalate choices
  | .noPolicy word policy => Text.quoted word ++ " is not a valid " ++ policy
  | .expireTooLarge => "int too large to convert to float"
  | .noLogLevel =>
    "log_level must be one of: " ++ ", ".intercalate (Journal.Level.named.map (·.name))

end RegistrySync
