/-
Settings as text: flags, ports and whole numbers.

* `flag?` — the words for yes and no;
* `portOf` — a port of a host, between 1 and 65535;
* `portText_pos` — a port that was read is in range.
-/
import RegistrySync.Json.Basic
import RegistrySync.Settings.Fault
import RegistrySync.Text.LetterCase

namespace RegistrySync.Settings

/-- The words for yes. -/
def yesWords : List String := ["1", "true", "yes", "y", "on"]

/-- The words for no. -/
def noWords : List String := ["0", "false", "no", "n", "off"]

/-- What a word says as a flag, whatever its case and the blanks around it. -/
def flagWord? (text : String) : Option Bool :=
  let word := Text.lowerCase (Text.strip text)
  if word ∈ yesWords then some true else if word ∈ noWords then some false else none

/-- What a value says as a flag. -/
def flag? : Json → Option Bool
  | .null => none
  | .bool value => some value
  | value => flagWord? value.text

/-- The integer that a text denotes, blanks around it aside. -/
def integer? (text : String) : Option Int := Text.readInt? (Text.trim text.toList)

/-- The port that a text denotes; `name` is what faults call it. -/
def portText (name text : String) : Except SettingFault Int :=
  match integer? text with
  | none => .error (.unreadablePort name)
  | some port => if port ≤ 0 ∨ 65535 < port then .error (.portOutOfRange name) else .ok port

/-- The port that a value denotes. -/
def portOf (name : String) : Json → Except SettingFault Int
  | .null => .error (.noPort name)
  | value => portText name value.text

/-- A port that was read is in range. -/
theorem portText_pos {name text : String} {port : Int} (h : portText name text = .ok port) :
    0 < port ∧ port ≤ 65535 := by
  unfold portText at h
  split at h
  · cases h
  · split at h
    · cases h
    · cases h
      omega

end RegistrySync.Settings
