/-
The ports of a domain spec as text: an optional plus sign and ASCII digits that denote at
most 65535.

* `PortFault.message` — the wording of each fault;
* `readPort_nil` — an empty text is a fault of its own.
-/
import RegistrySync.Text.Integer
import RegistrySync.Text.Quoted

namespace RegistrySync.DomainSpec

/-- The largest port. -/
def maxPort : Nat := 65535

/-- Why a text is no port. -/
inductive PortFault where
  | empty
  | notDigits (text : String)
  | tooManyDigits (count : Nat)
  | tooLarge (text : String)
  /-- A fault that was found elsewhere, in its own words. -/
  | stated (text : String)
  deriving DecidableEq, Repr

/-- The wording of a fault. -/
def PortFault.message : PortFault → String
  | .empty => "cannot parse integer from empty string"
  | .notDigits text => "invalid digit found in string: " ++ Text.quoted text
  | .tooManyDigits count =>
    "Exceeds the limit (" ++ Text.showNat Text.maxDigits ++
      " digits) for integer string conversion: value has " ++ Text.showNat count ++
      " digits; use sys.set_int_max_str_digits() to increase the limit"
  | .tooLarge text => "number too large to fit in target type: " ++ text
  | .stated text => text

/-- A text without the plus sign in front of it. -/
def dropPlus : List Char → List Char
  | '+' :: rest => rest
  | cs => cs

/-- The port that a text denotes. -/
def readPort (cs : List Char) : Except PortFault Nat :=
  if cs.isEmpty then .error .empty
  else
    let body := dropPlus cs
    match body.mapM Text.asciiDigit? with
    | none => .error (.notDigits (String.ofList cs))
    | some digits =>
      if digits.isEmpty then .error (.notDigits (String.ofList cs))
      else if digits.length > Text.maxDigits then .error (.tooManyDigits digits.length)
      else
        let port := Text.natOfDigits digits
        if port > maxPort then .error (.tooLarge (String.ofList cs)) else .ok port

@[simp] theorem readPort_nil : readPort [] = .error .empty := rfl

end RegistrySync.DomainSpec
