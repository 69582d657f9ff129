/-
Reading domain specs: `DOMAIN[:http[=PORT]][:https[=PORT]]`, any number of them in a text.

* `Parse` — what a text yields: specs, the parameters that were not known, and the fault that
  ended the reading, if one did;
* `Parse.append_of_stop` — what comes behind a fault is not read;
* `parseAll_specs` — the specs of a text stand behind those that were there before.

Design notes: a fault does not take back the specs of the tokens before it, so a reading
always yields a list of specs, and a fault besides.
-/
import RegistrySync.DomainSpec.Basic
import RegistrySync.DomainSpec.Token
import RegistrySync.DomainSpec.Port
import RegistrySync.Journal.Record
import RegistrySync.Text.Cut
import RegistrySync.Text.LetterCase

namespace RegistrySync.DomainSpec

/-! ### Parameters -/

/-- One parameter of a token: a key and, behind an equals sign, a value. -/
structure Param where
  key : String
  value : Option (List Char)
  deriving DecidableEq, Repr

/-- The parameter that a text denotes. The key is read in lower case. -/
def Param.ofChars (cs : List Char) : Param :=
  let (key, value) := Text.cut '=' cs
  ⟨String.ofList (Text.lower (Text.trim key)), value.map Text.trim⟩

/-- The parameters of a token, in order. -/
def Token.paramList (token : Token) : List Param :=
  match token.params with
  | none => []
  | some block => (Text.split ':' (Text.trim block)).map Param.ofChars

/-- The port that a known parameter sets. -/
def Param.port (param : Param) (protocol : Protocol) : Except PortFault Int :=
  match param.value with
  | none => .ok protocol.defaultPort
  | some value => (readPort value).map Int.ofNat

/-- The ports set so far. -/
structure Ports where
  http : Option Int := none
  https : Option Int := none
  deriving DecidableEq, Repr

/-- The ports after one more has been set. -/
def Ports.put (ports : Ports) (port : Int) : Protocol → Ports
  | .http => { ports with http := some port }
  | .https => { ports with https := some port }

/-- The ports of a token: those that were set, or both default ports if none was. -/
def Ports.orDefaults (ports : Ports) : Ports :=
  if ports.http.isNone ∧ ports.https.isNone then
    ⟨some Protocol.http.defaultPort, some Protocol.https.defaultPort⟩
  else ports

/-- A parameter that is not known, and the domain it was given for. -/
structure UnknownParam where
  key : String
  domain : String
  deriving DecidableEq, Repr

/-- The wording of the notice about an unknown parameter. -/
def UnknownParam.message (param : UnknownParam) : String :=
  "Unknown domain spec parameter " ++ Text.quoted param.key ++ " for domain " ++ param.domain

/-- The record about an unknown parameter. -/
def UnknownParam.record (param : UnknownParam) : Journal.Record :=
  ⟨.warning, Journal.Source.domainSpec, param.message⟩

/-- What the parameters of a token yield: the keys that are not known, and the ports or the
first parameter whose port is faulty. -/
def readParams (ports : Ports) : List Param → List String × Except (Protocol × PortFault) Ports
  | [] => ([], .ok ports)
  | param :: rest =>
    match Protocol.ofWord? param.key with
    | none =>
      let (unknown, result) := readParams ports rest
      (param.key :: unknown, result)
    | some protocol =>
      match param.port protocol with
      | .error fault => ([], .error (protocol, fault))
      | .ok port => readParams (ports.put port protocol) rest

/-! ### Texts -/

/-- A token that cannot be read: its domain, the parameter at fault and the reason. -/
structure Stop where
  domain : String
  key : String
  cause : PortFault
  deriving DecidableEq, Repr

/-- What a text of domain specs yields. -/
structure Parse where
  specs : List DomainSpec
  unknown : List UnknownParam
  stop : Option Stop
  deriving DecidableEq, Repr

/-- The records about the unknown parameters of a text. -/
def Parse.records (parse : Parse) : List Journal.Record := parse.unknown.map (·.record)

/-- The domain of a token. -/
def Token.domain (token : Token) : String := String.ofList token.host

/-- What one token yields. -/
def Token.read (token : Token) : Parse :=
  let (unknown, result) := readParams {} token.paramList
  let notices := unknown.map fun key => ⟨key, token.domain⟩
  match result with
  | .error (protocol, cause) => ⟨[], notices, some ⟨token.domain, protocol.word, cause⟩⟩
  | .ok ports =>
    let ports := ports.orDefaults
    ⟨[⟨token.domain, ports.http, ports.https⟩], notices, none⟩

/-- One reading after another. A fault of the first one ends both. -/
def Parse.append (first : Parse) (second : Parse) : Parse :=
  match first.stop with
  | some _ => first
  | none => ⟨first.specs ++ second.specs, first.unknown ++ second.unknown, second.stop⟩

/-- The reading of nothing. -/
def Parse.nothing : Parse := ⟨[], [], none⟩

/-- What a list of readings yields, one after another. -/
def Parse.concat : List Parse → Parse
  | [] => nothing
  | first :: rest => first.append (concat rest)

/-- What a text of domain specs yields. -/
def parse (cs : List Char) : Parse := Parse.concat ((tokens cs).map Token.read)

/-- The reading of a text whose specs are added to those that are there already. -/
def parseAll (raw : String) (initial : List DomainSpec) : Parse :=
  let reading := parse raw.toList
  { reading with specs := initial ++ reading.specs }

@[simp] theorem Parse.append_nothing (p : Parse) : p.append .nothing = p := by
  cases p with
  | mk specs unknown stop => cases stop <;> simp [Parse.append, Parse.nothing]

@[simp] theorem Parse.nothing_append (p : Parse) : Parse.nothing.append p = p := rfl

theorem Parse.append_assoc (p q r : Parse) : (p.append q).append r = p.append (q.append r) := by
  cases p with
  | mk specs unknown stop =>
    cases stop with
    | some _ => rfl
    | none =>
      cases q with
      | mk specs' unknown' stop' => cases stop' <;> simp [Parse.append]

/-- What comes behind a fault is not read. -/
theorem Parse.append_of_stop {p : Parse} {s : Stop} (h : p.stop = some s) (q : Parse) :
    p.append q = p := by
  simp [Parse.append, h]

/-- The specs of a text stand behind those that were there before. -/
@[simp] theorem parseAll_specs (raw : String) (initial : List DomainSpec) :
    (parseAll raw initial).specs = initial ++ (parse raw.toList).specs := rfl

end RegistrySync.DomainSpec
