/-
Parameters as they are written, and which of them can be read.

No token has blanks in its parameters, so nothing is trimmed from them: a parameter is what stands
between two colons, cut at its first equals sign.

* `IsPort`, `portNumber` — a text that is a port, and the number that it spells;
* `readPort_eq_ok_iff_isPort` — these are the texts that are read as ports;
* `Param.ofPart`, `Token.written` — the parameters of a token by its text alone;
* `paramList_eq_written` — they are what is read;
* `Param.Recognised`, `Param.Valid` — a parameter that names a protocol, and one that does not stop
  the reading;
* `port_of_valid`, `exists_fault_of_not_valid` — what a parameter sets, or why it cannot be read.
-/
import RegistrySync.Proofs.DomainSpec.Params
import RegistrySync.Proofs.DomainSpec.Position

namespace RegistrySync.DomainSpec

/-! ### Ports -/

/-- A port as it is written: an optional plus sign and one or more ASCII digits, at most 4300 of
them, that denote at most 65535. -/
def IsPort (text : List Char) : Prop :=
  dropPlus text ≠ [] ∧ (∀ c ∈ dropPlus text, c.isDigit = true) ∧ (dropPlus text).length ≤ 4300 ∧
    Nat.ofDigitChars 10 (dropPlus text) 0 ≤ 65535

instance (text : List Char) : Decidable (IsPort text) := inferInstanceAs (Decidable (_ ∧ _))

/-- The number that the digits of a port spell. -/
def portNumber (text : List Char) : Nat := Nat.ofDigitChars 10 (dropPlus text) 0

/-- What is read as a port is a port as it is written, and its number is what the digits spell. -/
theorem readPort_eq_ok_iff_isPort {text : List Char} {n : Nat} :
    readPort text = .ok n ↔ IsPort text ∧ n = portNumber text := by
  rw [readPort_eq_ok_iff]
  constructor
  · rintro ⟨digits, hread, hne, hlen, hvalue, hmax⟩
    obtain ⟨hdigits, rfl⟩ := Text.mapM_asciiDigit?_eq_some_iff.1 hread
    rw [Text.natOfDigits_map] at hvalue
    subst hvalue
    rw [ne_eq, List.map_eq_nil_iff] at hne
    rw [List.length_map] at hlen
    exact ⟨⟨hne, hdigits, hlen, hmax⟩, rfl⟩
  · rintro ⟨⟨hne, hdigits, hlen, hmax⟩, rfl⟩
    refine ⟨_, Text.mapM_asciiDigit?_eq_some_iff.2 ⟨hdigits, rfl⟩, ?_, ?_, ?_, hmax⟩
    · rwa [ne_eq, List.map_eq_nil_iff]
    · rwa [List.length_map]
    · exact Text.natOfDigits_map _

theorem exists_fault_of_not_isPort {text : List Char} (h : ¬ IsPort text) :
    ∃ fault, readPort text = .error fault := by
  cases hread : readPort text with
  | error fault => exact ⟨fault, rfl⟩
  | ok n => exact absurd (readPort_eq_ok_iff_isPort.1 hread).1 h

/-! ### Parameters -/

/-- What stands between two colons as a parameter: the key up to the first equals sign, in lower
case, and what stands behind that sign, if there is one. -/
def Param.ofPart (part : List Char) : Param :=
  ⟨String.ofList (Text.lower (part.takeWhile (· != '='))),
    if '=' ∈ part then some (part.dropWhile (· != '=')).tail else none⟩

/-- The parameters of a token as they are written. -/
def Token.written (token : Token) : List Param :=
  match token.params with
  | none => []
  | some block => (block.splitOn ':').map Param.ofPart

/-- Without blanks there is nothing to trim. -/
theorem ofChars_eq_ofPart {part : List Char} (h : ∀ c ∈ part, Text.isBlank c = false) :
    Param.ofChars part = Param.ofPart part := by
  have hkey : ∀ c ∈ part.takeWhile (· != '='), Text.isBlank c = false := fun c hc =>
    h c ((List.takeWhile_prefix _).subset hc)
  have hvalue : ∀ c ∈ (part.dropWhile (· != '=')).tail, Text.isBlank c = false := fun c hc =>
    h c ((List.dropWhile_suffix _).subset (List.mem_of_mem_tail hc))
  rw [Param.ofChars, Text.cut_eq_takeWhile, Param.ofPart]
  simp only [Text.trim_of_not_blank hkey]
  by_cases heq : '=' ∈ part
  · simp [heq, Text.trim_of_not_blank hvalue]
  · simp [heq]

theorem not_blank_of_paramBlock {cs block : List Char} (h : paramBlock cs = some block) :
    ∀ c ∈ block, Text.isBlank c = false := by
  unfold paramBlock at h
  split at h
  · simp only at h
    split at h
    · cases h
    · intro c hc
      rw [← Option.some.inj h] at hc
      simpa using List.mem_takeWhile_imp hc
  · cases h

/-- No token has blanks in its parameters. -/
theorem not_blank_of_mem_tokens {cs block : List Char} {token : Token} (h : token ∈ tokens cs)
    (hb : token.params = some block) : ∀ c ∈ block, Text.isBlank c = false := by
  obtain ⟨rest, hfront⟩ := exists_front_of_mem_tokens h
  obtain ⟨j, -, rfl⟩ := front?_eq_some_iff.1 hfront
  rw [ofHost_eq] at hb
  exact not_blank_of_paramBlock hb

/-- What is read of the parameters of a token is what is written. -/
theorem paramList_eq_written {cs : List Char} {token : Token} (h : token ∈ tokens cs) :
    token.paramList = token.written := by
  rw [Token.paramList, Token.written]
  cases hb : token.params with
  | none => rfl
  | some block =>
    have hnot := not_blank_of_mem_tokens h hb
    simp only
    rw [Text.trim_of_not_blank hnot, ← Text.split_eq_splitOn]
    refine List.map_congr_left fun part hpart => ofChars_eq_ofPart fun c hc => ?_
    exact hnot c (Text.mem_of_mem_split hpart c hc)

/-! ### Parameters that are recognised and valid -/

/-- A parameter whose key is the word for a protocol. -/
def Param.Recognised (param : Param) : Prop := param.key = "http" ∨ param.key = "https"

instance (param : Param) : Decidable param.Recognised := inferInstanceAs (Decidable (_ ∨ _))

/-- A parameter that does not stop the reading: if it is recognised and has a value, that is a
port. -/
def Param.Valid (param : Param) : Prop :=
  param.Recognised → ∀ text, param.value = some text → IsPort text

/-- The port that a parameter gives to a protocol: the number that is written, or the default port
of the protocol. -/
def Param.given (param : Param) (protocol : Protocol) : Int :=
  match param.value with
  | some text => portNumber text
  | none => protocol.defaultPort

theorem ofWord?_eq_some_iff {w : String} {protocol : Protocol} :
    Protocol.ofWord? w = some protocol ↔ w = protocol.word := by
  unfold Protocol.ofWord?
  cases protocol with
  | http => by_cases h : w = "http" <;> simp [h, Protocol.word]
  | https =>
    by_cases h : w = "http"
    · subst h
      decide
    · by_cases hs : w = "https" <;> simp [h, hs, Protocol.word]

theorem Param.recognised_iff {param : Param} :
    param.Recognised ↔ ∃ protocol : Protocol, param.key = protocol.word := by
  constructor
  · rintro (h | h)
    · exact ⟨.http, h⟩
    · exact ⟨.https, h⟩
  · rintro ⟨_ | _, h⟩
    · exact Or.inl h
    · exact Or.inr h

theorem ofWord?_eq_none_iff {param : Param} :
    Protocol.ofWord? param.key = none ↔ ¬ param.Recognised := by
  rw [Param.recognised_iff, ← Option.not_isSome_iff_eq_none, Option.isSome_iff_exists]
  simp only [ofWord?_eq_some_iff]

/-- A valid parameter sets the port that it gives. -/
theorem port_of_valid {param : Param} {protocol : Protocol} (h : param.Valid)
    (hk : param.key = protocol.word) : param.port protocol = .ok (param.given protocol) := by
  rw [Param.port, Param.given]
  cases hv : param.value with
  | none => rfl
  | some text =>
    have hport := h (Param.recognised_iff.2 ⟨protocol, hk⟩) text hv
    simp only
    rw [readPort_eq_ok_iff_isPort.2 ⟨hport, rfl⟩]
    rfl

/-- A parameter that is not valid is recognised, and its value cannot be read. -/
theorem exists_fault_of_not_valid {param : Param} (h : ¬ param.Valid) :
    ∃ (protocol : Protocol) (text : List Char) (fault : PortFault),
      param.key = protocol.word ∧ param.value = some text ∧ readPort text = .error fault := by
  rw [Param.Valid] at h
  push Not at h
  obtain ⟨hrec, text, hv, hport⟩ := h
  obtain ⟨protocol, hk⟩ := Param.recognised_iff.1 hrec
  obtain ⟨fault, hfault⟩ := exists_fault_of_not_isPort hport
  exact ⟨protocol, text, fault, hk, hv, hfault⟩

end RegistrySync.DomainSpec
