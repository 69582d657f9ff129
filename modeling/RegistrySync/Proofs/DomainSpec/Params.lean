/-
Ports and parameters that are written and read again.

* `InRange` — a port that can be read;
* `readPort_eq_ok_iff` — what is read as a port;
* `readPort_digitsOf`, `readPort_le` — the numeral of a port is read as the port, and nothing
  else than ports is read;
* `Ports.get`, `Ports.InRange` — the port of a protocol, and ports that are all in range;
* `inRange_of_readParams` — all ports that parameters set are in range;
* `readParams_paramChars` — a parameter as it is written sets its port.
-/
import RegistrySync.DomainSpec.Parse
import RegistrySync.Proofs.Text.Blank
import RegistrySync.Proofs.Text.Cut
import RegistrySync.Proofs.Text.Numeral

namespace RegistrySync.DomainSpec

/-- A port between zero and the largest one. -/
def InRange (port : Int) : Prop := 0 ≤ port ∧ port ≤ maxPort

instance (port : Int) : Decidable (InRange port) := inferInstanceAs (Decidable (_ ∧ _))

theorem inRange_ofNat {n : Nat} : InRange (n : Int) ↔ n ≤ maxPort := by
  simp [InRange]

theorem inRange_defaultPort (protocol : Protocol) : InRange protocol.defaultPort := by
  cases protocol <;> decide

/-! ### Ports -/

theorem dropPlus_of_isDigit {cs : List Char} (h : ∀ c ∈ cs, c.isDigit = true) :
    dropPlus cs = cs := by
  unfold dropPlus
  split
  · exact absurd (h '+' List.mem_cons_self) (by decide)
  · rfl

/-- What is read as a port: digits, behind a plus sign or not, that are not too many and denote a
number that is not too large. -/
theorem readPort_eq_ok_iff {cs : List Char} {n : Nat} :
    readPort cs = .ok n ↔
      ∃ digits, (dropPlus cs).mapM Text.asciiDigit? = some digits ∧ digits ≠ [] ∧
        digits.length ≤ Text.maxDigits ∧ Text.natOfDigits digits = n ∧ n ≤ maxPort := by
  by_cases hcs : cs = []
  · subst hcs
    simp [dropPlus]
  · cases hread : (dropPlus cs).mapM Text.asciiDigit? with
    | none => simp [readPort, hcs, hread]
    | some digits =>
      by_cases hne : digits = []
      · simp [readPort, hcs, hread, hne]
      · by_cases hlong : Text.maxDigits < digits.length
        · simp [readPort, hcs, hread, hne, hlong, Nat.not_le.2 hlong]
        · by_cases hlarge : maxPort < Text.natOfDigits digits
          · simp [readPort, hcs, hread, hne, hlong, hlarge, Nat.not_lt.1 hlong]
            omega
          · simp [readPort, hcs, hread, hne, hlong, hlarge, Nat.not_lt.1 hlong]
            omega

/-- The numeral of a port is read as the port. -/
theorem readPort_digitsOf {n : Nat} (h : n ≤ maxPort) : readPort (Text.digitsOf n) = .ok n := by
  obtain ⟨digits, hread, hlen, hval⟩ := Text.mapM_digitsOf n
  have hne : digits ≠ [] := by
    rw [← List.length_pos_iff, hlen, List.length_pos_iff]
    exact Text.digitsOf_ne_nil n
  -- A port is below a hundred thousand, so its numeral has at most five digits.
  have hshort : digits.length ≤ 4 + 1 := by
    rw [hlen]
    refine Text.length_digitsOf_le 4 (Nat.lt_of_le_of_lt h ?_)
    decide
  have hmax : digits.length ≤ Text.maxDigits := Nat.le_trans hshort (by decide)
  refine readPort_eq_ok_iff.2 ⟨digits, ?_, hne, hmax, hval, h⟩
  rw [dropPlus_of_isDigit fun _ => Text.isDigit_of_mem_digitsOf, hread]

/-- Whatever is read as a port is at most the largest port. -/
theorem readPort_le {cs : List Char} {n : Nat} (h : readPort cs = .ok n) : n ≤ maxPort := by
  obtain ⟨digits, -, -, -, -, hn⟩ := readPort_eq_ok_iff.1 h
  exact hn

theorem inRange_of_port {param : Param} {protocol : Protocol} {port : Int}
    (h : param.port protocol = .ok port) : InRange port := by
  unfold Param.port at h
  split at h
  · cases h
    exact inRange_defaultPort protocol
  · rename_i value _
    cases hr : readPort value with
    | error fault =>
      rw [hr] at h
      cases h
    | ok n =>
      rw [hr] at h
      cases h
      exact inRange_ofNat.2 (readPort_le hr)

/-! ### Ports of a token -/

/-- The port of a protocol. -/
def Ports.get (ports : Ports) : Protocol → Option Int
  | .http => ports.http
  | .https => ports.https

theorem Ports.get_put_same (ports : Ports) (port : Int) (protocol : Protocol) :
    (ports.put port protocol).get protocol = some port := by
  cases protocol <;> rfl

theorem Ports.get_put_other (ports : Ports) (port : Int) {protocol other : Protocol}
    (h : other ≠ protocol) : (ports.put port protocol).get other = ports.get other := by
  cases protocol <;> cases other <;> first | rfl | exact absurd rfl h

/-- Ports that are all in range. -/
def Ports.InRange (ports : Ports) : Prop :=
  ∀ protocol, ∀ port ∈ ports.get protocol, DomainSpec.InRange port

theorem Ports.InRange.put {ports : Ports} (h : ports.InRange) {port : Int}
    (hp : DomainSpec.InRange port) (protocol : Protocol) : (ports.put port protocol).InRange := by
  intro other value hvalue
  by_cases hsame : other = protocol
  · rw [hsame, get_put_same] at hvalue
    cases hvalue
    exact hp
  · rw [get_put_other ports port hsame] at hvalue
    exact h other value hvalue

theorem Ports.InRange.orDefaults {ports : Ports} (h : ports.InRange) :
    ports.orDefaults.InRange := by
  unfold Ports.orDefaults
  split
  · rintro (_ | _) port ⟨⟩
    · exact inRange_defaultPort .http
    · exact inRange_defaultPort .https
  · exact h

/-- A token always has a port in the end. -/
theorem Ports.exists_get_orDefaults (ports : Ports) :
    ∃ protocol, ports.orDefaults.get protocol ≠ none := by
  unfold Ports.orDefaults
  split
  · exact ⟨.http, by simp [Ports.get]⟩
  · rename_i hset
    cases hh : ports.http with
    | some port => exact ⟨.http, by simp [Ports.get, hh]⟩
    | none =>
      refine ⟨.https, ?_⟩
      rw [Ports.get]
      intro hs
      exact hset (by simp [hh, hs])

/-- All ports that parameters set are in range. -/
theorem inRange_of_readParams {params : List Param} {ports result : Ports} (h : ports.InRange)
    (hr : (readParams ports params).2 = .ok result) : result.InRange := by
  induction params generalizing ports with
  | nil =>
    cases hr
    exact h
  | cons param rest ih =>
    rw [readParams] at hr
    split at hr
    · -- A parameter that is not recognised changes no port.
      exact ih h hr
    · rename_i protocol _
      split at hr
      · cases hr
      · rename_i port hport
        exact ih (h.put (inRange_of_port hport) protocol) hr

/-! ### Parameters as they are written -/

/-- The characters of a parameter that sets a port. -/
def paramChars (protocol : Protocol) (n : Nat) : List Char :=
  protocol.word.toList ++ '=' :: Text.digitsOf n

theorem toList_portParam {spec : DomainSpec} {protocol : Protocol} {n : Nat}
    (h : spec.port protocol = some (n : Int)) :
    (spec.portParam protocol).map String.toList = [paramChars protocol n] := by
  simp [portParam, h, paramChars, Text.showInt, Text.numeral]

/-- A parameter that sets a port has neither blanks nor colons. -/
theorem mem_paramChars {protocol : Protocol} {n : Nat} {c : Char} (h : c ∈ paramChars protocol n) :
    Text.isBlank c = false ∧ c ≠ ':' := by
  rw [paramChars, List.mem_append, List.mem_cons] at h
  obtain hw | rfl | hd := h
  · have hall : (protocol.word.toList.all fun c => !Text.isBlank c && c != ':') = true := by
      cases protocol <;> decide
    simpa using List.all_eq_true.1 hall c hw
  · decide
  · refine ⟨Text.isBlank_of_mem_digitsOf hd, ?_⟩
    rintro rfl
    exact absurd (Text.isDigit_of_mem_digitsOf hd) (by decide)

/-- A parameter that sets a port is read as the word for its protocol and the numeral. -/
theorem ofChars_paramChars (protocol : Protocol) (n : Nat) :
    Param.ofChars (paramChars protocol n) = ⟨protocol.word, some (Text.digitsOf n)⟩ := by
  have hword : '=' ∉ protocol.word.toList := by cases protocol <;> decide
  have hkey : String.ofList (Text.lower (Text.trim protocol.word.toList)) = protocol.word := by
    cases protocol <;> decide
  have hvalue : Text.trim (Text.digitsOf n) = Text.digitsOf n :=
    Text.trim_of_not_blank fun _ => Text.isBlank_of_mem_digitsOf
  rw [Param.ofChars, paramChars, Text.cut_append_cons hword]
  simp [hkey, hvalue]

/-- A parameter as it is written sets its port. -/
theorem readParams_paramChars (ports : Ports) (protocol : Protocol) {n : Nat} (h : n ≤ maxPort)
    (rest : List Param) :
    readParams ports (Param.ofChars (paramChars protocol n) :: rest) =
      readParams (ports.put n protocol) rest := by
  have hword : Protocol.ofWord? protocol.word = some protocol := by cases protocol <;> decide
  rw [ofChars_paramChars, readParams]
  simp only [hword, Param.port, readPort_digitsOf h]
  rfl

end RegistrySync.DomainSpec
