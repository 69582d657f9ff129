/-
The two readers of ports: the one of domain specs, and the one of settings.

The former takes an optional plus sign and ASCII digits, and to it zero is a port. The latter takes
any numeral, with blanks around it, a sign, underscores and digits of any script, but to it zero is
none. Both count no more than 4300 digits and no more than 65535.

* `Plain` — a text of an optional plus sign and ASCII digits;
* `readInt?_of_plain` — such a text is a numeral, and denotes the number that its digits spell;
* `readPort_of_plain`, `portText_of_plain` — what the two readers make of it;
* `RefusedInSpec`, `RefusedAsSetting` — a text that either reader refuses as a value;
* `ports_agree` — what the former reads is read by the latter as the same port, unless it is zero,
  and for plain texts the converse holds.
-/
import RegistrySync.Proofs.DomainSpec.Written
import RegistrySync.Settings.Value
import RegistrySync.Fault

namespace RegistrySync.Settings

open DomainSpec (dropPlus portNumber readPort)

/-! ### Plain texts -/

/-- A text of an optional plus sign and ASCII digits. -/
def Plain (text : List Char) : Prop := ∀ c ∈ dropPlus text, c.isDigit = true

instance (text : List Char) : Decidable (Plain text) := List.decidableBAll _ (dropPlus text)

theorem not_blank_of_plain {text : List Char} (h : Plain text) :
    ∀ c ∈ text, Text.isBlank c = false := by
  have hdigits : ∀ c ∈ dropPlus text, Text.isBlank c = false := fun c hc =>
    Text.isBlank_of_isAlphanum (by simp [Char.isAlphanum, h c hc])
  intro c hc
  unfold dropPlus at hdigits
  split at hdigits
  · rcases List.mem_cons.1 hc with rfl | hc
    · decide
    · exact hdigits c hc
  · exact hdigits c hc

/-- The sign of a plain text can only be the plus sign. -/
theorem takeSign_of_plain {text : List Char} (h : Plain text) :
    Text.takeSign text = (false, dropPlus text) := by
  unfold Text.takeSign
  split
  · rfl
  · exact absurd (h '-' List.mem_cons_self) (by decide)
  · rename_i hplus _
    unfold dropPlus
    split
    · exact absurd rfl (hplus _)
    · rfl

/-- A plain text is a numeral if it has digits, but not too many of them, and denotes the number
that they spell. -/
theorem readInt?_of_plain {text : List Char} (h : Plain text) :
    Text.readInt? text =
      if dropPlus text ≠ [] ∧ (dropPlus text).length ≤ Text.maxDigits then
        some (portNumber text : Int)
      else none := by
  rw [Text.readInt?, Text.trimNumeral_of_not_blank (not_blank_of_plain h), takeSign_of_plain h]
  by_cases hne : dropPlus text = []
  · simp [hne, Text.groupedDigits?]
  · simp only [Text.groupedDigits?_of_isDigit hne h, List.length_map, Text.natOfDigits_map, ne_eq,
      hne, not_false_iff, true_and]
    rfl

/-! ### The two readers -/

/-- What the reader of domain specs makes of a plain text with digits. -/
theorem readPort_of_plain {text : List Char} (h : Plain text) (hne : dropPlus text ≠ []) :
    readPort text =
      if (dropPlus text).length > Text.maxDigits then
        .error (.tooManyDigits (dropPlus text).length)
      else if portNumber text > DomainSpec.maxPort then
        .error (.tooLarge (String.ofList text))
      else .ok (portNumber text) := by
  have htext : text.isEmpty = false := by
    cases text with
    | nil => exact absurd rfl hne
    | cons c rest => rfl
  have hread := Text.mapM_asciiDigit?_eq_some_iff.2 ⟨h, rfl⟩
  simp only [readPort, htext, hread, List.isEmpty_map, List.isEmpty_iff, hne, List.length_map,
    Text.natOfDigits_map]
  rfl

/-- What the reader of settings makes of it: the same, but for zero. -/
theorem portText_of_plain (name : String) {text : String} (h : Plain text.toList)
    (hne : dropPlus text.toList ≠ []) :
    portText name text =
      if (dropPlus text.toList).length > Text.maxDigits then .error (.unreadablePort name)
      else if portNumber text.toList = 0 ∨ portNumber text.toList > DomainSpec.maxPort then
        .error (.portOutOfRange name)
      else .ok (portNumber text.toList : Int) := by
  rw [portText, integer?, Text.trim_of_not_blank (not_blank_of_plain h), readInt?_of_plain h]
  by_cases hlen : (dropPlus text.toList).length > Text.maxDigits
  · rw [if_neg fun hread => absurd hread.2 (Nat.not_le.2 hlen), if_pos hlen]
  · have hrange : ((portNumber text.toList : Int) ≤ 0 ∨ 65535 < (portNumber text.toList : Int)) ↔
        (portNumber text.toList = 0 ∨ portNumber text.toList > DomainSpec.maxPort) := by
      rw [DomainSpec.maxPort]
      omega
    rw [if_pos ⟨hne, Nat.not_lt.1 hlen⟩, if_neg hlen]
    simp only [hrange]

/-- Without digits a plain text is no port of a setting. -/
theorem portText_of_no_digits (name : String) {text : String} (hne : dropPlus text.toList = []) :
    portText name text = .error (.unreadablePort name) := by
  have hplain : Plain text.toList := by
    intro c hc
    rw [hne] at hc
    cases hc
  rw [portText, integer?, Text.trim_of_not_blank (not_blank_of_plain hplain),
    readInt?_of_plain hplain, if_neg fun hread => hread.1 hne]

/-! ### What both agree on -/

/-- The text is refused as a port of a domain spec: whichever spec it stands in, the fault of the
spec is made from one of a value. -/
def RefusedInSpec (text : String) : Prop :=
  ∃ fault, readPort text.toList = .error fault ∧
    ∀ domain key specs, (Cause.badSpec ⟨domain, key, fault, specs⟩).origin = some .value

/-- The text is refused as a port of a setting, with a fault of a value. -/
def RefusedAsSetting (name text : String) : Prop :=
  ∃ fault, portOf name (.str text) = .error fault ∧ (Fault.mk (.setting fault) none).kind = .value

/-- A text that is read as a port of a domain spec is read as the same port of a setting, but zero
is refused there.

For texts of an optional plus sign and ASCII digits the converse holds: what is read as a port of a
setting is read as the same port of a domain spec. Such a text is refused as either if it has more
than 4300 digits, or if they spell more than 65535. -/
theorem ports_agree (name text : String) :
    (∀ n, readPort text.toList = .ok n →
      (1 ≤ n → portOf name (.str text) = .ok (n : Int)) ∧ (n = 0 → RefusedAsSetting name text)) ∧
    (Plain text.toList →
      (∀ port, portOf name (.str text) = .ok port →
        ∃ n : Nat, port = n ∧ readPort text.toList = .ok n) ∧
      (4300 < (dropPlus text.toList).length ∨ 65535 < portNumber text.toList →
        RefusedInSpec text ∧ RefusedAsSetting name text)) := by
  have hportOf : portOf name (.str text) = portText name text := rfl
  refine ⟨fun n hread => ?_, fun hplain => ⟨fun port hport => ?_, fun hlarge => ?_⟩⟩
  · obtain ⟨⟨hne, hdigits, hlen, hmax⟩, rfl⟩ := DomainSpec.readPort_eq_ok_iff_isPort.1 hread
    have hshort : ¬(dropPlus text.toList).length > Text.maxDigits := Nat.not_lt.2 hlen
    have htext := portText_of_plain name hdigits hne
    rw [if_neg hshort] at htext
    refine ⟨fun hpos => ?_, fun hzero => ?_⟩
    · rw [hportOf, htext, if_neg]
      rintro (hzero | hlarge)
      · exact absurd hzero (Nat.one_le_iff_ne_zero.1 hpos)
      · exact absurd hmax (Nat.not_le.2 hlarge)
    · rw [if_pos (Or.inl hzero)] at htext
      exact ⟨.portOutOfRange name, htext, rfl⟩
  · -- A port of a setting has digits, few enough of them, and they spell it.
    by_cases hne : dropPlus text.toList = []
    · rw [hportOf, portText_of_no_digits name hne] at hport
      cases hport
    · rw [hportOf, portText_of_plain name hplain hne] at hport
      split at hport
      · cases hport
      · rename_i hlen
        split at hport
        · cases hport
        · rename_i hrange
          refine ⟨portNumber text.toList, (Except.ok.inj hport).symm, ?_⟩
          rw [readPort_of_plain hplain hne, if_neg hlen, if_neg fun h => hrange (Or.inr h)]
  · have hne : dropPlus text.toList ≠ [] := by
      intro hnil
      rw [portNumber, hnil] at hlarge
      exact absurd hlarge (by decide)
    rw [RefusedInSpec, RefusedAsSetting, hportOf, readPort_of_plain hplain hne,
      portText_of_plain name hplain hne]
    by_cases hlen : (dropPlus text.toList).length > Text.maxDigits
    · rw [if_pos hlen, if_pos hlen]
      exact ⟨⟨_, rfl, fun _ _ _ => rfl⟩, _, rfl, rfl⟩
    · have hmax : portNumber text.toList > DomainSpec.maxPort := hlarge.resolve_left hlen
      rw [if_neg hlen, if_neg hlen, if_pos hmax, if_pos (Or.inr hmax)]
      exact ⟨⟨_, rfl, fun _ _ _ => rfl⟩, _, rfl, rfl⟩

/-- One zero more than can be read. -/
def manyZeros : String := String.ofList (List.replicate 4301 '0')

theorem ports_agree_signed_and_long :
    (readPort "+00443".toList = .ok 443 ∧ portOf "port" (.str "+00443") = .ok 443) ∧
      (readPort "00".toList = .ok 0 ∧ RefusedAsSetting "port" "00") ∧
      (Plain "+08080".toList ∧ portOf "port" (.str "+08080") = .ok 8080 ∧
        readPort "+08080".toList = .ok 8080) ∧
      Plain manyZeros.toList ∧ 4300 < (dropPlus manyZeros.toList).length ∧
        RefusedInSpec manyZeros ∧ RefusedAsSetting "port" manyZeros := by
  have hzeros : manyZeros.toList = List.replicate 4301 '0' := String.toList_ofList
  have hdrop : dropPlus manyZeros.toList = List.replicate 4301 '0' := by
    rw [hzeros]
    rfl
  -- Too long a numeral to be evaluated character by character.
  have hmany : Plain manyZeros.toList := by
    intro c hc
    rw [hdrop] at hc
    rw [List.eq_of_mem_replicate hc]
    decide
  have hlong : 4300 < (dropPlus manyZeros.toList).length := by
    rw [hdrop, List.length_replicate]
    decide
  have hread : readPort "+00443".toList = .ok 443 := by decide +kernel
  have hzero : readPort "00".toList = .ok 0 := by decide +kernel
  have hplain : Plain "+08080".toList := by decide +kernel
  have hset : portOf "port" (.str "+08080") = .ok 8080 := by decide +kernel
  obtain ⟨n, hn, hagain⟩ := ((ports_agree "port" "+08080").2 hplain).1 8080 hset
  obtain rfl : 8080 = n := Int.ofNat.inj hn
  exact ⟨⟨hread, ((ports_agree "port" "+00443").1 443 hread).1 (by decide)⟩,
    ⟨hzero, ((ports_agree "port" "00").1 0 hzero).2 rfl⟩, ⟨hplain, hset, hagain⟩,
    hmany, hlong, ((ports_agree "port" manyZeros).2 hmany).2 (Or.inl hlong)⟩

end RegistrySync.Settings
