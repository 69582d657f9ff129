/-
Domain specs come back from the texts that they are written as.

* `WellFormed` — a host for a domain, ports in range, and at least one of them;
* `wellFormed_of_mem_parse` — whatever a text yields is well-formed;
* `parse_toDsl_append` — a spec that was written is read as itself, up to the next blank;
* `parseAll_toText` — written specs with a space between them are read as they were, and so
  are the specs that any text yields.
-/
import RegistrySync.Proofs.DomainSpec.Params
import RegistrySync.Proofs.DomainSpec.Reading
import RegistrySync.Proofs.DomainSpec.Scan

namespace RegistrySync.DomainSpec

/-- A spec whose domain is a host and whose ports are in range, with at least one of them. -/
structure WellFormed (spec : DomainSpec) : Prop where
  host : IsHost spec.domain.toList
  range : ∀ protocol, ∀ port ∈ spec.port protocol, InRange port
  served : ∃ protocol, spec.port protocol ≠ none

/-- The id of a well-formed spec is not empty. -/
theorem WellFormed.recordId_ne_empty {spec : DomainSpec} (h : spec.WellFormed) :
    spec.recordId ≠ "" := by
  intro hempty
  have hthree := h.host.three_le_length
  rw [← spec.length_recordId, hempty] at hthree
  exact absurd hthree (by decide)

/-! ### What is read -/

theorem Parse.mem_concat_specs {ps : List Parse} {spec : DomainSpec}
    (h : spec ∈ (concat ps).specs) : ∃ p ∈ ps, spec ∈ p.specs := by
  induction ps with
  | nil => cases h
  | cons p rest ih =>
    rw [concat] at h
    cases hp : p.stop with
    -- A fault ends the whole, and the rest is not looked at.
    | some stop =>
      rw [append_of_stop hp] at h
      exact ⟨p, List.mem_cons_self, h⟩
    | none =>
      rw [append_of_clean hp, List.mem_append] at h
      cases h with
      | inl h => exact ⟨p, List.mem_cons_self, h⟩
      | inr h =>
        obtain ⟨q, hq, hs⟩ := ih h
        exact ⟨q, List.mem_cons_of_mem _ hq, hs⟩

/-- A token of a host yields nothing but a well-formed spec. -/
theorem wellFormed_of_mem_read {token : Token} (h : IsHost token.host) {spec : DomainSpec}
    (hs : spec ∈ token.read.specs) : spec.WellFormed := by
  simp only [Token.read] at hs
  cases hr : (readParams {} token.paramList).2 with
  | error fault =>
    rw [hr] at hs
    cases hs
  | ok ports =>
    -- The reading starts without ports, and every port that is put there is in range.
    have hempty : ({} : Ports).InRange := by rintro (_ | _) port ⟨⟩
    have hports : ports.orDefaults.InRange := (inRange_of_readParams hempty hr).orDefaults
    rw [hr, List.mem_singleton] at hs
    subst hs
    refine ⟨?_, ?_, ?_⟩
    · simpa [Token.domain] using h
    · rintro (_ | _)
      · exact hports .http
      · exact hports .https
    · obtain ⟨protocol, hp⟩ := ports.exists_get_orDefaults
      refine ⟨protocol, ?_⟩
      cases protocol <;> exact hp

/-- Whatever a text yields is well-formed, also if a fault ends the reading. -/
theorem wellFormed_of_mem_parse {cs : List Char} {spec : DomainSpec}
    (h : spec ∈ (parse cs).specs) : spec.WellFormed := by
  obtain ⟨p, hp, hs⟩ := Parse.mem_concat_specs h
  obtain ⟨token, ht, rfl⟩ := List.mem_map.1 hp
  exact wellFormed_of_mem_read (isHost_of_mem_tokens ht) hs

/-! ### What is written -/

/-- The characters of the parameters of a spec, one list for each. -/
def paramParts (spec : DomainSpec) : List (List Char) :=
  (spec.portParam .http ++ spec.portParam .https).map String.toList

/-- The characters behind the first colon of a spec that is written. -/
def paramText (spec : DomainSpec) : List Char := [':'].intercalate spec.paramParts

/-- A port of a well-formed spec is a number that is not too large. -/
theorem WellFormed.exists_nat {spec : DomainSpec} (h : spec.WellFormed) {protocol : Protocol}
    {port : Int} (hp : spec.port protocol = some port) : ∃ n : Nat, n ≤ maxPort ∧ port = n := by
  have hrange := h.range protocol port hp
  obtain ⟨n, rfl⟩ := Int.eq_ofNat_of_zero_le hrange.1
  exact ⟨n, inRange_ofNat.1 hrange, rfl⟩

/-- Every parameter of a well-formed spec sets a port. -/
theorem WellFormed.mem_paramParts {spec : DomainSpec} (h : spec.WellFormed) {part : List Char}
    (hp : part ∈ spec.paramParts) : ∃ protocol n, part = paramChars protocol n := by
  rw [paramParts, List.map_append, List.mem_append] at hp
  have hone : ∀ protocol, part ∈ (spec.portParam protocol).map String.toList →
      ∃ n, part = paramChars protocol n := by
    intro protocol hm
    cases hport : spec.port protocol with
    | none => simp [portParam, hport] at hm
    | some port =>
      obtain ⟨n, -, rfl⟩ := h.exists_nat hport
      rw [toList_portParam hport, List.mem_singleton] at hm
      exact ⟨n, hm⟩
  cases hp with
  | inl hp => exact ⟨.http, hone .http hp⟩
  | inr hp => exact ⟨.https, hone .https hp⟩

/-- A well-formed spec has a parameter. -/
theorem WellFormed.portParam_ne_nil {spec : DomainSpec} (h : spec.WellFormed) :
    spec.portParam .http ++ spec.portParam .https ≠ [] := by
  obtain ⟨protocol, hp⟩ := h.served
  obtain ⟨port, hport⟩ := Option.ne_none_iff_exists'.1 hp
  have hne : spec.portParam protocol ≠ [] := by simp [portParam, hport]
  cases protocol with
  | http => exact List.append_ne_nil_of_left_ne_nil hne _
  | https => exact List.append_ne_nil_of_right_ne_nil _ hne

theorem WellFormed.paramParts_ne_nil {spec : DomainSpec} (h : spec.WellFormed) :
    spec.paramParts ≠ [] := by
  rw [paramParts, ne_eq, List.map_eq_nil_iff]
  exact h.portParam_ne_nil

theorem WellFormed.isBlank_of_mem_paramText {spec : DomainSpec} (h : spec.WellFormed) :
    ∀ c ∈ spec.paramText, Text.isBlank c = false := by
  refine Text.forall_mem_intercalate (List.forall_mem_singleton.2 (by decide)) ?_
  intro part hp c hc
  obtain ⟨protocol, n, rfl⟩ := h.mem_paramParts hp
  exact (mem_paramChars hc).1

theorem WellFormed.paramText_ne_nil {spec : DomainSpec} (h : spec.WellFormed) :
    spec.paramText ≠ [] := by
  intro hnil
  obtain ⟨part, rest, hparts⟩ := List.exists_cons_of_ne_nil h.paramParts_ne_nil
  obtain ⟨protocol, n, rfl⟩ := h.mem_paramParts (hparts ▸ List.mem_cons_self)
  rw [paramText, hparts] at hnil
  cases rest with
  | nil => simp [paramChars] at hnil
  | cons next more => simp [paramChars] at hnil

theorem WellFormed.toList_toDsl {spec : DomainSpec} (h : spec.WellFormed) :
    spec.toDsl.toList = spec.domain.toList ++ ':' :: spec.paramText := by
  rw [toDsl, String.intercalate_cons_of_ne_nil h.portParam_ne_nil]
  simp [String.toList_intercalate, paramText, paramParts]

/-! ### What is written is read -/

/-- The ports with that of one protocol taken from a spec. -/
def Ports.take (ports : Ports) (spec : DomainSpec) (protocol : Protocol) : Ports :=
  match spec.port protocol with
  | some port => ports.put port protocol
  | none => ports

theorem Ports.take_take (spec : DomainSpec) :
    (({} : Ports).take spec .http).take spec .https = ⟨spec.httpPort, spec.httpsPort⟩ := by
  obtain ⟨domain, http, https⟩ := spec
  cases http <;> cases https <;> rfl

/-- The parameters that are written for a protocol set the port of the spec. -/
theorem WellFormed.readParams_portParam {spec : DomainSpec} (h : spec.WellFormed) (ports : Ports)
    (protocol : Protocol) (rest : List Param) :
    readParams ports (((spec.portParam protocol).map String.toList).map Param.ofChars ++ rest) =
      readParams (ports.take spec protocol) rest := by
  cases hport : spec.port protocol with
  | none => simp [portParam, Ports.take, hport]
  | some port =>
    obtain ⟨n, hn, rfl⟩ := h.exists_nat hport
    rw [toList_portParam hport, List.map_singleton, List.singleton_append,
      readParams_paramChars ports protocol hn, Ports.take, hport]

/-- The parameters of a well-formed spec are read as its ports. -/
theorem WellFormed.readParams_paramParts {spec : DomainSpec} (h : spec.WellFormed) :
    readParams {} (spec.paramParts.map Param.ofChars) =
      ([], .ok ⟨spec.httpPort, spec.httpsPort⟩) := by
  rw [paramParts, List.map_append, List.map_append, h.readParams_portParam,
    ← List.append_nil (((spec.portParam .https).map String.toList).map Param.ofChars),
    h.readParams_portParam, Ports.take_take, readParams]

/-- A spec with a port keeps the ports that it has. -/
theorem WellFormed.orDefaults_eq {spec : DomainSpec} (h : spec.WellFormed) :
    (⟨spec.httpPort, spec.httpsPort⟩ : Ports).orDefaults = ⟨spec.httpPort, spec.httpsPort⟩ := by
  obtain ⟨protocol, hp⟩ := h.served
  rw [Ports.orDefaults, if_neg]
  rintro ⟨hhttp, hhttps⟩
  cases protocol with
  | http => exact hp (Option.isNone_iff_eq_none.1 hhttp)
  | https => exact hp (Option.isNone_iff_eq_none.1 hhttps)

theorem WellFormed.read_eq {spec : DomainSpec} (h : spec.WellFormed) (width : Nat) :
    Token.read ⟨spec.domain.toList, some spec.paramText, width⟩ = ⟨[spec], [], none⟩ := by
  -- No parameter has a blank or a colon, so trimming and splitting give the parameters back.
  have hcolon : ∀ part ∈ spec.paramParts, ':' ∉ part := by
    intro part hp hc
    obtain ⟨protocol, n, rfl⟩ := h.mem_paramParts hp
    exact (mem_paramChars hc).2 rfl
  have hparams : Token.paramList ⟨spec.domain.toList, some spec.paramText, width⟩ =
      spec.paramParts.map Param.ofChars := by
    simp only [Token.paramList]
    rw [Text.trim_of_not_blank h.isBlank_of_mem_paramText, paramText,
      Text.split_intercalate hcolon h.paramParts_ne_nil]
  simp only [Token.read, hparams, h.readParams_paramParts, h.orDefaults_eq, Token.domain,
    String.ofList_toList, List.map_nil]

/-- A spec that was written is read as itself, up to the next blank. -/
theorem WellFormed.parse_toDsl_append {spec : DomainSpec} (h : spec.WellFormed) {rest : List Char}
    (hr : ∀ c ∈ rest.head?, Text.isBlank c = true) :
    parse (spec.toDsl.toList ++ rest) = (⟨[spec], [], none⟩ : Parse).append (parse rest) := by
  rw [h.toList_toDsl, List.append_assoc, List.cons_append, parse,
    tokens_host_block h.host h.paramText_ne_nil h.isBlank_of_mem_paramText hr, List.map_cons,
    Parse.concat, h.read_eq, parse]

theorem parse_blank {c : Char} (h : Text.isBlank c = true) (rest : List Char) :
    parse (c :: rest) = parse rest := by
  rw [parse, parse, tokens_blank h]

/-- Specs as one text, with a space between them. -/
def toText (specs : List DomainSpec) : String := " ".intercalate (specs.map toDsl)

/-- Written specs with a space between them are read as they were. -/
theorem parse_toText {specs : List DomainSpec} (h : ∀ spec ∈ specs, spec.WellFormed) :
    parse (toText specs).toList = ⟨specs, [], none⟩ := by
  induction specs with
  | nil => rfl
  | cons spec rest ih =>
    obtain ⟨hspec, hrest⟩ := List.forall_mem_cons.1 h
    by_cases hne : rest = []
    · have hlast : parse (spec.toDsl.toList ++ []) =
          (⟨[spec], [], none⟩ : Parse).append (parse []) := hspec.parse_toDsl_append (by simp)
      subst hne
      simpa [toText, parse, tokens, tokensFrom, Parse.concat] using hlast
    · -- The rest starts with a blank, which ends the token of the first spec.
      have htext : (toText (spec :: rest)).toList =
          spec.toDsl.toList ++ ' ' :: (toText rest).toList := by
        rw [toText, List.map_cons, String.intercalate_cons_of_ne_nil (by simpa using hne)]
        simp [toText]
      rw [htext, hspec.parse_toDsl_append (by rintro c ⟨⟩; decide), parse_blank (by decide),
        ih hrest]
      rfl

/-- Well-formed specs that are written with a space between them are read as they were, without
a notice or a fault. So are the specs that any text yields, whether or not a fault ends its
reading. -/
theorem parseAll_toText :
    (∀ specs : List DomainSpec, (∀ spec ∈ specs, spec.WellFormed) →
      parseAll (toText specs) [] = ⟨specs, [], none⟩) ∧
    ∀ raw : String,
      parseAll (toText (parseAll raw []).specs) [] = ⟨(parseAll raw []).specs, [], none⟩ := by
  have hround : ∀ specs : List DomainSpec, (∀ spec ∈ specs, spec.WellFormed) →
      parseAll (toText specs) [] = ⟨specs, [], none⟩ := by
    intro specs h
    rw [parseAll, parse_toText h]
    rfl
  refine ⟨hround, ?_⟩
  intro raw
  refine hround _ fun spec hspec => ?_
  rw [parseAll_specs, List.nil_append] at hspec
  exact wellFormed_of_mem_parse hspec

/-- A domain with a port of its own, and one with both default ports. -/
def twoDomains : List DomainSpec :=
  [⟨"api.example.org", some 8080, none⟩, ⟨"x-1", some 80, some 443⟩]

theorem parseAll_toText_two_domains :
    toText twoDomains = "api.example.org:http=8080 x-1:http=80:https=443" ∧
      (∀ spec ∈ twoDomains, spec.WellFormed) ∧
      parseAll (toText twoDomains) [] = ⟨twoDomains, [], none⟩ := by
  have hread : (parse "api.example.org.:http=8080 x-1".toList).specs = twoDomains := by
    decide +kernel
  have hwell : ∀ spec ∈ twoDomains, spec.WellFormed := by
    rw [← hread]
    exact fun _ => wellFormed_of_mem_parse
  exact ⟨by decide +kernel, hwell, parseAll_toText.1 twoDomains hwell⟩

end RegistrySync.DomainSpec
