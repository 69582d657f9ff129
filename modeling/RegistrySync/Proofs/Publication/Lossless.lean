/-
What the records of a publication are written as holds everything that they tell.

* `Carries` — a record with the fields of a spec and its host, and no others;
* `carries_written` — what is written for a spec carries it, whatever its domain and ports;
* `recover?` — the specs that the text of records tells;
* `encode_lossless` — the text has no layout and no control characters, it spells one record for
  each spec, and so no two publications are written alike that differ in what their records tell.
-/
import RegistrySync.Proofs.Json.Grammar
import RegistrySync.Proofs.Publication.Record

namespace RegistrySync.Publication

/-! ### Records -/

/-- A record that carries a spec and its host: it has an id, a domain, and the protocols of the
spec, each with the host and the port, and no other field. -/
structure Carries (host : String) (spec : DomainSpec) (item : Json) : Prop where
  keys : ∃ fields, item = .obj fields ∧ (fields.map (·.1)).Nodup ∧
    ∀ name, name ∈ fields.map (·.1) ↔ name = "id" ∨ name = "domain" ∨
      ∃ protocol : Protocol, name = protocol.word ∧ spec.port protocol ≠ none
  id : item.field? "id" = some (.str spec.recordId)
  domain : item.field? "domain" = some (.str spec.domain)
  backends : ∀ (protocol : Protocol) (port : Int), spec.port protocol = some port →
    item.field? protocol.word = some (.obj [("host", .str host), ("port", .int port)])

theorem mem_names_protocolField {host name : String} {spec : DomainSpec} {protocol : Protocol} :
    name ∈ (protocolField host spec protocol).map (·.1) ↔
      name = protocol.word ∧ spec.port protocol ≠ none := by
  unfold protocolField
  cases spec.port protocol <;> simp

/-- What is written for a spec carries it, whatever its domain and its ports are. -/
theorem carries_written (host : String) (spec : DomainSpec) :
    Carries host spec (written host spec) := by
  refine ⟨⟨_, rfl, ?_, fun name => ?_⟩, field?_written_id host spec, rfl, ?_⟩
  · unfold protocolField
    cases spec.port .http <;> cases spec.port .https <;> simp [Protocol.word]
  · -- There are two protocols, each with a field of its own if it has a port.
    have hprotocol : (∃ protocol : Protocol, name = protocol.word ∧ spec.port protocol ≠ none) ↔
        (name = Protocol.http.word ∧ spec.port .http ≠ none) ∨
          (name = Protocol.https.word ∧ spec.port .https ≠ none) := by
      constructor
      · rintro ⟨protocol, hserved⟩
        cases protocol with
        | http => exact Or.inl hserved
        | https => exact Or.inr hserved
      · rintro (hserved | hserved)
        · exact ⟨.http, hserved⟩
        · exact ⟨.https, hserved⟩
    simp only [List.map_append, List.mem_append, mem_names_protocolField, List.map_cons,
      List.map_nil, List.mem_singleton, hprotocol]
    tauto
  · intro protocol port hport
    rw [field?_written_protocol, hport]
    rfl

theorem Carries.field?_of_not_served {host : String} {spec : DomainSpec} {item : Json}
    (h : Carries host spec item) {protocol : Protocol} (hport : spec.port protocol = none) :
    item.field? protocol.word = none := by
  obtain ⟨fields, rfl, -, hnames⟩ := h.keys
  have habsent : protocol.word ∉ fields.map (·.1) := by
    rw [hnames]
    rintro (hid | hdomain | ⟨other, hword, hserved⟩)
    · cases protocol <;> exact absurd hid (by decide)
    · cases protocol <;> exact absurd hdomain (by decide)
    · have hsame : protocol = other := by
        cases protocol <;> cases other <;> first | rfl | exact absurd hword (by decide)
      exact hserved (hsame ▸ hport)
  exact List.lookup_eq_none_iff.2 fun field hfield => by
    have hne : protocol.word ≠ field.1 := fun heq =>
      habsent (heq ▸ List.mem_map_of_mem hfield)
    simpa using hne

/-! ### What a record tells -/

/-- The port that a record tells for a protocol. -/
def portIn? (item : Json) (protocol : Protocol) : Option Int :=
  match (item.field? protocol.word).bind (Json.field? "port") with
  | some (.int port) => some port
  | _ => none

/-- The spec that a record tells. -/
def specIn? (item : Json) : Option DomainSpec :=
  match item.field? "domain" with
  | some (.str domain) => some ⟨domain, portIn? item .http, portIn? item .https⟩
  | _ => none

/-- The specs that the text of records tells. -/
def recover? (text : String) : Option (List DomainSpec) :=
  match Json.read? text with
  | some (.arr items) => items.mapM specIn?
  | _ => none

theorem Carries.portIn? {host : String} {spec : DomainSpec} {item : Json}
    (h : Carries host spec item) (protocol : Protocol) :
    portIn? item protocol = spec.port protocol := by
  cases hport : spec.port protocol with
  | none => rw [Publication.portIn?, h.field?_of_not_served hport]; rfl
  | some port => rw [Publication.portIn?, h.backends protocol port hport]; rfl

theorem Carries.specIn? {host : String} {spec : DomainSpec} {item : Json}
    (h : Carries host spec item) : specIn? item = some spec := by
  have hhttp : Publication.portIn? item .http = spec.httpPort := h.portIn? .http
  have hhttps : Publication.portIn? item .https = spec.httpsPort := h.portIn? .https
  rw [Publication.specIn?, h.domain, hhttp, hhttps]

/-- A record tells of one host only. -/
theorem Carries.host_eq {host host' : String} {spec : DomainSpec} {item : Json}
    (h : Carries host spec item) (h' : Carries host' spec item) {protocol : Protocol}
    (hserved : spec.port protocol ≠ none) : host = host' := by
  obtain ⟨port, hport⟩ := Option.ne_none_iff_exists'.1 hserved
  have hbackend := (h.backends protocol port hport).symm.trans (h'.backends protocol port hport)
  simpa using hbackend

/-- The specs of a publication are what the text of its records tells. -/
theorem recover?_encode (publication : Publication) :
    recover? publication.encode = some publication.specs := by
  rw [recover?, read?_encode]
  simp only
  induction publication.specs with
  | nil => rfl
  | cons spec rest ih =>
    rw [List.map_cons, List.mapM_cons, (carries_written publication.host spec).specIn?, ih]
    rfl

/-! ### The text of records -/

/-- The text of records spells them, one for each spec. -/
theorem spells_encode (publication : Publication) :
    Json.Spells publication.encode.toList
      (.arr (publication.specs.map (written publication.host))) := by
  have hspells := Json.spells_compact (whole_records publication)
  rwa [ordered_records] at hspells

/-- Publications that are written alike have the same specs. -/
theorem specs_eq_of_encode_eq {p q : Publication} (h : p.encode = q.encode) :
    p.specs = q.specs := by
  have hspecs := congrArg recover? h
  rw [recover?_encode, recover?_encode] at hspecs
  exact Option.some.inj hspecs

/-- Publications that are written alike have the same host, if any domain is served there. -/
theorem host_eq_of_encode_eq {p q : Publication} (h : p.encode = q.encode)
    (hserved : ∃ spec ∈ p.specs, ∃ protocol, spec.port protocol ≠ none) : p.host = q.host := by
  -- Both texts are read as the same items, and the specs behind them are the same already.
  have hitems : p.specs.map (written p.host) = p.specs.map (written q.host) := by
    have hread := congrArg Json.read? h
    rw [read?_encode, read?_encode, ← specs_eq_of_encode_eq h] at hread
    exact Json.arr.inj (Option.some.inj hread)
  obtain ⟨spec, hspec, protocol, hport⟩ := hserved
  have hitem := List.map_inj_left.1 hitems spec hspec
  exact (carries_written p.host spec).host_eq (hitem ▸ carries_written q.host spec) hport

/-- The text of records has no blanks outside of literals and no control characters, and spells one
record for each spec, in their order. Two publications are written alike only if they have the same
specs, and the same host unless no domain is served. Specs that were read from a text are told by
their records again. -/
theorem encode_lossless :
    (∀ publication : Publication,
      (∀ place ∈ Json.placed .outside publication.encode.toList,
        place.1 = .outside → Text.isBlank place.2 = false) ∧
      (∀ c ∈ publication.encode.toList, 0x20 ≤ c.toNat) ∧
      ∃ items, Json.Spells publication.encode.toList (.arr items) ∧
        Json.read? publication.encode = some (.arr items) ∧
        List.Forall₂ (Carries publication.host) publication.specs items) ∧
    (∀ p q : Publication, p.encode = q.encode → p.specs = q.specs ∧
      ((∃ spec ∈ p.specs, ∃ protocol, spec.port protocol ≠ none) → p.host = q.host)) ∧
    ∀ host raw : String, recover? (encode ⟨host, (DomainSpec.parseAll raw []).specs⟩) =
      some (DomainSpec.parseAll raw []).specs := by
  refine ⟨fun publication => ⟨?_, (spells_encode publication).printed, _,
    spells_encode publication, read?_encode publication, ?_⟩,
    fun p q h => ⟨specs_eq_of_encode_eq h, host_eq_of_encode_eq h⟩,
    fun host raw => recover?_encode ⟨host, (DomainSpec.parseAll raw []).specs⟩⟩
  · intro place hplace houtside
    have hlayout := Json.squeeze_eq_self_iff.1 (spells_encode publication).squeezed.eq place hplace
    simpa [Json.isLayout, houtside] using hlayout
  · rw [List.forall₂_map_right_iff, List.forall₂_same]
    exact fun spec _ => carries_written publication.host spec

/-- A domain that is not served: its record does not tell the host. -/
def unserved (host : String) : Publication := ⟨host, [{ domain := "example.com" }]⟩

/-- A domain that is served on a host with a blank in its name. -/
def served : Publication := ⟨"web 1", [{ domain := "example.com", httpPort := some 8080 }]⟩

/-- The specs that the text of a domain spec has, on the same host. -/
def servedAsRead : Publication :=
  ⟨"web 1", (DomainSpec.parseAll "example.com:http=8080" []).specs⟩

theorem encode_lossless_same_texts :
    ((unserved "a").encode = (unserved "b").encode ∧
      (unserved "a").specs = (unserved "b").specs) ∧
    (served.encode = servedAsRead.encode ∧ served.specs = servedAsRead.specs ∧
      served.host = servedAsRead.host) ∧
    (Json.Region.outside, '[') ∈ Json.placed .outside served.encode.toList ∧
      Text.isBlank '[' = false := by
  have hunserved : (unserved "a").encode = (unserved "b").encode := by decide +kernel
  have hserved : served.encode = servedAsRead.encode := by decide +kernel
  have hport : ∃ spec ∈ served.specs, ∃ protocol, spec.port protocol ≠ none :=
    ⟨_, List.mem_singleton_self _, .http, by decide⟩
  have hplace : (Json.Region.outside, '[') ∈ Json.placed .outside served.encode.toList := by
    decide +kernel
  obtain ⟨htext, hinjective, -⟩ := encode_lossless
  obtain ⟨hspecs, hhost⟩ := hinjective served servedAsRead hserved
  exact ⟨⟨hunserved, (hinjective _ _ hunserved).1⟩, ⟨hserved, hspecs, hhost hport⟩, hplace,
    (htext served).1 _ hplace rfl⟩

end RegistrySync.Publication
