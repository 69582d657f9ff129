/-
Records as they are read back from the registry.

* `written` — the record of a domain with its fields in the order of their names;
* `read?_encode` — the records of a publication are read back, one for each domain;
* `IsRecordOf` — what an element of the records of a host is to be;
* `isRecordOf_written` — the record of a well-formed spec is one.
-/
import RegistrySync.Proofs.DomainSpec.RoundTrip
import RegistrySync.Proofs.Json.Reading
import RegistrySync.Publication.Record

namespace RegistrySync.Publication

open DomainSpec (InRange IsHost)

/-! ### Reading back -/

/-- The record of a domain as it is read back: its fields are in the order of their names. -/
def written (host : String) (spec : DomainSpec) : Json :=
  .obj ([("domain", .str spec.domain)] ++ protocolField host spec .http ++
    protocolField host spec .https ++ [("id", .str spec.recordId)])

theorem whole_backend (host : String) (port : Int) : (backend host port).Whole := by
  refine .obj ?_
  rw [List.forall_mem_cons, List.forall_mem_singleton]
  exact ⟨.str host, .int port⟩

theorem whole_protocolField {host : String} {spec : DomainSpec} {protocol : Protocol}
    {field : String × Json} (h : field ∈ protocolField host spec protocol) : field.2.Whole := by
  unfold protocolField at h
  split at h
  · rw [List.mem_singleton.1 h]
    exact whole_backend host _
  · cases h

theorem whole_recordOf (host : String) (spec : DomainSpec) : (recordOf host spec).Whole := by
  refine .obj ?_
  simp only [List.forall_mem_append, List.forall_mem_cons, List.not_mem_nil, false_implies,
    implies_true, and_true]
  exact ⟨⟨⟨.str spec.recordId, .str spec.domain⟩, fun field => whole_protocolField⟩,
    fun field => whole_protocolField⟩

theorem ordered_backend (host : String) (port : Int) :
    (backend host port).ordered = backend host port := by
  have hhost : "host" ≤ "port" := by decide
  simp [backend, Json.ordered, Json.orderedFields, Json.sortFields, Json.insertField, hhost]

theorem ordered_recordOf (host : String) (spec : DomainSpec) :
    (recordOf host spec).ordered = written host spec := by
  have hdomain : "domain" ≤ Protocol.http.word ∧ "domain" ≤ Protocol.https.word := by decide
  have hhttp : Protocol.http.word ≤ Protocol.https.word := by decide
  have hid : ¬"id" ≤ "domain" ∧ ¬"id" ≤ Protocol.http.word ∧ ¬"id" ≤ Protocol.https.word := by
    decide
  unfold recordOf written protocolField
  -- The id moves behind whichever protocols there are.
  cases spec.port .http <;> cases spec.port .https <;>
    simp [Json.ordered, Json.orderedFields, Json.sortFields, Json.insertField, ordered_backend,
      hdomain, hhttp, hid]

theorem whole_records (publication : Publication) : publication.records.Whole := by
  refine .arr ?_
  rw [List.forall_mem_map]
  exact fun spec _ => whole_recordOf publication.host spec

theorem ordered_records (publication : Publication) :
    publication.records.ordered = .arr (publication.specs.map (written publication.host)) := by
  rw [records, recordsOf, Json.ordered, Json.orderedItems_eq, List.map_map]
  exact congrArg Json.arr (List.map_congr_left fun spec _ => ordered_recordOf publication.host spec)

/-- The records of a publication are read back from their text. -/
theorem read?_encode (publication : Publication) :
    Json.read? publication.encode =
      some (.arr (publication.specs.map (written publication.host))) := by
  rw [encode, Json.read?_compact (whole_records publication), ordered_records]

/-! ### What is read back -/

/-- An element of the records of a host: it has an id of letters, digits and underscores, the name
of a domain, and at least one protocol, each with this host and a port in range. -/
structure IsRecordOf (host : String) (item : Json) : Prop where
  id : ∃ id, item.field? "id" = some (.str id) ∧ id ≠ "" ∧
    ∀ c ∈ id.toList, DomainSpec.isIdChar c = true
  domain : ∃ domain, item.field? "domain" = some (.str domain) ∧ IsHost domain.toList ∧
    domain.toList.getLast? ≠ some '.'
  served : ∃ protocol : Protocol, item.field? protocol.word ≠ none
  backends : ∀ (protocol : Protocol) (backend : Json), item.field? protocol.word = some backend →
    backend.field? "host" = some (.str host) ∧
      ∃ port, backend.field? "port" = some (.int port) ∧ InRange port

theorem field?_written_protocol (host : String) (spec : DomainSpec) (protocol : Protocol) :
    (written host spec).field? protocol.word = (spec.port protocol).map (backend host) := by
  cases spec with
  | mk domain httpPort httpsPort =>
    cases httpPort <;> cases httpsPort <;> cases protocol <;> rfl

theorem field?_written_id (host : String) (spec : DomainSpec) :
    (written host spec).field? "id" = some (.str spec.recordId) := by
  cases spec with
  | mk domain httpPort httpsPort => cases httpPort <;> cases httpsPort <;> rfl

/-- The record of a well-formed spec is one of its host. -/
theorem isRecordOf_written {spec : DomainSpec} (h : spec.WellFormed) (host : String) :
    IsRecordOf host (written host spec) := by
  refine ⟨?_, ?_, ?_, ?_⟩
  · exact ⟨spec.recordId, field?_written_id host spec, h.recordId_ne_empty,
      fun _ => DomainSpec.isIdChar_of_mem_recordId⟩
  · exact ⟨spec.domain, rfl, h.host, h.host.getLast?_ne_dot⟩
  · obtain ⟨protocol, hp⟩ := h.served
    refine ⟨protocol, ?_⟩
    rw [field?_written_protocol]
    simpa using hp
  · intro protocol backend hb
    rw [field?_written_protocol] at hb
    obtain ⟨port, hport, rfl⟩ := Option.map_eq_some_iff.1 hb
    exact ⟨rfl, port, rfl, h.range protocol port hport⟩

end RegistrySync.Publication
