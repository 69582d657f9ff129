/-
The publisher that writes to the registry, step by step.

* `run_setKey` — a key is set unless the registry refuses it;
* `run_publish` — one publication makes one attempt to set one key, and a refusal in
  the registry's own words is a failed publication.
-/
import RegistrySync.Proofs.Task
import RegistrySync.Publication.Registry

namespace RegistrySync

/-- The registry after an attempt to set a key: a refused attempt changes nothing. -/
def Registry.attempt (registry : Registry) (key : String) (entry : Entry) : Registry :=
  match registry.refusal key with
  | some _ => registry
  | none => { registry with store := registry.store.set key entry }

@[simp] theorem Registry.attempt_refusal (registry : Registry) (key : String) (entry : Entry) :
    (registry.attempt key entry).refusal = registry.refusal := by
  unfold attempt
  split <;> rfl

theorem Registry.attempt_other (registry : Registry) {key k : String} (h : k ≠ key)
    (entry : Entry) : (registry.attempt key entry).store k = registry.store k := by
  unfold attempt
  split
  · rfl
  · exact Store.set_other _ h entry

/-- Whether the registry refuses keys only in its own words. -/
def Registry.Tame (registry : Registry) : Prop :=
  ∀ key fault, registry.refusal key = some fault → fault.kind.isRegistry = true

namespace Publication

open Journal

variable (settings : Settings)

/-- What making the client does: nothing if it is there, else a request and a record. -/
def connectTrace (link : RegistryLink) : List Event :=
  if link.connected then []
  else
    [.request (.openRegistry settings.registryHost settings.registryPort settings.registryDb
        settings.registryPassword),
      .record ⟨.debug, Source.publisher,
        "Redis client initialized host=" ++ settings.registryHost ++ " port=" ++
          Text.showInt settings.registryPort ++ " db=" ++ Text.showInt settings.registryDb⟩]

/-- A refusal as the result of an attempt. -/
def attempted (refusal : Option Fault) : Except Fault Unit :=
  match refusal with
  | some fault => .error fault
  | none => .ok ()

theorem run_setKey (key value : String) (link : RegistryLink) :
    (setKey settings key value).run link =
      ⟨attempted (link.registry.refusal key),
        ⟨link.registry.attempt key ⟨value, settings.expire⟩, true⟩,
        connectTrace settings link ++ [.request (.setKey key value settings.expire)]⟩ := by
  obtain ⟨⟨store, refusal⟩, connected⟩ := link
  cases connected with
  | true =>
    cases hr : refusal key with
    | none => simp [setKey, connect, hr, attempted, connectTrace, Registry.attempt, Outcome.after]
    | some fault =>
      simp [setKey, connect, hr, attempted, connectTrace, Registry.attempt, Outcome.after]
  | false =>
    cases hr : refusal key with
    | none => simp [setKey, connect, hr, attempted, connectTrace, Registry.attempt, Outcome.after]
    | some fault =>
      simp [setKey, connect, hr, attempted, connectTrace, Registry.attempt, Outcome.after]

/-- What a publication whose key the registry refuses, or does not refuse, ends with. -/
def published (key : String) (refusal : Option Fault) : Except Fault Unit :=
  match refusal with
  | some fault =>
    if fault.kind.isRegistry then .error ⟨.writeFailed key fault.symptom, none⟩ else .error fault
  | none => .ok ()

/-- The record about a key that was set. -/
def publishedNotes (publication : Publication) (refusal : Option Fault) : List Event :=
  match refusal with
  | some _ => []
  | none =>
    [.record ⟨.debug, Source.publisher,
      "Wrote " ++ recordKey settings publication.host ++ " (" ++
        Text.showNat publication.specs.length ++ " domains, expire=" ++
          shownOption settings.expire ++ ")"⟩]

/-- The entry that a publication writes. -/
def entry (publication : Publication) : Entry := ⟨publication.encode, settings.expire⟩

theorem run_publish (publication : Publication) (link : RegistryLink) :
    (publish settings publication).run link =
      ⟨published (recordKey settings publication.host)
          (link.registry.refusal (recordKey settings publication.host)),
        ⟨link.registry.attempt (recordKey settings publication.host) (entry settings publication),
          true⟩,
        connectTrace settings link ++
          .request (.setKey (recordKey settings publication.host) publication.encode
            settings.expire) ::
          publishedNotes settings publication
            (link.registry.refusal (recordKey settings publication.host))⟩ := by
  rw [publish, Task.run_attempt_bind, run_setKey]
  cases link.registry.refusal (recordKey settings publication.host) with
  | none => simp [attempted, published, publishedNotes, entry, Outcome.after]
  | some fault =>
    by_cases hk : fault.kind.isRegistry = true
    · simp [attempted, published, publishedNotes, entry, hk, Outcome.after]
    · simp [attempted, published, publishedNotes, entry, hk, Outcome.after]

/-- A tame registry makes every failed publication one that a cycle handles. -/
theorem kind_of_published {registry : Registry} (ht : registry.Tame) {key : String} {fault : Fault}
    (h : published key (registry.refusal key) = .error fault) : fault.kind = .publishing := by
  cases hr : registry.refusal key with
  | none =>
    rw [hr] at h
    cases h
  | some cause =>
    rw [hr, published, if_pos (ht key cause hr)] at h
    cases h
    rfl

end Publication

end RegistrySync
