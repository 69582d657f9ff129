/-
The publisher that writes to the registry, a store of keys whose entries may expire.

* `Store.set_same`, `Store.set_other` — setting a key changes this key only;
* `Registry` — the store and how it answers: which keys cannot be set, and why;
* `registryPublisher` — the publisher over a link to the registry.
-/
import RegistrySync.Publication.Record

namespace RegistrySync

/-- Publishes. -/
structure Publisher (ω : Type) where
  publish : Publication → Task ω Unit

/-- A publisher whose world is a part of a larger one. -/
def Publisher.onPart {ω σ : Type} (get : ω → σ) (put : σ → ω → ω) (publisher : Publisher σ) :
    Publisher ω where
  publish publication := (publisher.publish publication).onPart get put

/-- An entry of the registry: its text and after how many seconds it expires, if it does. -/
structure Entry where
  value : String
  expire : Option Int
  deriving DecidableEq, Repr

/-- The entries of the registry by their keys. -/
def Store : Type := String → Option Entry

namespace Store

/-- A store without entries. -/
def empty : Store := fun _ => none

/-- The store after a key has been set. -/
def set (store : Store) (key : String) (entry : Entry) : Store := fun k =>
  if k = key then some entry else store k

@[simp] theorem set_same (store : Store) (key : String) (entry : Entry) :
    store.set key entry key = some entry := by simp [set]

theorem set_other (store : Store) {key k : String} (h : k ≠ key) (entry : Entry) :
    store.set key entry k = store k := by simp [set, h]

end Store

/-- The registry: its entries, and why a key cannot be set at the moment. -/
structure Registry where
  store : Store := Store.empty
  refusal : String → Option Fault := fun _ => none

/-- The registry, and whether the client to it has been made. -/
structure RegistryLink where
  registry : Registry := {}
  connected : Bool := false

namespace Publication

open Journal

/-- Make the client, if it has not been made yet. -/
def connect (settings : Settings) : Task RegistryLink Unit := do
  let link ← Task.ofAct Act.look
  if link.connected then return ()
  Task.ofAct (Act.request (.openRegistry settings.registryHost settings.registryPort
    settings.registryDb settings.registryPassword))
  Task.ofAct (Act.change fun link => { link with connected := true })
  Task.log .debug Source.publisher
    ("Redis client initialized host=" ++ settings.registryHost ++ " port=" ++
      Text.showInt settings.registryPort ++ " db=" ++ Text.showInt settings.registryDb)

/-- Set a key. -/
def setKey (settings : Settings) (key value : String) : Task RegistryLink Unit := do
  connect settings
  Task.ofAct (Act.request (.setKey key value settings.expire))
  let link ← Task.ofAct Act.look
  match link.registry.refusal key with
  | some fault => Task.fail fault
  | none =>
    Task.ofAct (Act.change fun link =>
      let store := link.registry.store.set key ⟨value, settings.expire⟩
      { link with registry := { link.registry with store := store } })

/-- A number that may be missing, as records show it. -/
def shownOption (number : Option Int) : String :=
  match number with
  | some n => Text.showInt n
  | none => "None"

/-- Write the records of a publication. The entry of the key is replaced as a whole. Only
faults of the registry's client are failures to publish. -/
def publish (settings : Settings) (publication : Publication) : Task RegistryLink Unit := do
  let key := recordKey settings publication.host
  match ← (setKey settings key publication.encode).attempt with
  | .error fault =>
    if fault.kind.isRegistry then Task.fail ⟨.writeFailed key fault.symptom, none⟩
    else Task.fail fault
  | .ok () =>
    Task.log .debug Source.publisher
      ("Wrote " ++ key ++ " (" ++ Text.showNat publication.specs.length ++ " domains, expire=" ++
        shownOption settings.expire ++ ")")

/-- The publisher that writes to the registry. -/
def registryPublisher (settings : Settings) : Publisher RegistryLink where
  publish := publish settings

end Publication

end RegistrySync
