/-
The registry behind the publications of a cycle.

A publication that succeeds replaces the entry of its host's key as a whole, and one that fails
leaves the store alone:

* `Store.put`, `foldl_put_apply` — one publication after another: a key holds what the last one
  wrote that succeeded under it;
* `foldl_put_perm` — if those that succeed have distinct hosts, their order does not count;
* `Registering` — collaborators that write to a registry which the inspector leaves alone;
* `cycle_puts` — the calls to publish in a cycle, one after another, make the store behind it.
-/
import RegistrySync.Proofs.Publication.Steps
import RegistrySync.Proofs.Reconciler.Contribution

namespace RegistrySync

variable {ω α : Type}

/-! ### Stores -/

/-- The store after a publication: if it succeeds, the entry of the host's key is replaced. -/
def Store.put (settings : Settings) (published : Publication → Except Fault Unit) (store : Store)
    (publication : Publication) : Store :=
  match published publication with
  | .ok () => store.set (recordKey settings publication.host) (publication.entry settings)
  | .error _ => store

/-- The publications that succeed, in order. -/
def successes (published : Publication → Except Fault Unit) (publications : List Publication) :
    List Publication :=
  publications.filter fun publication => (published publication).isOk

/-- The publications that succeed under a key, in order. -/
def writersOf (settings : Settings) (published : Publication → Except Fault Unit) (key : String)
    (publications : List Publication) : List Publication :=
  (successes published publications).filter fun publication =>
    recordKey settings publication.host = key

section

variable {settings : Settings} {published : Publication → Except Fault Unit}

theorem writersOf_cons (key : String) (publication : Publication) (rest : List Publication) :
    writersOf settings published key (publication :: rest) =
      if (published publication).isOk ∧ recordKey settings publication.host = key then
        publication :: writersOf settings published key rest
      else writersOf settings published key rest := by
  by_cases hok : (published publication).isOk = true
  · by_cases hkey : recordKey settings publication.host = key
    · simp [writersOf, successes, hok, hkey]
    · simp [writersOf, successes, hok, hkey]
  · simp [writersOf, successes, hok]

/-- What a key holds after one publication. -/
theorem put_apply (store : Store) (publication : Publication) (key : String) :
    store.put settings published publication key =
      if (published publication).isOk ∧ recordKey settings publication.host = key then
        some (publication.entry settings)
      else store key := by
  unfold Store.put
  cases hp : published publication with
  | error fault => simp [Except.isOk, Except.toBool]
  | ok _ =>
    by_cases hkey : recordKey settings publication.host = key
    · subst hkey
      simp [Except.isOk, Except.toBool]
    · simp [Store.set_other _ (Ne.symm hkey), Except.isOk, Except.toBool, hkey]

/-- Publications one after another leave under a key what the last of them wrote that succeeded
there, or what was there before. -/
theorem foldl_put_apply (publications : List Publication) (store : Store) (key : String) :
    publications.foldl (Store.put settings published) store key =
      match (writersOf settings published key publications).getLast? with
      | some publication => some (publication.entry settings)
      | none => store key := by
  induction publications generalizing store with
  | nil => rfl
  | cons publication rest ih =>
    rw [List.foldl_cons, ih, writersOf_cons, put_apply]
    by_cases hp : (published publication).isOk ∧ recordKey settings publication.host = key
    · -- The first one counts only if no other one comes under the same key.
      rw [if_pos hp, if_pos hp, List.getLast?_cons]
      cases (writersOf settings published key rest).getLast? <;> rfl
    · rw [if_neg hp, if_neg hp]

/-- Of publications for distinct hosts, those that succeed have distinct hosts. -/
theorem nodup_hosts_successes {publications : List Publication}
    (h : (publications.map (·.host)).Nodup) :
    ((successes published publications).map (·.host)).Nodup :=
  h.sublist (List.filter_sublist.map _)

/-- Publications that succeed for distinct hosts succeed at most once under each key. -/
theorem length_writersOf_le {publications : List Publication}
    (h : ((successes published publications).map (·.host)).Nodup) (key : String) :
    (writersOf settings published key publications).length ≤ 1 := by
  have hhosts : ((writersOf settings published key publications).map (·.host)).Nodup :=
    h.sublist (List.filter_sublist.map _)
  have hkeys : ∀ publication ∈ writersOf settings published key publications,
      recordKey settings publication.host = key := by
    intro publication hm
    simpa using (List.mem_filter.1 hm).2
  match hw : writersOf settings published key publications with
  | [] => exact Nat.zero_le _
  | [_] => exact Nat.le_refl _
  | first :: second :: rest =>
    rw [hw] at hhosts hkeys
    -- Under the same prefix, the hosts of two publications under one key are the same.
    have hsame : first.host = second.host :=
      (String.append_right_inj _).1 ((hkeys first (by simp)).trans (hkeys second (by simp)).symm)
    simp [hsame] at hhosts

/-- Publications that succeed for distinct hosts leave the same store in any order. -/
theorem foldl_put_perm {a b : List Publication} (hperm : a.Perm b)
    (h : ((successes published a).map (·.host)).Nodup) (store : Store) :
    a.foldl (Store.put settings published) store =
      b.foldl (Store.put settings published) store := by
  funext key
  have hwriters : (writersOf settings published key a).Perm (writersOf settings published key b) :=
    (hperm.filter _).filter _
  have hlength : (writersOf settings published key a).length ≤ 1 := length_writersOf_le h key
  have hlast : writersOf settings published key a = writersOf settings published key b := by
    cases hw : writersOf settings published key a with
    | nil => exact (hw ▸ hwriters).nil_eq
    | cons first rest =>
      have hrest : rest = [] := by simpa [hw] using hlength
      subst hrest
      exact List.singleton_perm.1 (hw ▸ hwriters)
  rw [foldl_put_apply, foldl_put_apply, hlast]

end

/-! ### Publications in a trace -/

/-- The publications that a trace asks for, in order. -/
def publicationsIn (trace : List Event) : List Publication :=
  (callsOf trace).filterMap Request.published?

@[simp] theorem publicationsIn_append (a b : List Event) :
    publicationsIn (a ++ b) = publicationsIn a ++ publicationsIn b := by
  simp [publicationsIn]

/-- The publications in a trace, one after another, lead from the store in one world to the store
in the other. -/
def Puts (settings : Settings) (published : Publication → Except Fault Unit)
    (link : ω → RegistryLink) (before : ω) (trace : List Event) (after : ω) : Prop :=
  (link after).registry.store =
    (publicationsIn trace).foldl (Store.put settings published) (link before).registry.store

section

variable {settings : Settings} {published : Publication → Except Fault Unit}
  {link : ω → RegistryLink} {before between after : ω}

/-- Traces one after the other. -/
theorem Puts.append {first second : List Event}
    (hf : Puts settings published link before first between)
    (hs : Puts settings published link between second after) :
    Puts settings published link before (first ++ second) after := by
  rw [Puts, publicationsIn_append, List.foldl_append, ← hf]
  exact hs

/-- A trace that asks for no publication, with the link left alone. -/
theorem Puts.of_idle {trace : List Event} (hl : link after = link before)
    (ht : publicationsIn trace = []) : Puts settings published link before trace after := by
  rw [Puts, hl, ht, List.foldl_nil]

end

/-! ### A registry in a part of the world -/

namespace Reconciler

/-- The notices of a publication ask for none. -/
theorem publicationsIn_publicationNotes (name : String) (pending : Pending)
    (publication : Publication) (result : Except Fault Unit) :
    publicationsIn (publicationNotes name pending publication result) = [] := by
  rw [publicationsIn, callsOf_publicationNotes, List.filterMap_nil]

/-- Collaborators of which the publisher is the one that writes to the registry, over a link in a
part of the world that the inspector leaves alone. -/
structure Registering (settings : Settings) (I : ω → Prop) (link : ω → RegistryLink)
    (relink : RegistryLink → ω → ω) (inspector : Inspector ω) (publisher : Publisher ω) :
    Prop where
  publisher : publisher = (Publication.registryPublisher settings).onPart link relink
  link_relink : ∀ new world, link (relink new world) = new
  enumerate : ∀ world, I world → link (inspector.enumerate.run world).world = link world
  inspect : ∀ name world, I world →
    link ((inspector.inspect name).run world).world = link world

section

variable {I : ω → Prop} {link : ω → RegistryLink} {relink : RegistryLink → ω → ω}
  {inspector : Inspector ω} {publisher : Publisher ω} {listing : Except Fault (List String)}
  {inspected : String → Except Fault Inspection} {published : Publication → Except Fault Unit}
  {r : Reconciler ω}
  (hs : Steady I inspector publisher listing inspected published)
  (hg : Registering r.settings I link relink inspector publisher)

include hs hg

/-- A publication by the registry's publisher replaces the entry of its key if it succeeds. -/
theorem publish_put (publication : Publication) {world : ω} (hw : I world) :
    (link ((publisher.publish publication).run world).world).registry.store =
      (link world).registry.store.put r.settings published publication := by
  obtain ⟨hv, -, -⟩ := hs.publish publication world hw
  rw [hg.publisher] at hv ⊢
  have hrun := Publication.run_publish r.settings publication (link world)
  have hvalue : published publication = Publication.published
      (recordKey r.settings publication.host)
      ((link world).registry.refusal (recordKey r.settings publication.host)) :=
    hv.symm.trans (congrArg Outcome.value hrun)
  have hworld : link ((((Publication.registryPublisher r.settings).onPart link relink).publish
      publication).run world).world =
      ((Publication.publish r.settings publication).run (link world)).world :=
    hg.link_relink ..
  rw [hworld, hrun, Store.put, hvalue, Registry.attempt]
  -- The publication succeeds exactly if the key is not refused.
  cases (link world).registry.refusal (recordKey r.settings publication.host) with
  | none => rfl
  | some fault =>
    rw [Publication.published]
    split <;> rfl

/-- One publication, which the cycle reports. -/
theorem publish_puts (hp : r.publisher = publisher.heard) (name : String) (pending : Pending)
    (publication : Publication) {world : ω} (hw : I world) :
    let outcome := (r.publish name pending publication).run world
    Puts r.settings published link world outcome.trace outcome.world := by
  obtain ⟨-, -, hc⟩ := hs.publish_heard publication world hw
  have hone : publicationsIn ((publisher.heard.publish publication).run world).trace =
      [publication] := by
    rw [publicationsIn, hc]
    rfl
  intro outcome
  have hrun : outcome = _ := run_publish r name pending publication world
  rw [hp] at hrun
  rw [hrun, Puts, publicationsIn_append, hone, publicationsIn_publicationNotes]
  exact publish_put hs hg publication hw

/-- Whatever an inspection answered, what follows puts its publications. -/
theorem afterInspection_puts (hp : r.publisher = publisher.heard) (name : String)
    (pending : Pending) (answer : Except Fault Inspection) {world : ω} (hw : I world) :
    let outcome := (r.afterInspection name pending answer).run world
    Puts r.settings published link world outcome.trace outcome.world := by
  cases answer with
  | error fault =>
    rw [afterInspection]
    split
    · rw [run_onInspectionFault]
      exact .of_idle rfl rfl
    · exact .of_idle rfl rfl
  | ok inspection =>
    rw [afterInspection]
    split
    · rw [run_onUndeclared]
      exact .of_idle rfl rfl
    · split
      · rw [run_announce]
        exact .of_idle rfl rfl
      · -- Everything but this writes records at most.
        exact publish_puts hs hg hp name pending _ hw

/-- One container puts its publications. -/
theorem refresh_puts (hi : r.inspector = inspector.heard) (hp : r.publisher = publisher.heard)
    (name : String) (pending : Pending) {world : ω} (hw : I world) :
    let outcome := (r.refresh name pending).run world
    Puts r.settings published link world outcome.trace outcome.world := by
  obtain ⟨-, hI, hc⟩ := hs.inspect_heard pending.value world hw
  have hidle : Puts r.settings published link world
      (refreshNote name :: ((inspector.heard.inspect pending.value).run world).trace)
      ((inspector.heard.inspect pending.value).run world).world := by
    refine .of_idle ?_ ?_
    · rw [Inspector.run_heard_inspect]
      exact hg.inspect pending.value world hw
    · rw [publicationsIn, refreshNote, callsOf_note, hc]
      rfl
  rw [run_refresh, hi]
  exact hidle.append (afterInspection_puts hs hg hp name pending _ hI)

/-- All containers of a plan put their publications, in the order of the plan. -/
theorem refreshAll_puts (hi : r.inspector = inspector.heard) (hp : r.publisher = publisher.heard)
    (explicit : String → Bool) (names : List String) {world : ω} (hw : I world) :
    let outcome :=
      (r.refreshAll (names.map fun name => (name, ⟨explicit name, name⟩))).run world
    Puts r.settings published link world outcome.trace outcome.world := by
  induction names generalizing world with
  | nil =>
    rw [List.map_nil, run_refreshAll_nil]
    exact .of_idle rfl rfl
  | cons name rest ih =>
    -- A container never ends the cycle, so the others put theirs on top.
    obtain ⟨hv, hI, -⟩ := refresh_answers hs hi hp name (explicit name) world hw
    rw [List.map_cons, run_refreshAll_cons hv]
    exact (refresh_puts hs hg hi hp name ⟨explicit name, name⟩ hw).append (ih hI)

theorem merge_puts (hi : r.inspector = inspector.heard) {world : ω} (hw : I world) :
    Puts r.settings published link world (r.merge.run world).trace (r.merge.run world).world := by
  obtain ⟨-, -, hc⟩ := merge_answers hs hi world hw
  refine .of_idle ?_ ?_
  · cases he : r.settings.enumerate with
    | false => rw [run_merge_alone he]
    | true =>
      rw [run_merge he, hi, Inspector.run_heard_enumerate]
      exact hg.enumerate world hw
  · rw [publicationsIn, hc]
    split <;> rfl

/-- A cycle puts its publications. -/
theorem cycle_puts (hi : r.inspector = inspector.heard) (hp : r.publisher = publisher.heard)
    {world : ω} (hw : I world) :
    Puts r.settings published link world (r.cycle.run world).trace (r.cycle.run world).world := by
  have hmerge := merge_puts hs hg hi hw
  obtain ⟨hv, hI, -⟩ := merge_answers hs hi world hw
  rw [planOf_eq] at hv
  cases he : earlyFaults r.settings listing with
  | error fault =>
    rw [he] at hv
    rw [run_cycle_fault hv]
    exact hmerge
  | ok early =>
    rw [he] at hv
    rw [run_cycle hv]
    have hplan := refreshAll_puts hs hg hi hp (fun name => decide (name ∈ r.names))
      (mergedNames r.settings r.names listing) hI
    -- The records around the plan publish nothing.
    have hempty : publicationsIn (emptyNotes
        ((mergedNames r.settings r.names listing).map (entryOf r.names))) = [] := by
      rw [publicationsIn, callsOf_emptyNotes, List.filterMap_nil]
    refine ((hmerge.append (.of_idle rfl hempty)).append hplan).append (.of_idle rfl ?_)
    rw [publicationsIn, callsOf_closingNotes, List.filterMap_nil]

end

end Reconciler

end RegistrySync
