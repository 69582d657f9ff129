/-
The inspector that asks the daemon, step by step.

The client to the daemon is made on first use, and making it may fail a number of
times. Each use of the link gives what the daemon answers, unless the client cannot
be made (`DaemonLink.through`), and leaves the link as `DaemonLink.used` says. The
daemon itself never changes its answers.

* `run_fetch`, `run_listRunning` — one use of the link;
* `run_inspect`, `run_enumerate` — what the inspector makes of the answer;
* `isInspection_of_inspected` — an inspection fails only with faults that a cycle
  handles.
-/
import RegistrySync.Inspection.Daemon
import RegistrySync.Proofs.Task

namespace RegistrySync

namespace DaemonLink

/-- Why the client cannot be made at the moment, if it is needed and cannot. -/
def refusal? (link : DaemonLink) : Option String :=
  if link.connected then none else link.daemon.refusals.head?

/-- What a use of the link gives if the daemon would answer `answer`. -/
def through {α : Type} (link : DaemonLink) (answer : Except Fault α) : Except Fault α :=
  match link.refusal? with
  | some reason => .error ⟨.daemonUnavailable ⟨link.daemon.refusalKind, reason⟩, none⟩
  | none => answer

/-- What one use of the link leaves of it: either the client is there from now on, or one of
the refusals has been used up. -/
def used (link : DaemonLink) : DaemonLink :=
  if link.connected then link
  else
    match link.daemon.refusals with
    | _ :: others => { link with daemon := { link.daemon with refusals := others } }
    | [] => { link with connected := true }

theorem through_of_none {α : Type} {link : DaemonLink} (h : link.refusal? = none)
    (answer : Except Fault α) : link.through answer = answer := by
  rw [through, h]

theorem through_of_some {α : Type} {link : DaemonLink} {reason : String}
    (h : link.refusal? = some reason) (answer : Except Fault α) :
    link.through answer =
      .error ⟨.daemonUnavailable ⟨link.daemon.refusalKind, reason⟩, none⟩ := by
  rw [through, h]

theorem used_of_connected {link : DaemonLink} (h : link.connected = true) : link.used = link :=
  if_pos h

theorem used_of_refused {link : DaemonLink} {reason : String} {others : List String}
    (h : link.connected = false) (hnext : link.daemon.refusals = reason :: others) :
    link.used = ⟨{ link.daemon with refusals := others }, false⟩ := by
  simp [used, h, hnext]

theorem used_of_made {link : DaemonLink} (h : link.connected = false)
    (hnone : link.daemon.refusals = []) : link.used = ⟨link.daemon, true⟩ := by
  simp [used, h, hnone]

/-- The answers about containers that are asked for one after another. -/
def answers : DaemonLink → List String → List (String × Except Fault Json)
  | _, [] => []
  | link, name :: rest =>
    (name, link.through (link.daemon.attributes name)) :: link.used.answers rest

end DaemonLink

namespace Inspection

open Journal

variable (settings : Settings)

/-! ### One use of the link -/

/-- What one use of the link does: the client is made if it is not there, and the request is
made if there is a client then. -/
def useTrace (link : DaemonLink) (request : Request) : List Event :=
  if link.connected then [.request request]
  else
    match link.daemon.refusals with
    | _ :: _ => [.request (.openDaemon (clientUrl settings))]
    | [] =>
      [.request (.openDaemon (clientUrl settings)),
        .record ⟨.debug, Source.inspector, "Docker client initialized url=" ++ shownUrl settings⟩,
        .request request]

theorem run_fetch (name : String) (link : DaemonLink) :
    (fetch settings name).run link =
      ⟨link.through (link.daemon.attributes name), link.used,
        useTrace settings link (.fetch name)⟩ := by
  obtain ⟨⟨refusals, refusalKind, running, attributes⟩, connected⟩ := link
  cases connected with
  | true => rfl
  | false => cases refusals <;> rfl

theorem run_listRunning (link : DaemonLink) :
    (listRunning settings).run link =
      ⟨link.through link.daemon.running, link.used, useTrace settings link .listRunning⟩ := by
  obtain ⟨⟨refusals, refusalKind, running, attributes⟩, connected⟩ := link
  cases connected with
  | true => rfl
  | false => cases refusals <;> rfl

/-! ### What the inspector makes of an answer -/

/-- The inspection that an answer about a container gives. -/
def inspected (name : String) (answer : Except Fault Json) : Except Fault Inspection :=
  match answer with
  | .ok attributes => (ofAttributes settings name attributes).2
  | .error fault => .error (fetchFault name fault)

/-- The records about the domain specs in an answer. -/
def inspectedNotes (name : String) (answer : Except Fault Json) : List Event :=
  match answer with
  | .ok attributes => (ofAttributes settings name attributes).1.map .record
  | .error _ => []

/-- The names that an answer about the running containers gives. -/
def listed (answer : Except Fault (List Json)) : Except Fault (List String) :=
  match answer with
  | .ok containers => .ok (listedNames containers)
  | .error fault => .error ⟨.listingFailed fault.symptom, none⟩

/-- The record about the running containers. -/
def listedNotes (answer : Except Fault (List Json)) : List Event :=
  match answer with
  | .ok containers =>
    [.record ⟨.debug, Source.inspector,
      "Found " ++ Text.showNat containers.length ++ " running containers."⟩]
  | .error _ => []

/-- What follows the use of the link is told in records only. -/
theorem requestsOf_inspectedNotes (name : String) (answer : Except Fault Json) :
    requestsOf (inspectedNotes settings name answer) = [] := by
  cases answer with
  | error fault => rfl
  | ok attributes => simp [inspectedNotes, requestsOf]

theorem requestsOf_listedNotes (answer : Except Fault (List Json)) :
    requestsOf (listedNotes answer) = [] := by
  cases answer <;> rfl

theorem run_inspect (name : String) (link : DaemonLink) :
    (inspect settings name).run link =
      ⟨inspected settings name (link.through (link.daemon.attributes name)), link.used,
        useTrace settings link (.fetch name) ++
          inspectedNotes settings name (link.through (link.daemon.attributes name))⟩ := by
  rw [inspect, Task.run_attempt_bind, run_fetch]
  cases link.through (link.daemon.attributes name) with
  | error fault => simp [inspected, inspectedNotes, Outcome.after]
  | ok attributes => simp [inspected, inspectedNotes, Outcome.after]

theorem run_enumerate (link : DaemonLink) :
    (enumerate settings).run link =
      ⟨listed (link.through link.daemon.running), link.used,
        useTrace settings link .listRunning ++
          listedNotes (link.through link.daemon.running)⟩ := by
  rw [enumerate, Task.run_attempt_bind, run_listRunning]
  cases link.through link.daemon.running with
  | error fault => simp [listed, listedNotes, Outcome.after]
  | ok containers => simp [listed, listedNotes, Outcome.after, Except.map]

/-- Whatever the daemon's fault, it is an inspection that failed. -/
theorem isInspection_fetchFault (name : String) (fault : Fault) :
    (fetchFault name fault).kind.isInspection = true := by
  unfold fetchFault
  split
  · rfl
  · split
    · assumption
    · rfl

/-- Attributes that give no inspection are a failed inspection of this container. -/
theorem kind_of_ofAttributes {name : String} {attributes : Json} {fault : Fault}
    (h : (ofAttributes settings name attributes).2 = .error fault) :
    fault.kind = .inspection ∧ fault.container = some name := by
  unfold ofAttributes at h
  split at h
  · cases h
    exact ⟨rfl, rfl⟩
  · simp only at h
    split at h
    · cases h
      exact ⟨rfl, rfl⟩
    · split at h
      · cases h
      · split at h
        · cases h
          exact ⟨rfl, rfl⟩
        · cases h

/-- An inspection fails only with faults that a cycle handles. -/
theorem isInspection_of_inspected {name : String} {answer : Except Fault Json} {fault : Fault}
    (h : inspected settings name answer = .error fault) : fault.kind.isInspection = true := by
  cases answer with
  | error cause =>
    cases h
    exact isInspection_fetchFault name cause
  | ok attributes =>
    rw [(kind_of_ofAttributes settings h).1]
    rfl

/-- The names of listed containers are not empty. -/
theorem ne_empty_of_mem_listed {answer : Except Fault (List Json)} {names : List String}
    (h : listed answer = .ok names) {name : String} (hn : name ∈ names) : name ≠ "" := by
  cases answer with
  | error fault => cases h
  | ok containers =>
    cases h
    have hf := (List.mem_filter.1 hn).2
    rintro rfl
    simp at hf

/-- A failed listing is a fault of its own kind. -/
theorem kind_of_listed {answer : Except Fault (List Json)} {fault : Fault}
    (h : listed answer = .error fault) : fault.kind = .enumeration := by
  cases answer with
  | error cause =>
    cases h
    rfl
  | ok containers => cases h

end Inspection

end RegistrySync
