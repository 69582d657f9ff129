/-
What every step of a cycle leaves: its value, the world, and the trace.

One equation for each step, over any inspector and any publisher. Whatever is
said of cycles elsewhere is read off these equations, so that the code of a step
is opened here and nowhere else.

* `run_merge` — the plan follows from what the enumeration answered (`planOf`);
* `run_refresh` — a container is inspected once, and what follows depends on the
  answer only (`afterInspection`);
* `run_publish` — one publication, and its fault if it is refused;
* `run_cycle` — the plan, the containers in its order, and the closing record.
-/
import RegistrySync.Proofs.Task
import RegistrySync.Reconciler.Basic

namespace RegistrySync.Reconciler

open Journal (Level Record)

variable {ω : Type}

/-- A record of the reconciler. -/
def note (level : Level) (text : String) : Event := .record ⟨level, Journal.Source.reconciler, text⟩

@[simp] theorem run_log (level : Level) (text : String) (world : ω) :
    (log level text : Task ω Unit).run world = ⟨.ok (), world, [note level text]⟩ :=
  Task.run_log ..

@[simp] theorem run_log_bind {β : Type} (level : Level) (text : String) (next : Unit → Task ω β)
    (world : ω) :
    ((log level text : Task ω Unit) >>= next).run world =
      ((next ()).run world).after [note level text] :=
  Task.run_log_bind ..

/-! ### The plan -/

/-- The plan that follows from what the enumeration answered, and the fault that counts if it
failed. A fault of a foreign kind leaves no plan. -/
def planOf (settings : Settings) (names : List String) (listing : Except Fault (List String)) :
    Except Fault (Plan × List Fault) :=
  if settings.enumerate then
    match listing with
    | .ok discovered => .ok (explicitPlan names ++ discoveredPlan names discovered, [])
    | .error fault =>
      if fault.kind.isReported then .ok (explicitPlan names, [enumerationFault fault])
      else .error fault
  else .ok (explicitPlan names, [])

/-- The notice of an enumeration that failed. -/
def listingNotes (listing : Except Fault (List String)) : List Event :=
  match listing with
  | .ok _ => []
  | .error fault =>
    if fault.kind.isReported then
      [note .error ("Failed to enumerate containers; continuing with explicit ones only: " ++
        (enumerationFault fault).message)]
    else []

@[simp] theorem requestsOf_listingNotes (listing : Except Fault (List String)) :
    requestsOf (listingNotes listing) = [] := by
  unfold listingNotes
  split
  · rfl
  · split <;> rfl

theorem planOf_alone {settings : Settings} (h : settings.enumerate = false) (names : List String)
    (listing : Except Fault (List String)) :
    planOf settings names listing = .ok (explicitPlan names, []) := by
  simp [planOf, h]

theorem run_merge_alone {r : Reconciler ω} (h : r.settings.enumerate = false) (world : ω) :
    r.merge.run world = ⟨.ok (explicitPlan r.names, []), world, []⟩ := by
  simp [merge, h]

theorem run_merge {r : Reconciler ω} (h : r.settings.enumerate = true) (world : ω) :
    r.merge.run world =
      ⟨planOf r.settings r.names (r.inspector.enumerate.run world).value,
        (r.inspector.enumerate.run world).world,
        (r.inspector.enumerate.run world).trace ++
          listingNotes (r.inspector.enumerate.run world).value⟩ := by
  cases hl : (r.inspector.enumerate.run world).value with
  | ok discovered => simp [merge, h, hl, planOf, listingNotes, Outcome.after]
  | error fault =>
    by_cases hk : fault.kind.isReported = true
    · simp [merge, h, hl, hk, planOf, listingNotes, Outcome.after, Except.map]
    · simp [merge, h, hl, hk, planOf, listingNotes, Outcome.after]

/-- The plan follows from the listing, be it asked for or not. -/
theorem value_merge (r : Reconciler ω) (world : ω) :
    (r.merge.run world).value =
      planOf r.settings r.names (r.inspector.enumerate.run world).value := by
  cases hs : r.settings.enumerate with
  | true => rw [run_merge hs]
  | false => rw [run_merge_alone hs, planOf_alone hs]

/-! ### One container -/

/-- The notice of an inspection that failed. -/
def inspectionNote (settings : Settings) (name : String) (pending : Pending) (fault : Fault) :
    Event :=
  note (settings.missingContainer.escalation pending.explicit).level
    ("Failed to inspect " ++ pending.origin ++ " container " ++ name ++ " (missing-container=" ++
      settings.missingContainer.word ++ "): " ++ (fault.about name).message)

/-- The notice of a container that declares no domains. -/
def undeclaredNote (settings : Settings) (name : String) (pending : Pending) : Event :=
  note (settings.missingVariable.escalation pending.explicit).level
    ("No environment variable " ++ settings.envVar ++ " on " ++ pending.origin ++ " container " ++
      name ++ " (missing-envvar=" ++ settings.missingVariable.word ++ ")")

/-- The announcement of what a wet run would write. -/
def announcement (settings : Settings) (publication : Publication) : Event :=
  note .info ("Dry run; would publish " ++ recordKey settings publication.host ++ " = " ++
    publication.encode)

/-- The notice of what came of a publication. -/
def publicationNotes (name : String) (pending : Pending) (publication : Publication)
    (published : Except Fault Unit) : List Event :=
  match published with
  | .ok () =>
    [note .info ("Published " ++ Text.showNat publication.specs.length ++ " domain(s) for " ++
      name ++ ": " ++ shownDomains publication)]
  | .error fault =>
    if fault.kind = .publishing then
      [note .error ("Failed to publish " ++ pending.origin ++ " container " ++ name ++ ": " ++
        (fault.about name).message)]
    else []

/-- The faults that count when a container cannot be inspected. -/
def inspectionFaults (settings : Settings) (name : String) (pending : Pending) (fault : Fault) :
    List Fault :=
  if (settings.missingContainer.escalation pending.explicit).report then [fault.about name] else []

/-- The faults that count when a container declares no domains. -/
def undeclaredFaults (settings : Settings) (name : String) (pending : Pending) : List Fault :=
  if (settings.missingVariable.escalation pending.explicit).report then
    [⟨.variableMissing settings.envVar, some name⟩]
  else []

/-- The faults that count after a publication; a fault of a foreign kind ends the cycle. -/
def publicationFaults (name : String) (published : Except Fault Unit) :
    Except Fault (List Fault) :=
  match published with
  | .ok () => .ok []
  | .error fault => if fault.kind = .publishing then .ok [fault.about name] else .error fault

/-- A publication that fails as publications do never ends the cycle. -/
theorem publicationFaults_of_handled {published : Except Fault Unit}
    (h : ∀ fault, published = .error fault → fault.kind = .publishing) (name : String) :
    ∃ faults, publicationFaults name published = .ok faults := by
  cases published with
  | ok _ => exact ⟨[], rfl⟩
  | error fault => exact ⟨[fault.about name], if_pos (h fault rfl)⟩

@[simp] theorem requestsOf_publicationNotes (name : String) (pending : Pending)
    (publication : Publication) (published : Except Fault Unit) :
    requestsOf (publicationNotes name pending publication published) = [] := by
  unfold publicationNotes
  split
  · rfl
  · split <;> rfl

theorem run_onInspectionFault (r : Reconciler ω) (name : String) (pending : Pending)
    (fault : Fault) (world : ω) :
    (r.onInspectionFault name pending fault).run world =
      ⟨.ok (inspectionFaults r.settings name pending fault), world,
        [inspectionNote r.settings name pending fault]⟩ := by
  simp [onInspectionFault, inspectionFaults, inspectionNote, Except.map]

theorem run_onUndeclared (r : Reconciler ω) (name : String) (pending : Pending) (world : ω) :
    (r.onUndeclared name pending).run world =
      ⟨.ok (undeclaredFaults r.settings name pending), world,
        [undeclaredNote r.settings name pending]⟩ := by
  simp [onUndeclared, undeclaredFaults, undeclaredNote, Except.map]

theorem run_announce (r : Reconciler ω) (publication : Publication) (world : ω) :
    (r.announce publication).run world =
      ⟨.ok [], world, [announcement r.settings publication]⟩ := by
  simp [announce, announcement, Except.map]

theorem run_publish (r : Reconciler ω) (name : String) (pending : Pending)
    (publication : Publication) (world : ω) :
    (r.publish name pending publication).run world =
      ⟨publicationFaults name ((r.publisher.publish publication).run world).value,
        ((r.publisher.publish publication).run world).world,
        ((r.publisher.publish publication).run world).trace ++
          publicationNotes name pending publication
            ((r.publisher.publish publication).run world).value⟩ := by
  cases hp : ((r.publisher.publish publication).run world).value with
  | ok _ => simp [publish, hp, publicationFaults, publicationNotes, Outcome.after, Except.map]
  | error fault =>
    by_cases hk : fault.kind = .publishing
    · simp [publish, hp, hk, publicationFaults, publicationNotes, Outcome.after, Except.map]
    · simp [publish, hp, hk, publicationFaults, publicationNotes, Outcome.after]

/-- What is done about a container once its inspection has been answered. -/
def afterInspection (r : Reconciler ω) (name : String) (pending : Pending) :
    Except Fault Inspection → Task ω (List Fault)
  | .error fault =>
    if handlesInspection fault then r.onInspectionFault name pending fault else Task.fail fault
  | .ok inspection =>
    if !inspection.declared then r.onUndeclared name pending
    else if r.settings.dryRun then r.announce (.ofInspection inspection)
    else r.publish name pending (.ofInspection inspection)

/-- The notice that a container is looked at. -/
def refreshNote (name : String) : Event := note .info ("Refreshing beachhead config for " ++ name)

theorem run_refresh (r : Reconciler ω) (name : String) (pending : Pending) (world : ω) :
    (r.refresh name pending).run world =
      ((r.afterInspection name pending ((r.inspector.inspect pending.value).run world).value).run
        ((r.inspector.inspect pending.value).run world).world).after
          (refreshNote name :: ((r.inspector.inspect pending.value).run world).trace) := by
  simp only [refresh, run_log_bind, Task.run_attempt_bind, Outcome.after_after]
  cases ((r.inspector.inspect pending.value).run world).value <;> rfl

/-! ### A cycle -/

@[simp] theorem run_refreshAll_nil (r : Reconciler ω) (world : ω) :
    (r.refreshAll []).run world = ⟨.ok [], world, []⟩ := by
  simp [refreshAll]

/-- The containers behind one whose refresh ended with a value. -/
theorem run_refreshAll_cons {r : Reconciler ω} {name : String} {pending : Pending} {world : ω}
    {first : List Fault} (h : ((r.refresh name pending).run world).value = .ok first)
    (rest : Plan) :
    (r.refreshAll ((name, pending) :: rest)).run world =
      ⟨((r.refreshAll rest).run ((r.refresh name pending).run world).world).value.map (first ++ ·),
        ((r.refreshAll rest).run ((r.refresh name pending).run world).world).world,
        ((r.refresh name pending).run world).trace ++
          ((r.refreshAll rest).run ((r.refresh name pending).run world).world).trace⟩ := by
  rw [refreshAll, Task.run_bind_value h]
  simp [Outcome.after]

/-- A refresh that ended with a fault ends the cycle. -/
theorem run_refreshAll_fault {r : Reconciler ω} {name : String} {pending : Pending} {world : ω}
    {fault : Fault} (h : ((r.refresh name pending).run world).value = .error fault)
    (rest : Plan) :
    (r.refreshAll ((name, pending) :: rest)).run world =
      ⟨.error fault, ((r.refresh name pending).run world).world,
        ((r.refresh name pending).run world).trace⟩ := by
  rw [refreshAll, Task.run_bind_error h]

/-- The notice of a cycle without containers. -/
def emptyNotes (plan : Plan) : List Event :=
  if plan.isEmpty then [note .warning "No containers to refresh"] else []

/-- The notice that a cycle is over. -/
def closingNotes (plan : Plan) (faults : Except Fault (List Fault)) : List Event :=
  match faults with
  | .ok faults =>
    [note .debug ("Cycle finished containers=" ++ Text.showNat plan.length ++ " errors=" ++
      Text.showNat faults.length)]
  | .error _ => []

@[simp] theorem requestsOf_emptyNotes (plan : Plan) : requestsOf (emptyNotes plan) = [] := by
  unfold emptyNotes
  split <;> rfl

@[simp] theorem requestsOf_closingNotes (plan : Plan) (faults : Except Fault (List Fault)) :
    requestsOf (closingNotes plan faults) = [] := by
  cases faults <;> rfl

/-- A cycle whose plan could be made. -/
theorem run_cycle {r : Reconciler ω} {world : ω} {plan : Plan} {early : List Fault}
    (h : (r.merge.run world).value = .ok (plan, early)) :
    r.cycle.run world =
      ⟨((r.refreshAll plan).run (r.merge.run world).world).value.map (early ++ ·),
        ((r.refreshAll plan).run (r.merge.run world).world).world,
        (r.merge.run world).trace ++ emptyNotes plan ++
          ((r.refreshAll plan).run (r.merge.run world).world).trace ++
            closingNotes plan
              (((r.refreshAll plan).run (r.merge.run world).world).value.map (early ++ ·))⟩ := by
  rw [cycle, Task.run_bind_value h]
  cases hf : ((r.refreshAll plan).run (r.merge.run world).world).value with
  | ok faults =>
    by_cases hp : plan.isEmpty = true
    · simp [hp, Task.run_bind_value hf, emptyNotes, closingNotes, Outcome.after, Except.map]
    · simp [hp, Task.run_bind_value hf, emptyNotes, closingNotes, Outcome.after, Except.map]
  | error fault =>
    by_cases hp : plan.isEmpty = true
    · simp [hp, Task.run_bind_error hf, emptyNotes, closingNotes, Outcome.after, Except.map]
    · simp [hp, Task.run_bind_error hf, emptyNotes, closingNotes, Outcome.after, Except.map]

/-- Without a plan there is no cycle. -/
theorem run_cycle_fault {r : Reconciler ω} {world : ω} {fault : Fault}
    (h : (r.merge.run world).value = .error fault) :
    r.cycle.run world =
      ⟨.error fault, (r.merge.run world).world, (r.merge.run world).trace⟩ := by
  rw [cycle, Task.run_bind_error h]

end RegistrySync.Reconciler
