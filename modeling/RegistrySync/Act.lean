/-
Acts: what the program does to the world around it.

An act takes a world and leaves a value, another world and a trace of what it did: the
records it wrote and the requests it made of its collaborators, in order.

* `Act.run_bind` — the traces of acts done in turn are appended;
* `Task` — an act that may end with a fault;
* `Task.run_bind_ok`, `Task.run_bind_error` — what was done before a fault stays done;
* `Task.run_attempt` — a fault can be taken as a value.

Design notes: a trace holds only what the act itself did, not what was done before it. An act
is a structure and not a bare function, so that running it is a step of its own in proofs.
-/
import RegistrySync.Fault
import RegistrySync.Journal.Record

namespace RegistrySync

open Journal (Level Record)

/-- A request to a collaborator. -/
inductive Request where
  /-- Ask an inspector for names, or about one container. -/
  | enumerate
  | inspect (name : String)
  /-- Ask a publisher to publish. -/
  | publish (host : String) (specs : List DomainSpec)
  /-- Make the daemon's client, list what runs, and look at one container. -/
  | openDaemon (url : Option String)
  | listRunning
  | fetch (name : String)
  /-- Make the registry's client, and set a key. -/
  | openRegistry (host : String) (port db : Int) (password : Option String)
  | setKey (key value : String) (expire : Option Int)
  /-- Wait for the next cycle. -/
  | wait (seconds : Int)
  deriving DecidableEq, Repr

/-- Something that was done. -/
inductive Event where
  | record (record : Record)
  | request (request : Request)
  deriving DecidableEq, Repr

/-- The records of a trace, in order. -/
def recordsOf (trace : List Event) : List Record :=
  trace.filterMap fun
    | .record record => some record
    | .request _ => none

/-- The requests of a trace, in order. -/
def requestsOf (trace : List Event) : List Request :=
  trace.filterMap fun
    | .record _ => none
    | .request request => some request

@[simp] theorem recordsOf_append (a b : List Event) :
    recordsOf (a ++ b) = recordsOf a ++ recordsOf b := by
  simp [recordsOf]

@[simp] theorem requestsOf_append (a b : List Event) :
    requestsOf (a ++ b) = requestsOf a ++ requestsOf b := by
  simp [requestsOf]

/-- What an act leaves: a value, a world, and the trace of what it did. -/
structure Outcome (ω α : Type) where
  value : α
  world : ω
  trace : List Event

/-- Something that can be done in a world. -/
@[ext]
structure Act (ω α : Type) where
  run : ω → Outcome ω α

namespace Act

variable {ω σ α β : Type}

/-- Do nothing. -/
def pure (value : α) : Act ω α := ⟨fun world => ⟨value, world, []⟩⟩

/-- Do one act and then another that depends on its value. -/
def bind (act : Act ω α) (next : α → Act ω β) : Act ω β :=
  ⟨fun world =>
    let first := act.run world
    let second := (next first.value).run first.world
    ⟨second.value, second.world, first.trace ++ second.trace⟩⟩

instance : Monad (Act ω) where
  pure := pure
  bind := bind

/-- Look at the world. -/
def look : Act ω ω := ⟨fun world => ⟨world, world, []⟩⟩

/-- Change the world. -/
def change (f : ω → ω) : Act ω Unit := ⟨fun world => ⟨(), f world, []⟩⟩

/-- Write records, one after another. -/
def logAll (records : List Record) : Act ω Unit :=
  ⟨fun world => ⟨(), world, records.map .record⟩⟩

/-- Write a record. -/
def log (level : Level) (source text : String) : Act ω Unit := logAll [⟨level, source, text⟩]

/-- Make a request; what comes of it is another act's matter. -/
def request (request : Request) : Act ω Unit := ⟨fun world => ⟨(), world, [.request request]⟩⟩

/-- An act on a part of the world. -/
def onPart (get : ω → σ) (put : σ → ω → ω) (act : Act σ α) : Act ω α :=
  ⟨fun world =>
    let outcome := act.run (get world)
    ⟨outcome.value, put outcome.world world, outcome.trace⟩⟩

/-! ### What an act leaves -/

@[simp] theorem run_pure (value : α) (world : ω) :
    (Pure.pure value : Act ω α).run world = ⟨value, world, []⟩ := rfl

/-- The traces of acts done in turn are appended. -/
@[simp] theorem run_bind (act : Act ω α) (next : α → Act ω β) (world : ω) :
    (act >>= next).run world =
      ⟨((next (act.run world).value).run (act.run world).world).value,
        ((next (act.run world).value).run (act.run world).world).world,
        (act.run world).trace ++ ((next (act.run world).value).run (act.run world).world).trace⟩ :=
  rfl

@[simp] theorem run_look (world : ω) : look.run world = ⟨world, world, []⟩ := rfl

@[simp] theorem run_change (f : ω → ω) (world : ω) :
    (change f).run world = ⟨(), f world, []⟩ := rfl

@[simp] theorem run_logAll (records : List Record) (world : ω) :
    (logAll records).run world = ⟨(), world, records.map .record⟩ := rfl

@[simp] theorem run_request (r : Request) (world : ω) :
    (request r).run world = ⟨(), world, [.request r]⟩ := rfl

instance : LawfulMonad (Act ω) :=
  LawfulMonad.mk' (Act ω)
    (fun act => by
      apply Act.ext
      funext world
      show (⟨_, _, _ ++ []⟩ : Outcome ω _) = _
      rw [List.append_nil]
      rfl)
    (fun _ _ => rfl)
    (fun act next last => by
      apply Act.ext
      funext world
      simp [List.append_assoc])

end Act

/-- An act that may end with a fault. -/
@[ext]
structure Task (ω α : Type) where
  act : Act ω (Except Fault α)

namespace Task

variable {ω σ α β : Type}

/-- Do a task in a world. -/
def run (task : Task ω α) (world : ω) : Outcome ω (Except Fault α) := task.act.run world

/-- A task that ends with the fault or the value of a result. -/
def ofExcept (result : Except Fault α) : Task ω α := ⟨pure result⟩

/-- Do one task and then, unless it ends with a fault, another that depends on its value. -/
def bind (task : Task ω α) (next : α → Task ω β) : Task ω β :=
  ⟨task.act >>= fun
    | .ok value => (next value).act
    | .error fault => pure (.error fault)⟩

instance : Monad (Task ω) where
  pure value := ofExcept (.ok value)
  bind := bind

/-- End with a fault. -/
def fail (fault : Fault) : Task ω α := ofExcept (.error fault)

/-- An act as a task that ends without a fault. -/
def ofAct (act : Act ω α) : Task ω α := ⟨act >>= fun value => pure (.ok value)⟩

/-- Do a task and take its fault as a value. -/
def attempt (task : Task ω α) : Task ω (Except Fault α) := ofAct task.act

/-- Write a record. -/
def log (level : Level) (source text : String) : Task ω Unit := ofAct (Act.log level source text)

/-- A task on a part of the world. -/
def onPart (get : ω → σ) (put : σ → ω → ω) (task : Task σ α) : Task ω α :=
  ⟨task.act.onPart get put⟩

/-! ### What a task leaves -/

@[simp] theorem run_ofExcept (result : Except Fault α) (world : ω) :
    (ofExcept result).run world = ⟨result, world, []⟩ := rfl

@[simp] theorem run_pure (value : α) (world : ω) :
    (pure value : Task ω α).run world = ⟨.ok value, world, []⟩ := rfl

@[simp] theorem run_fail (fault : Fault) (world : ω) :
    (fail fault : Task ω α).run world = ⟨.error fault, world, []⟩ := rfl

/-- A task that goes on leaves what both parts leave. -/
theorem run_bind_ok {task : Task ω α} {world : ω} {value : α}
    (h : (task.run world).value = .ok value) (next : α → Task ω β) :
    (task >>= next).run world =
      ⟨((next value).run (task.run world).world).value,
        ((next value).run (task.run world).world).world,
        (task.run world).trace ++ ((next value).run (task.run world).world).trace⟩ := by
  show (task.bind next).act.run world = _
  unfold run at h
  rw [bind, Act.run_bind, h]
  rfl

/-- A fault ends a task; what was done before it stays done. -/
theorem run_bind_error {task : Task ω α} {world : ω} {fault : Fault}
    (h : (task.run world).value = .error fault) (next : α → Task ω β) :
    (task >>= next).run world =
      ⟨.error fault, (task.run world).world, (task.run world).trace⟩ := by
  show (task.bind next).act.run world = _
  unfold run at h
  rw [bind, Act.run_bind, h, Act.run_pure, List.append_nil]
  rfl

@[simp] theorem run_ofAct (act : Act ω α) (world : ω) :
    (ofAct act).run world = ⟨.ok (act.run world).value, (act.run world).world,
      (act.run world).trace⟩ := by
  show (⟨_, _, _ ++ []⟩ : Outcome ω _) = _
  rw [List.append_nil]
  rfl

/-- An attempt never ends with a fault, and leaves what the task leaves. -/
@[simp] theorem run_attempt (task : Task ω α) (world : ω) :
    task.attempt.run world =
      ⟨.ok (task.run world).value, (task.run world).world, (task.run world).trace⟩ :=
  run_ofAct task.act world

@[simp] theorem run_log (level : Level) (source text : String) (world : ω) :
    (log level source text : Task ω Unit).run world =
      ⟨.ok (), world, [.record ⟨level, source, text⟩]⟩ :=
  run_ofAct (Act.log level source text) world

instance : LawfulMonad (Task ω) :=
  LawfulMonad.mk' (Task ω)
    (fun task => by
      apply Task.ext
      show (task.act >>= _) = task.act
      refine Eq.trans (congrArg (task.act >>= ·) ?_) (bind_pure task.act)
      funext result
      cases result <;> rfl)
    (fun _ _ => rfl)
    (fun task next last => by
      apply Task.ext
      show ((task.act >>= _) >>= _) = (task.act >>= _)
      rw [bind_assoc]
      refine congrArg (task.act >>= ·) ?_
      funext result
      cases result <;> rfl)

end Task

end RegistrySync
