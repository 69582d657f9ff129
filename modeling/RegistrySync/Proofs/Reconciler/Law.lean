/-
What the parts of a reconciler keep to, a run keeps to.

A law says which requests may be made on the way from one world to another. It allows to do nothing,
and to do one thing after another that it allows. A reconciler makes no requests of its own and
changes the world through its parts only, so that whatever law these obey, it obeys it as well.

* `Law`, `Task.Obeys` — laws, and tasks that obey them;
* `Task.obeys_bind` — tasks done in turn;
* `Obedient` — a reconciler whose parts obey a law;
* `cycle_obeys`, `runFor_obeys` — a cycle, and a run of any length.
-/
import RegistrySync.Proofs.Task
import RegistrySync.Reconciler.Run

namespace RegistrySync

variable {ω α β : Type}

/-- Which requests may be made on the way from one world to another. -/
structure Law (ω : Type) where
  Allows : ω → List Request → ω → Prop
  refl : ∀ world, Allows world [] world
  trans : ∀ {first second third : ω} {a b : List Request},
    Allows first a second → Allows second b third → Allows first (a ++ b) third

variable {law : Law ω}

/-! ### Tasks -/

/-- In every world, the act does what the law allows. -/
def Act.Obeys (law : Law ω) (act : Act ω α) : Prop :=
  ∀ world, law.Allows world (requestsOf (act.run world).trace) (act.run world).world

/-- In every world, the task does what the law allows, whether it ends with a fault or not. -/
def Task.Obeys (law : Law ω) (task : Task ω α) : Prop := task.act.Obeys law

namespace Act

theorem obeys_pure (value : α) : (pure value : Act ω α).Obeys law := fun world => law.refl world

theorem obeys_look : (look : Act ω ω).Obeys law := fun world => law.refl world

theorem obeys_bind {act : Act ω α} {next : α → Act ω β} (h : act.Obeys law)
    (hnext : ∀ value, (next value).Obeys law) : (act >>= next).Obeys law := by
  intro world
  rw [run_bind, requestsOf_append]
  exact law.trans (h world) (hnext _ _)

end Act

namespace Task

theorem obeys_ofExcept (result : Except Fault α) : (ofExcept result : Task ω α).Obeys law :=
  Act.obeys_pure result

theorem obeys_pure (value : α) : (pure value : Task ω α).Obeys law := obeys_ofExcept (.ok value)

theorem obeys_fail (fault : Fault) : (fail fault : Task ω α).Obeys law :=
  obeys_ofExcept (.error fault)

/-- Tasks that are done in turn. A fault ends them early, and what came before it was allowed. -/
theorem obeys_bind {task : Task ω α} {next : α → Task ω β} (h : task.Obeys law)
    (hnext : ∀ value, (next value).Obeys law) : (task >>= next).Obeys law := by
  refine Act.obeys_bind h fun result => ?_
  cases result with
  | ok value => exact hnext value
  | error fault => exact Act.obeys_pure _

theorem obeys_ofAct {act : Act ω α} (h : act.Obeys law) : (ofAct act).Obeys law :=
  Act.obeys_bind h fun _ => Act.obeys_pure _

theorem obeys_attempt {task : Task ω α} (h : task.Obeys law) : task.attempt.Obeys law :=
  obeys_ofAct h

/-- A record is no request. -/
theorem obeys_log {level : Journal.Level} {source text : String} :
    (log level source text : Task ω Unit).Obeys law :=
  obeys_ofAct fun world => law.refl world

theorem obeys_ite {condition : Prop} [Decidable condition] {first second : Task ω α}
    (hfirst : first.Obeys law) (hsecond : second.Obeys law) :
    (if condition then first else second).Obeys law := by
  split
  · exact hfirst
  · exact hsecond

end Task

/-! ### Reconcilers -/

namespace Reconciler

open RegistrySync.Task

/-- A reconciler whose parts obey a law. -/
structure Obedient (law : Law ω) (r : Reconciler ω) : Prop where
  enumerate : r.inspector.enumerate.Obeys law
  inspect : ∀ name, (r.inspector.inspect name).Obeys law
  publish : ∀ publication, (r.publisher.publish publication).Obeys law
  wait : ∀ seconds, (r.alarm.wait seconds).Obeys law

variable {r : Reconciler ω}

theorem log_obeys {level : Journal.Level} {text : String} :
    (log level text : Task ω Unit).Obeys law := obeys_log

theorem merge_obeys (h : Obedient law r) : r.merge.Obeys law := by
  unfold merge
  refine obeys_ite (obeys_pure _) (obeys_bind (obeys_attempt h.enumerate) fun listing => ?_)
  cases listing with
  | ok discovered => exact obeys_pure _
  | error fault =>
    exact obeys_ite (obeys_bind log_obeys fun _ => obeys_pure _) (obeys_fail fault)

theorem publish_obeys (h : Obedient law r) (name : String) (pending : Pending)
    (publication : Publication) : (r.publish name pending publication).Obeys law := by
  unfold publish
  refine obeys_bind (obeys_attempt (h.publish publication)) fun published => ?_
  cases published with
  | ok _ => exact obeys_bind log_obeys fun _ => obeys_pure _
  | error fault =>
    exact obeys_ite (obeys_bind log_obeys fun _ => obeys_pure _) (obeys_fail fault)

/-- One container. -/
theorem refresh_obeys (h : Obedient law r) (name : String) (pending : Pending) :
    (r.refresh name pending).Obeys law := by
  unfold refresh
  refine obeys_bind log_obeys fun _ =>
    obeys_bind (obeys_attempt (h.inspect pending.value)) fun inspected => ?_
  cases inspected with
  | error fault =>
    exact obeys_ite (obeys_bind log_obeys fun _ => obeys_pure _) (obeys_fail fault)
  | ok inspection =>
    refine obeys_ite (obeys_bind log_obeys fun _ => obeys_pure _) ?_
    exact obeys_ite (obeys_bind log_obeys fun _ => obeys_pure _) (publish_obeys h name pending _)

theorem refreshAll_obeys (h : Obedient law r) (plan : Plan) : (r.refreshAll plan).Obeys law := by
  induction plan with
  | nil => exact obeys_pure _
  | cons entry rest ih =>
    exact obeys_bind (refresh_obeys h entry.1 entry.2) fun _ =>
      obeys_bind ih fun _ => obeys_pure _

/-- One cycle. -/
theorem cycle_obeys (h : Obedient law r) : r.cycle.Obeys law := by
  unfold cycle
  refine obeys_bind (merge_obeys h) fun merged => ?_
  -- The notice of an empty plan is written before the containers are refreshed.
  exact obeys_ite
    (obeys_bind log_obeys fun _ => obeys_bind (refreshAll_obeys h merged.1) fun _ =>
      obeys_bind log_obeys fun _ => obeys_pure _)
    (obeys_bind (refreshAll_obeys h merged.1) fun _ => obeys_bind log_obeys fun _ => obeys_pure _)

theorem wait_obeys (h : Obedient law r) : r.wait.Obeys law := by
  unfold wait
  split
  · exact obeys_pure _
  · rename_i seconds _
    have hlook : (ofAct Act.look : Task ω ω).Obeys law := obeys_ofAct Act.obeys_look
    refine obeys_bind hlook fun world => obeys_ite (obeys_pure _) ?_
    exact obeys_bind (h.wait seconds) fun _ => obeys_bind hlook fun _ => obeys_pure _

/-- A run, whatever its length. -/
theorem runFor_obeys (h : Obedient law r) (bound : Nat) : (r.runFor bound).Obeys law := by
  induction bound with
  | zero => exact obeys_pure _
  | succ bound ih =>
    refine obeys_bind (cycle_obeys h) fun faults =>
      obeys_bind (wait_obeys h) fun goes => obeys_ite ?_ (obeys_pure _)
    exact obeys_ite ih (obeys_bind log_obeys fun _ => ih)

end Reconciler

end RegistrySync
