/-
Running tasks that are put together from smaller ones.

What was done before a task stands in front of what the task itself does
(`Outcome.after`), so the outcome of a composed task is the outcome of its last
part after the traces of the parts before it:

* `run_ofAct_bind`, `run_log_bind`, `run_attempt_bind` — parts that cannot fail;
* `run_bind_value` — a part that can, if it ended with a value;
* `run_map` — a value that is only looked at;
* `run_onPart` — a task on a part of the world leaves the rest alone;
* `exists_ok_of_bind` — two steps without a world, of which each must come to a value.
-/
import RegistrySync.Act

namespace RegistrySync

open Journal (Level)

variable {ω σ α β : Type}

namespace Outcome

/-- The outcome with what was done earlier in front of its trace. -/
def after (outcome : Outcome ω α) (earlier : List Event) : Outcome ω α :=
  { outcome with trace := earlier ++ outcome.trace }

@[simp] theorem after_value (outcome : Outcome ω α) (earlier : List Event) :
    (outcome.after earlier).value = outcome.value := rfl

@[simp] theorem after_world (outcome : Outcome ω α) (earlier : List Event) :
    (outcome.after earlier).world = outcome.world := rfl

@[simp] theorem after_trace (outcome : Outcome ω α) (earlier : List Event) :
    (outcome.after earlier).trace = earlier ++ outcome.trace := rfl

@[simp] theorem after_after (outcome : Outcome ω α) (a b : List Event) :
    (outcome.after b).after a = outcome.after (a ++ b) := by
  simp [after]

end Outcome

@[simp] theorem Act.run_map (f : α → β) (act : Act ω α) (world : ω) :
    (f <$> act).run world =
      ⟨f (act.run world).value, (act.run world).world, (act.run world).trace⟩ := by
  rw [← bind_pure_comp, run_bind]
  simp

namespace Task

/-! ### Parts that cannot fail -/

@[simp] theorem run_pure_bind (value : α) (next : α → Task ω β) (world : ω) :
    ((pure value : Task ω α) >>= next).run world = (next value).run world := by
  rw [pure_bind]

@[simp] theorem run_ofAct_bind (act : Act ω α) (next : α → Task ω β) (world : ω) :
    (ofAct act >>= next).run world =
      ((next (act.run world).value).run (act.run world).world).after (act.run world).trace := by
  have h : ((ofAct act).run world).value = .ok (act.run world).value := by rw [run_ofAct]
  rw [run_bind_ok h, run_ofAct]
  rfl

@[simp] theorem run_log_bind (level : Level) (source text : String) (next : Unit → Task ω β)
    (world : ω) :
    ((log level source text : Task ω Unit) >>= next).run world =
      ((next ()).run world).after [.record ⟨level, source, text⟩] :=
  run_ofAct_bind (Act.log level source text) next world

/-- What follows an attempt gets the fault of the task as a value. -/
@[simp] theorem run_attempt_bind (task : Task ω α) (next : Except Fault α → Task ω β)
    (world : ω) :
    (task.attempt >>= next).run world =
      ((next (task.run world).value).run (task.run world).world).after (task.run world).trace :=
  run_ofAct_bind task.act next world

/-! ### Parts that can -/

/-- What follows a task that ended with a value. -/
theorem run_bind_value {task : Task ω α} {world : ω} {value : α}
    (h : (task.run world).value = .ok value) (next : α → Task ω β) :
    (task >>= next).run world =
      ((next value).run (task.run world).world).after (task.run world).trace :=
  run_bind_ok h next

@[simp] theorem run_map (f : α → β) (task : Task ω α) (world : ω) :
    (f <$> task).run world =
      ⟨(task.run world).value.map f, (task.run world).world, (task.run world).trace⟩ := by
  rw [← bind_pure_comp]
  cases h : (task.run world).value with
  | ok value =>
    rw [run_bind_value h, run_pure]
    simp [Outcome.after, Except.map]
  | error fault => rw [run_bind_error h, Except.map]

/-! ### Parts of the world -/

@[simp] theorem run_onPart (get : ω → σ) (put : σ → ω → ω) (task : Task σ α) (world : ω) :
    (task.onPart get put).run world =
      ⟨(task.run (get world)).value, put (task.run (get world)).world world,
        (task.run (get world)).trace⟩ := rfl

end Task

/-! ### Faults as values -/

/-- What comes to a value in two steps does so in each of them. -/
theorem exists_ok_of_bind {ε : Type} {first : Except ε α} {next : α → Except ε β} {value : β}
    (h : first >>= next = .ok value) :
    ∃ between, first = .ok between ∧ next between = .ok value := by
  cases first with
  | error fault => cases h
  | ok between => exact ⟨between, rfl, h⟩

end RegistrySync
