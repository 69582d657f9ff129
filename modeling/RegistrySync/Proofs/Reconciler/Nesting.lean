/-
Alarms that signals set, one installed inside another.

What an installation gives back is kept by whoever made it, and is put in force again when the
installation is over. Installations end in the order opposite to that in which they were made, and
signals may arrive at any time.

* `Nest`, `Nest.follow` — the signals and the installations that are not over, through such a
  history;
* `Linked` — what is in force, and what is kept, fit together;
* `linked_follow` — they do so through any history;
* `isSet_follow` — an alarm that is set stays set;
* `arrivals_installed` — what signals do that arrive while an alarm is installed;
* `interrupted` — tasks during which signals may arrive.
-/
import RegistrySync.Proofs.Reconciler.Law
import RegistrySync.Reconciler.Signals

namespace RegistrySync.Signals

/-- What can happen to the signals. -/
inductive Step where
  /-- Both signals are to set an alarm. -/
  | install (alarm : Nat)
  /-- The innermost installation is over. -/
  | restore
  /-- A signal arrives. -/
  | arrive (signal : Signal)

/-- The signals, and the installations that are not over: each with its alarm and what it gave, the
innermost first. -/
structure Nest where
  state : State
  pending : List (Nat × Handlers) := []

namespace Nest

/-- One step. Nothing is put back if no installation is left. -/
def step (nest : Nest) : Step → Option Nest
  | .install alarm =>
    let (previous, installed) := Signals.install alarm nest.state
    some ⟨installed, (alarm, previous) :: nest.pending⟩
  | .restore =>
    match nest.pending with
    | [] => none
    | (_, previous) :: outer => some ⟨Signals.restore previous nest.state, outer⟩
  | .arrive signal => some { nest with state := ((deliver signal).run nest.state).world }

/-- A whole history. -/
def follow (nest : Nest) : List Step → Option Nest
  | [] => some nest
  | step :: rest => (nest.step step).bind (·.follow rest)

/-- What a step can have done. -/
theorem step_cases {nest next : Nest} {step : Step} (h : nest.step step = some next) :
    (∃ alarm, step = .install alarm ∧
        next = ⟨{ nest.state with handlers := ⟨.sets alarm, .sets alarm⟩ },
          (alarm, nest.state.handlers) :: nest.pending⟩) ∨
      (∃ alarm previous outer, step = .restore ∧ nest.pending = (alarm, previous) :: outer ∧
        next = ⟨{ nest.state with handlers := previous }, outer⟩) ∨
      ∃ signal, step = .arrive signal ∧
        next = ⟨((deliver signal).run nest.state).world, nest.pending⟩ := by
  cases step with
  | install alarm => exact Or.inl ⟨alarm, rfl, (Option.some.inj h).symm⟩
  | arrive signal => exact Or.inr (Or.inr ⟨signal, rfl, (Option.some.inj h).symm⟩)
  | restore =>
    obtain ⟨state, pending⟩ := nest
    cases pending with
    | nil => cases h
    | cons innermost outer =>
      exact Or.inr (Or.inl ⟨innermost.1, innermost.2, outer, rfl, rfl, (Option.some.inj h).symm⟩)

end Nest

/-! ### Signals -/

/-- A signal sets the alarm that is installed for it, and no other. -/
theorem run_deliver_installed {state : State} {alarm : Nat}
    (h : state.handlers = ⟨.sets alarm, .sets alarm⟩) (signal : Signal) :
    (deliver signal).run state =
      ⟨(), { state with isSet := fun n => n = alarm || state.isSet n },
        [.record (notice signal)]⟩ := by
  obtain ⟨handlers, isSet⟩ := state
  cases h
  cases signal <;> rfl

/-- A signal changes no handler. -/
theorem handlers_deliver (signal : Signal) (state : State) :
    ((deliver signal).run state).world.handlers = state.handlers := by
  rw [deliver, Act.run_bind, Act.run_look]
  dsimp only
  split <;> rfl

/-- A signal leaves an alarm set that is set. -/
theorem isSet_deliver {state : State} {n : Nat} (h : state.isSet n = true) (signal : Signal) :
    ((deliver signal).run state).world.isSet n = true := by
  rw [deliver, Act.run_bind, Act.run_look]
  dsimp only
  split
  · show (decide _ || state.isSet n) = true
    rw [h, Bool.or_true]
  · exact h

/-! ### Nesting -/

/-- What is in force while these installations are not over, if it was `initial` at first. -/
def inForce (initial : Handlers) : List (Nat × Handlers) → Handlers
  | [] => initial
  | (alarm, _) :: _ => ⟨.sets alarm, .sets alarm⟩

/-- Each installation has kept what was in force outside of it. -/
def Kept (initial : Handlers) : List (Nat × Handlers) → Prop
  | [] => True
  | (_, previous) :: outer => previous = inForce initial outer ∧ Kept initial outer

/-- What is in force, and what is kept, fit together. -/
structure Linked (initial : Handlers) (nest : Nest) : Prop where
  inForce : nest.state.handlers = inForce initial nest.pending
  kept : Kept initial nest.pending

variable {initial : Handlers} {nest last : Nest}

theorem Linked.step (h : Linked initial nest) {next : Nest} {step : Step}
    (hstep : nest.step step = some next) : Linked initial next := by
  obtain ⟨alarm, -, rfl⟩ | ⟨alarm, previous, outer, -, hpending, rfl⟩ | ⟨signal, -, rfl⟩ :=
    Nest.step_cases hstep
  · exact ⟨rfl, h.inForce, h.kept⟩
  · have hkept := h.kept
    rw [hpending] at hkept
    exact ⟨hkept.1, hkept.2⟩
  · exact ⟨(handlers_deliver signal nest.state).trans h.inForce, h.kept⟩

/-- Through any history, by induction on it. -/
theorem linked_follow (h : Linked initial nest) {history : List Step}
    (hfollow : nest.follow history = some last) : Linked initial last := by
  induction history generalizing nest with
  | nil =>
    cases hfollow
    exact h
  | cons step rest ih =>
    obtain ⟨next, hstep, hrest⟩ := Option.bind_eq_some_iff.1 hfollow
    exact ih (h.step hstep) hrest

/-- No step clears an alarm, and so no history does. -/
theorem isSet_follow {n : Nat} (h : nest.state.isSet n = true) {history : List Step}
    (hfollow : nest.follow history = some last) : last.state.isSet n = true := by
  induction history generalizing nest with
  | nil =>
    cases hfollow
    exact h
  | cons step rest ih =>
    obtain ⟨next, hstep, hrest⟩ := Option.bind_eq_some_iff.1 hfollow
    refine ih ?_ hrest
    obtain ⟨alarm, -, rfl⟩ | ⟨alarm, previous, outer, -, -, rfl⟩ | ⟨signal, -, rfl⟩ :=
      Nest.step_cases hstep
    · exact h
    · exact h
    · exact isSet_deliver h signal

/-! ### Signals that arrive during a task -/

/-- The signals after these have arrived. -/
def arrivals (signals : List Signal) (state : State) : State :=
  signals.foldl (fun state signal => ((deliver signal).run state).world) state

theorem arrivals_append (first second : List Signal) (state : State) :
    arrivals (first ++ second) state = arrivals second (arrivals first state) :=
  List.foldl_append

/-- Whatever arrives while an alarm is installed sets this alarm, and does nothing else. -/
theorem arrivals_installed (alarm : Nat) (isSet : Nat → Bool) (signals : List Signal) :
    arrivals signals ⟨⟨.sets alarm, .sets alarm⟩, isSet⟩ =
      ⟨⟨.sets alarm, .sets alarm⟩, fun n => (n = alarm && !signals.isEmpty) || isSet n⟩ := by
  induction signals generalizing isSet with
  | nil => simp [arrivals]
  | cons signal rest ih =>
    have hfirst : ((deliver signal).run ⟨⟨.sets alarm, .sets alarm⟩, isSet⟩).world =
        ⟨⟨.sets alarm, .sets alarm⟩, fun n => n = alarm || isSet n⟩ := by
      rw [run_deliver_installed rfl]
    show arrivals rest ((deliver signal).run ⟨⟨.sets alarm, .sets alarm⟩, isSet⟩).world = _
    rw [hfirst, ih]
    congr 1
    funext n
    by_cases hn : n = alarm
    · simp [hn]
    · simp [hn]

/-- Signals may arrive. -/
def interrupted {ω : Type} (get : ω → State) : Law ω where
  Allows first _ second := ∃ signals, get second = arrivals signals (get first)
  refl world := ⟨[], rfl⟩
  trans := by
    rintro first second third - - ⟨a, ha⟩ ⟨b, hb⟩
    exact ⟨a ++ b, by rw [hb, ha, arrivals_append]⟩

end RegistrySync.Signals
