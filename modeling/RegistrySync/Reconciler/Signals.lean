/-
Signals: how an interrupt or a request to terminate sets an alarm.

* `Handlers` — what happens on each signal;
* `install` — let both signals set an alarm, and give back what was there before;
* `restore_install` — giving back undoes the change.
-/
import RegistrySync.Act

namespace RegistrySync.Signals

/-- The signals that end a run. -/
inductive Signal where
  | interrupt
  | terminate
  deriving DecidableEq, Repr

/-- The name of a signal. -/
def Signal.name : Signal → String
  | .interrupt => "SIGINT"
  | .terminate => "SIGTERM"

/-- What happens on a signal. -/
inductive Handler where
  /-- Something that was there before the program. -/
  | foreign (id : Nat)
  /-- Setting the alarm of that number. -/
  | sets (alarm : Nat)
  deriving DecidableEq, Repr

/-- What happens on each signal. -/
structure Handlers where
  interrupt : Handler := .foreign 0
  terminate : Handler := .foreign 1
  deriving DecidableEq, Repr

/-- What happens on a signal. -/
def Handlers.get (handlers : Handlers) : Signal → Handler
  | .interrupt => handlers.interrupt
  | .terminate => handlers.terminate

/-- Signal handlers in force, and which alarms are set. -/
structure State where
  handlers : Handlers := {}
  isSet : Nat → Bool := fun _ => false

/-- Let both signals set an alarm. The value is what was in force before. -/
def install (alarm : Nat) (state : State) : Handlers × State :=
  (state.handlers, { state with handlers := ⟨.sets alarm, .sets alarm⟩ })

/-- Put handlers in force that were so before. -/
def restore (previous : Handlers) (state : State) : State := { state with handlers := previous }

/-- The record about a signal. -/
def notice (signal : Signal) : Journal.Record :=
  ⟨.info, Journal.Source.reconciler,
    "Received " ++ signal.name ++ "; stopping at the next wait"⟩

/-- A signal arrives: the alarm of its handler is set, and a record is written. -/
def deliver (signal : Signal) : Act State Unit := do
  match (← Act.look).handlers.get signal with
  | .sets alarm =>
    Act.change fun state => { state with isSet := fun n => n = alarm || state.isSet n }
    Act.logAll [notice signal]
  | .foreign _ => return ()

/-- Giving back undoes the change. -/
theorem restore_install (alarm : Nat) (state : State) :
    restore (install alarm state).1 (install alarm state).2 = state := rfl

end RegistrySync.Signals
