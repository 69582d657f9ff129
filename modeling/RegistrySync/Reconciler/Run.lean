/-
Runs: cycles one after another until something says stop.

* `wait` — whether there is to be another cycle;
* `runFor` — at most so many cycles.

Design notes: nothing promises that a run ends, so the number of cycles is bounded from
outside; a run that is cut short has no value.
-/
import RegistrySync.Reconciler.Basic

namespace RegistrySync.Reconciler

variable {ω : Type}

/-- Wait until the next cycle is due. The value is whether there is one: none without an
interval, and none once the alarm is set, be it before or during the wait. -/
def wait (r : Reconciler ω) : Task ω Bool :=
  match r.settings.refresh with
  | none => return false
  | some seconds => do
    if r.alarm.isSet (← Task.ofAct Act.look) then return false
    r.alarm.wait seconds
    return !r.alarm.isSet (← Task.ofAct Act.look)

/-- Run at most so many cycles. The value is the list of faults of the last cycle, or nothing
if the run was cut short. -/
def runFor (r : Reconciler ω) : Nat → Task ω (Option (List Fault))
  | 0 => return none
  | bound + 1 => do
    let faults ← r.cycle
    if ← r.wait then
      unless faults.isEmpty do
        log .debug ("Starting a new cycle; " ++ Text.showNat faults.length ++
          " error(s) of the previous cycle were logged")
      r.runFor bound
    else return some faults

end RegistrySync.Reconciler
