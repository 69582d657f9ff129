/-
What usable settings have in common.

* `refresh_pos`, `expire_pos` — the intervals in them are positive;
* `isVariableName_of_accepted`, `not_mem_of_accepted` — a variable whose name is not told as a
  problem;
* `not_mem_envVar` — the variable in them has a name without an equals sign.
-/
import RegistrySync.Settings.Basic

namespace RegistrySync.Settings

theorem pos_of_no_problem {interval : Option Int} {problem : Problem}
    (h : problemIf (notPositive interval) problem = []) {seconds : Int}
    (hs : interval = some seconds) : 0 < seconds := by
  refine Int.not_le.1 fun hle => ?_
  have hp : notPositive interval = true := by simp [notPositive, hs, hle]
  rw [hp] at h
  cases h

variable {settings : Settings}

/-- The interval between two cycles is positive. -/
theorem refresh_pos (h : settings.problems = []) {seconds : Int}
    (hs : settings.refresh = some seconds) : 0 < seconds :=
  have hfront := (List.append_eq_nil_iff.1 h).1
  pos_of_no_problem (List.append_eq_nil_iff.1 hfront).2 hs

/-- Records do not expire at once. -/
theorem expire_pos (h : settings.problems = []) {seconds : Int}
    (hs : settings.expire = some seconds) : 0 < seconds :=
  have hfront := (List.append_eq_nil_iff.1 (List.append_eq_nil_iff.1 h).1).1
  pos_of_no_problem (List.append_eq_nil_iff.1 hfront).2 hs

/-- A name that is not told as a problem is the name of a variable. -/
theorem isVariableName_of_accepted
    (h : Problem.badVariableName settings.envVar ∉ settings.problems) :
    isVariableName settings.envVar = true := by
  cases hname : isVariableName settings.envVar with
  | true => rfl
  | false => exact absurd (List.mem_append_right _ (by simp [problemIf, hname])) h

theorem not_mem_of_accepted (h : Problem.badVariableName settings.envVar ∉ settings.problems) :
    '=' ∉ settings.envVar.toList := by
  intro hmem
  obtain ⟨-, hchars⟩ := isVariableName_iff.1 (isVariableName_of_accepted h)
  exact (hchars '=' hmem).1 rfl

/-- The name of the variable in usable settings holds no equals sign. -/
theorem not_mem_envVar (h : settings.problems = []) : '=' ∉ settings.envVar.toList := by
  refine not_mem_of_accepted ?_
  rw [h]
  exact List.not_mem_nil

end RegistrySync.Settings
