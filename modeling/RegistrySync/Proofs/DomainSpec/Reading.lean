/-
Readings put together from the readings of the parts.

A reading of several parts, one after another, stops at the first part that stops.

* `concat_stop_eq_none_iff` — nothing stops the whole exactly when no part stops;
* `concat_specs` — what a whole that does not stop yields;
* `stop_parse_eq_none_iff`, `specs_parse` — the same for the tokens of a text.
-/
import RegistrySync.DomainSpec.Parse

namespace RegistrySync.DomainSpec

namespace Parse

theorem append_of_clean {p : Parse} (h : p.stop = none) (q : Parse) :
    p.append q = ⟨p.specs ++ q.specs, p.unknown ++ q.unknown, q.stop⟩ := by
  rw [append, h]

/-- Nothing stops a reading exactly when none of its parts stops. -/
theorem concat_stop_eq_none_iff {ps : List Parse} :
    (concat ps).stop = none ↔ ∀ p ∈ ps, p.stop = none := by
  induction ps with
  | nil => simp [concat, nothing]
  | cons p rest ih =>
    rw [concat, List.forall_mem_cons]
    cases hp : p.stop with
    | some stop => simp [append_of_stop hp, hp]
    | none => simp [append_of_clean hp, ih]

/-- What a reading that does not stop yields. -/
theorem concat_specs {ps : List Parse} (h : ∀ p ∈ ps, p.stop = none) :
    (concat ps).specs = ps.flatMap (·.specs) := by
  induction ps with
  | nil => rfl
  | cons p rest ih =>
    obtain ⟨hp, hr⟩ := List.forall_mem_cons.1 h
    rw [concat, append_of_clean hp, List.flatMap_cons, ih hr]

end Parse

/-- Nothing stops the reading of a text exactly when none of its tokens is at fault. -/
theorem stop_parse_eq_none_iff {cs : List Char} :
    (parse cs).stop = none ↔ ∀ token ∈ tokens cs, token.read.stop = none := by
  simp [parse, Parse.concat_stop_eq_none_iff]

theorem specs_parse {cs : List Char} (h : (parse cs).stop = none) :
    (parse cs).specs = (tokens cs).flatMap (·.read.specs) := by
  have ht := stop_parse_eq_none_iff.1 h
  rw [parse, Parse.concat_specs (by simpa using ht), List.flatMap_map]

end RegistrySync.DomainSpec
