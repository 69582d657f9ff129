/-
The law of merging: which containers are in the plan of a cycle, and in which order.

* `firsts_uniqueNames`, `trimmed_of_mem_uniqueNames` — the names given on purpose: the first
  occurrences of what the containers are called, without blanks around it;
* `Merged` — a plan that has these names and behind them the others that were found, each once,
  and knows the former from the latter;
* `merged_entries` — the plan of a cycle is one;
* `mergeOnto` — merging where faults are held already;
* `merge_law` — what merging leaves, whatever comes of the listing.
-/
import RegistrySync.Proofs.Reconciler.Plan
import RegistrySync.Proofs.Text.Blank
import RegistrySync.Proofs.Text.Distinct

namespace RegistrySync.Reconciler

open Text (Firsts Trimmed)

variable {ω : Type}

/-! ### The names given on purpose -/

theorem firsts_uniqueNames (containers : List Json) :
    Firsts ((containers.map nameOf).filter (· ≠ "")) (uniqueNames containers) := by
  refine Text.firsts_iff.2 (congrArg Text.distinct (List.filter_congr fun name _ => ?_))
  rw [Bool.eq_iff_iff, Bool.not_eq_true', Bool.eq_false_iff, ne_eq, String.isEmpty_iff]
  exact decide_eq_true_iff.symm

/-- A name that was given on purpose has no blanks around it. -/
theorem trimmed_of_mem_uniqueNames {containers : List Json} {name : String}
    (h : name ∈ uniqueNames containers) : Trimmed name.toList := by
  obtain ⟨hname, -⟩ := List.mem_filter.1 (((firsts_uniqueNames containers).mem_iff name).1 h)
  obtain ⟨container, -, rfl⟩ := List.mem_map.1 hname
  exact Text.trimmed_ite_strip container.isEmpty container.text

/-! ### The plan -/

/-- A plan over names that were given on purpose and names that were found: the former stand
first, and behind them the others that were found, in the order in which they first occur; no name
is there twice, each container is inspected by its name, and it is known which names were given on
purpose. -/
structure Merged (given found : List String) (plan : Plan) : Prop where
  ordered : ∃ others, plan.map Prod.fst = given ++ others ∧
    Firsts (found.filter fun name => name ∉ given) others
  nodup : (plan.map Prod.fst).Nodup
  value_eq : ∀ entry ∈ plan, entry.2.value = entry.1
  explicit_iff : ∀ entry ∈ plan, entry.2.explicit = true ↔ entry.1 ∈ given

/-- The entries of names, each once, that start with those given on purpose. -/
theorem merged_entries {given found others : List String} (hgiven : given.Nodup)
    (hothers : Firsts (found.filter fun name => name ∉ given) others) :
    Merged given found ((given ++ others).map (entryOf given)) := by
  have hkeys : ((given ++ others).map (entryOf given)).map Prod.fst = given ++ others := by
    rw [List.map_map]
    exact List.map_id _
  -- The others are those that were not given, so none of them is there twice.
  have hapart : ∀ name ∈ given, ∀ other ∈ others, name ≠ other := by
    rintro name hname other hother rfl
    have hnot := (List.mem_filter.1 ((hothers.mem_iff name).1 hother)).2
    exact of_decide_eq_true hnot hname
  refine ⟨⟨others, hkeys, hothers⟩, ?_, ?_, ?_⟩
  · rw [hkeys]
    exact List.nodup_append.2 ⟨hgiven, hothers.nodup, hapart⟩
  · rintro entry hentry
    obtain ⟨name, -, rfl⟩ := List.mem_map.1 hentry
    rfl
  · rintro entry hentry
    obtain ⟨name, -, rfl⟩ := List.mem_map.1 hentry
    exact decide_eq_true_iff

/-- Without a listing the plan has the names that were given on purpose. -/
theorem merged_explicitPlan {given : List String} (h : given.Nodup) :
    Merged given [] (explicitPlan given) := by
  have hmerged : Merged given [] ((given ++ Text.distinct []).map (entryOf given)) :=
    merged_entries h (Text.firsts_distinct [])
  rwa [Text.distinct, List.append_nil, ← explicitPlan_eq] at hmerged

/-- With a listing it has the others that were found behind them. -/
theorem merged_discoveredPlan {given : List String} (h : given.Nodup) (found : List String) :
    Merged given found (explicitPlan given ++ discoveredPlan given found) := by
  rw [explicitPlan_eq, discoveredPlan_eq, ← List.map_append]
  exact merged_entries h (Text.firsts_distinct _)

/-! ### Merging -/

/-- Merge where faults are held already: that of a listing that failed is put behind them. -/
def mergeOnto (r : Reconciler ω) (held : List Fault) : Task ω (Plan × List Fault) :=
  (fun merged => (merged.1, held ++ merged.2)) <$> r.merge

/-- The fault of a failed listing tells what the listing told. -/
theorem message_enumerationFault (fault : Fault) :
    (enumerationFault fault).message = fault.message := by
  unfold enumerationFault
  split
  · rfl
  · rfl

/-- Let a reconciler be made over containers, and let faults be held already.

Without enumeration, merging leaves a plan of the names that were given on purpose, and nothing
else: the inspector is not asked, and the faults are those that were held. With it, the inspector
is asked once. If it lists containers, the plan has the others of them behind these names, and the
faults are those that were held. If it fails in a way that the program reports, the plan has the
names that were given on purpose, and one fault stands behind those that were held: a failed
listing that tells what the inspector told. A fault of any other kind leaves the cycle. -/
theorem merge_law {settings : Settings} {inspector : Inspector ω} {publisher : Publisher ω}
    {alarm : Alarm ω} {containers : List Json} {r : Reconciler ω}
    (hr : create? settings inspector publisher alarm containers = .ok r) (held : List Fault)
    (world : ω) :
    let given := uniqueNames containers
    let outcome := (r.mergeOnto held).run world
    let listing := inspector.enumerate.run world
    Firsts ((containers.map nameOf).filter (· ≠ "")) given ∧
      (∀ name ∈ given, Trimmed name.toList) ∧
      (settings.enumerate = false →
        ∃ plan, Merged given [] plan ∧ outcome = ⟨.ok (plan, held), world, []⟩) ∧
      (settings.enumerate = true →
        outcome.world = listing.world ∧
          outcome.trace = listing.trace ++ listingNotes listing.value ∧
          (∀ found, listing.value = .ok found →
            ∃ plan, Merged given found plan ∧ outcome.value = .ok (plan, held)) ∧
          (∀ fault, listing.value = .error fault → fault.kind.isReported = true →
            ∃ plan failed, Merged given [] plan ∧ failed.kind = .enumeration ∧
              failed.message = fault.message ∧ (fault.kind = .enumeration → failed = fault) ∧
              outcome.value = .ok (plan, held ++ [failed])) ∧
          ∀ fault, listing.value = .error fault → fault.kind.isReported = false →
            outcome.value = .error fault) := by
  intro given outcome listing
  obtain ⟨-, rfl⟩ := create?_eq_ok_iff.1 hr
  set r : Reconciler ω := ⟨settings, inspector, publisher, alarm, given⟩ with hdef
  have hgiven : given.Nodup := uniqueNames_nodup containers
  -- Faults that were held before are put in front of those of merging, and change nothing else.
  have houtcome : outcome =
      ⟨(r.merge.run world).value.map fun merged => (merged.1, held ++ merged.2),
        (r.merge.run world).world, (r.merge.run world).trace⟩ := Task.run_map _ _ _
  refine ⟨firsts_uniqueNames containers, fun _ => trimmed_of_mem_uniqueNames, fun halone => ?_,
    fun hasked => ?_⟩
  · refine ⟨explicitPlan given, merged_explicitPlan hgiven, ?_⟩
    rw [houtcome, run_merge_alone (r := r) halone]
    simp [Except.map, hdef]
  · rw [run_merge (r := r) hasked] at houtcome
    -- All that matters of the inspector is how its listing ended.
    have hvalue : outcome.value = (planOf settings given listing.value).map
        fun merged => (merged.1, held ++ merged.2) := congrArg Outcome.value houtcome
    simp only [planOf, hasked, if_true] at hvalue
    refine ⟨congrArg Outcome.world houtcome, congrArg Outcome.trace houtcome, ?_, ?_, ?_⟩
    · intro found hfound
      rw [hfound] at hvalue
      refine ⟨_, merged_discoveredPlan hgiven found, ?_⟩
      simpa [Except.map] using hvalue
    · intro fault hfault hreported
      rw [hfault] at hvalue
      refine ⟨_, enumerationFault fault, merged_explicitPlan hgiven, kind_enumerationFault fault,
        message_enumerationFault fault, fun hkind => if_pos hkind, ?_⟩
      simpa [hreported, Except.map] using hvalue
    · intro fault hfault hforeign
      rw [hfault] at hvalue
      simpa [hforeign, Except.map] using hvalue

/-- An inspector that lists names more than once. -/
def repeatingInspector : Inspector Unit where
  enumerate := pure ["db", "web", "cache", "db"]
  inspect name := pure ⟨name, [], false⟩

/-- A reconciler with enumeration over this inspector. -/
def repeatingReconciler : Reconciler Unit where
  settings := { enumerate := true }
  inspector := repeatingInspector
  publisher := ⟨fun _ => pure ()⟩
  alarm := ⟨fun _ => false, fun _ => pure ()⟩
  names := ["web", "api"]

theorem merge_law_repeated_names :
    create? { enumerate := true } repeatingInspector ⟨fun _ => pure ()⟩
        ⟨fun _ => false, fun _ => pure ()⟩
        [.str " web", .str "\u2003", .str "api", .str "web ", .null] = .ok repeatingReconciler ∧
      ∃ plan, plan.map Prod.fst = ["web", "api", "db", "cache"] ∧
        Merged ["web", "api"] ["db", "web", "cache", "db"] plan ∧
        ((repeatingReconciler.mergeOnto [⟨.noAddress, none⟩]).run ()).value =
          .ok (plan, [⟨.noAddress, none⟩]) := by
  have hr : create? { enumerate := true } repeatingInspector ⟨fun _ => pure ()⟩
      ⟨fun _ => false, fun _ => pure ()⟩
      [.str " web", .str "\u2003", .str "api", .str "web ", .null] = .ok repeatingReconciler :=
    create?_eq_ok_iff.2 ⟨by decide, rfl⟩
  obtain ⟨-, -, -, hasked⟩ := merge_law hr [⟨.noAddress, none⟩] ()
  obtain ⟨-, -, hlisted, -⟩ := hasked rfl
  obtain ⟨plan, hmerged, hvalue⟩ := hlisted _ rfl
  obtain ⟨others, hkeys, hothers⟩ := hmerged.ordered
  refine ⟨hr, plan, ?_, hmerged, hvalue⟩
  -- Being the first occurrences determines a list, so the others can be computed.
  rw [hkeys, Text.firsts_iff.1 hothers]
  decide

end RegistrySync.Reconciler
