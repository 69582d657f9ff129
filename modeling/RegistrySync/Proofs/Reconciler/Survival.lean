/-
No failure of the daemon or of the registry ends a cycle.

The reconciler has the daemon's inspector and the registry's publisher, each on its part of a
world in which the daemon may fail in any way at every call, and tell whatever attributes it
likes, and the registry may refuse any key in its own words.

* `StaysTame.civil` — these collaborators fail only in the ways that a cycle handles;
* `Told` — a failed inspection that the daemon itself tells of, about whichever container;
* `Counted` — a fault of a container, which is about this container but for such;
* `cycle_survives` — a cycle ends with the faults of its containers;
* `cycle_keeps_told_container` — what the daemon tells of itself keeps its container.
-/
import RegistrySync.Proofs.Inspection.Link
import RegistrySync.Proofs.Publication.Steps
import RegistrySync.Proofs.Reconciler.Tally

namespace RegistrySync.Reconciler

variable {ω : Type} {settings : Settings} {getD : ω → DaemonLink} {putD : DaemonLink → ω → ω}
  {getR : ω → RegistryLink} {putR : RegistryLink → ω → ω}

/-! ### The collaborators -/

theorem value_enumerate_onPart (world : ω) :
    (((Inspection.daemonInspector settings).onPart getD putD).enumerate.run world).value =
      Inspection.listed ((getD world).through (getD world).daemon.running) := by
  show (((Inspection.enumerate settings).onPart getD putD).run world).value = _
  rw [Task.run_onPart, Inspection.run_enumerate]

theorem value_inspect_onPart (name : String) (world : ω) :
    ((((Inspection.daemonInspector settings).onPart getD putD).inspect name).run world).value =
      Inspection.inspected settings name
        ((getD world).through ((getD world).daemon.attributes name)) := by
  show (((Inspection.inspect settings name).onPart getD putD).run world).value = _
  rw [Task.run_onPart, Inspection.run_inspect]

theorem value_publish_onPart (publication : Publication) (world : ω) :
    ((((Publication.registryPublisher settings).onPart getR putR).publish publication).run
        world).value =
      Publication.published (recordKey settings publication.host)
        ((getR world).registry.refusal (recordKey settings publication.host)) := by
  show (((Publication.publish settings publication).onPart getR putR).run world).value = _
  rw [Task.run_onPart, Publication.run_publish]

/-- In the worlds of `I` the registry refuses keys only in its own words, and it stays so when
either link is used. -/
structure StaysTame (I : ω → Prop) (putD : DaemonLink → ω → ω) (getR : ω → RegistryLink)
    (putR : RegistryLink → ω → ω) : Prop where
  tame : ∀ {world}, I world → (getR world).registry.Tame
  daemon : ∀ {world}, I world → ∀ link, I (putD link world)
  registry : ∀ {world}, I world → ∀ link, link.registry.Tame → I (putR link world)

variable {I : ω → Prop}

theorem StaysTame.inspect (ht : StaysTame I putD getR putR) {world : ω} (hw : I world)
    (name : String) :
    I ((((Inspection.daemonInspector settings).onPart getD putD).inspect name).run world).world :=
  ht.daemon hw _

/-- The daemon's inspector and the registry's publisher fail only in the ways that a cycle
handles. -/
theorem StaysTame.civil (ht : StaysTame I putD getR putR) :
    Civil I ((Inspection.daemonInspector settings).onPart getD putD)
      ((Publication.registryPublisher settings).onPart getR putR) := by
  refine ⟨⟨fun hw => ht.daemon hw _, ?_⟩, fun name => ⟨fun hw => ht.inspect hw name, ?_⟩,
    fun publication => ⟨?_, ?_⟩⟩
  · intro world fault _ hv
    rw [value_enumerate_onPart] at hv
    rw [Inspection.kind_of_listed hv]
    rfl
  · intro world fault _ hv
    rw [value_inspect_onPart] at hv
    rw [handlesInspection, Inspection.isInspection_of_inspected settings hv]
    rfl
  · -- An attempt to set a key may change the entries, but not what the registry refuses.
    intro world hw
    refine ht.registry hw _ ?_
    show ((Publication.publish settings publication).run (getR world)).world.registry.Tame
    rw [Publication.run_publish]
    intro key fault hr
    rw [Registry.attempt_refusal] at hr
    exact ht.tame hw key fault hr
  · intro world fault hw hv
    rw [value_publish_onPart] at hv
    exact Publication.kind_of_published (ht.tame hw) hv

/-! ### Whom a fault is about -/

/-- A failed inspection that the daemon tells of when it is asked for a container, and that names
a container itself. -/
structure Told (link : DaemonLink) (name : String) (fault : Fault) : Prop where
  answer : link.daemon.attributes name = .error fault
  isInspection : fault.kind.isInspection = true
  named : fault.container ≠ none

theorem container_about {fault : Fault} {name : String}
    (h : fault.container = none ∨ fault.container = some name) :
    (fault.about name).container = some name := by
  unfold Fault.about
  obtain h | h := h
  · simp [h]
  · simp [h]

/-- A failed inspection is about its container, unless the daemon tells of one itself. -/
theorem container_of_inspected {link : DaemonLink} {name : String} {fault : Fault}
    (h : Inspection.inspected settings name (link.through (link.daemon.attributes name)) =
      .error fault) :
    (fault.about name).container = some name ∨ Told link name (fault.about name) := by
  cases ha : link.through (link.daemon.attributes name) with
  | ok attributes =>
    rw [ha] at h
    exact Or.inl (container_about (Or.inr (Inspection.kind_of_ofAttributes settings h).2))
  | error cause =>
    rw [ha] at h
    cases h
    unfold Inspection.fetchFault
    split
    · exact Or.inl (container_about (Or.inr rfl))
    · split
      · -- The only fault that goes on as it is; a client that cannot be made names no container.
        rename_i hinspection
        cases hc : cause.container with
        | none => exact Or.inl (container_about (Or.inl hc))
        | some other =>
          have habout : cause.about name = cause := by simp [Fault.about, hc]
          have hnamed : cause.container ≠ none := by simp [hc]
          rw [habout]
          refine Or.inr ⟨?_, hinspection, hnamed⟩
          unfold DaemonLink.through at ha
          split at ha
          · cases ha
            cases hc
          · exact ha
      · exact Or.inl (container_about (Or.inr rfl))

theorem container_of_published {key : String} {refusal : Option Fault} {name : String}
    {fault : Fault} (ht : ∀ cause, refusal = some cause → cause.kind.isRegistry = true)
    (h : Publication.published key refusal = .error fault) :
    (fault.about name).container = some name := by
  cases refusal with
  | none => cases h
  | some cause =>
    rw [Publication.published, if_pos (ht cause rfl)] at h
    cases h
    rfl

/-- A fault that may count for a container of this name, which was looked at over this link: it is
of a kind that a container can raise, and about this container unless the daemon tells of one
itself. -/
structure Counted (link : DaemonLink) (name : String) (fault : Fault) : Prop where
  kind : fault.kind ∈ [.inspection, .containerNotFound, .variableMissing, .publishing]
  container : fault.container = some name ∨ Told link name fault

theorem mem_kinds_of_isInspection {kind : Kind} (h : kind.isInspection = true) :
    kind ∈ [.inspection, .containerNotFound, .variableMissing, .publishing] := by
  cases kind <;> simp [Kind.isInspection] at h ⊢

/-- What is raised for a container may count for it. -/
theorem counted_of_raised {alarm : Alarm ω} {names : List String}
    (ht : StaysTame I putD getR putR) {name : String} {world : ω} (hw : I world) {fault : Fault}
    (h : Raised
      ⟨settings, (Inspection.daemonInspector settings).onPart getD putD,
        (Publication.registryPublisher settings).onPart getR putR, alarm, names⟩
      name world fault) : Counted (getD world) name fault := by
  cases h with
  | inspection hv =>
    rw [value_inspect_onPart] at hv
    refine ⟨?_, container_of_inspected hv⟩
    rw [Fault.kind_about]
    exact mem_kinds_of_isInspection (Inspection.isInspection_of_inspected settings hv)
  | undeclared =>
    refine ⟨?_, Or.inl rfl⟩
    show Kind.variableMissing ∈ _
    decide
  | publication hi hv =>
    -- The inspection used the other link in between, and the registry may have changed since.
    rw [value_publish_onPart] at hv
    have htame : (getR ((((Inspection.daemonInspector settings).onPart getD putD).inspect
        name).run world).world).registry.Tame := ht.tame (ht.inspect hw name)
    refine ⟨?_, Or.inl (container_of_published (htame _) hv)⟩
    rw [Fault.kind_about, Publication.kind_of_published htame hv]
    decide

/-! ### A cycle -/

/-- However the daemon and the registry fail, a cycle ends with a list of faults: at most one of
the listing, and then at most one for each of its containers in their order, of a kind that a
container can raise. It names this container, unless it is a failed inspection that the daemon tells
of and for which it names a container itself. -/
theorem cycle_survives {alarm : Alarm ω} {containers : List Json} {r : Reconciler ω}
    (hr : create? settings ((Inspection.daemonInspector settings).onPart getD putD)
      ((Publication.registryPublisher settings).onPart getR putR) alarm containers = .ok r)
    (ht : StaysTame I putD getR putR) {world : ω} (hw : I world) :
    (r.cycleVisits world).map Prod.fst =
        mergedNames settings (uniqueNames containers)
          (Inspection.listed ((getD world).through (getD world).daemon.running)) ∧
      ∃ early shares, (r.cycle.run world).value = .ok (early ++ shares.flatten) ∧
        early.length ≤ 1 ∧ (∀ fault ∈ early, fault.kind = .enumeration) ∧
        List.Forall₂
          (fun visit faults => faults.length ≤ 1 ∧
            ∀ fault ∈ faults, Counted (getD visit.2) visit.1 fault)
          (r.cycleVisits world) shares := by
  obtain ⟨-, rfl⟩ := create?_eq_ok_iff.1 hr
  obtain ⟨-, early, shares, hv, hearly, hshares⟩ :=
    cycle_shares (r := ⟨settings, _, _, alarm, uniqueNames containers⟩) ht.civil hw
  refine ⟨?_, early, shares, hv, hearly.length_le, hearly.enumeration, ?_⟩
  · rw [map_fst_cycleVisits, cycleNames, value_enumerate_onPart]
  · -- The faults are known as those that were raised; what they can be follows from the daemon's
    -- answers.
    refine hshares.imp fun visit faults ⟨hvisit, hshare⟩ =>
      ⟨hshare.length_le, fun fault hm => ?_⟩
    exact counted_of_raised ht hvisit (hshare.raised fault hm)

/-- A reconciler of these containers over a daemon and a registry side by side. -/
def besideReconciler (settings : Settings) (names : List String) :
    Reconciler (DaemonLink × RegistryLink) where
  settings
  inspector := (Inspection.daemonInspector settings).onPart Prod.fst
    fun link world => (link, world.2)
  publisher := (Publication.registryPublisher settings).onPart Prod.snd
    fun link world => (world.1, link)
  alarm := ⟨fun _ => false, fun seconds => Task.ofAct (Act.request (.wait seconds))⟩
  names

/-- A daemon that cannot list its containers, does not know one, and tells of another what cannot
be read. -/
def failingDaemon : DaemonLink where
  daemon :=
    { running := .error ⟨.stated .type "unexpected answer", none⟩
      attributes := fun name =>
        if name = "gone" then .error ⟨.stated .daemonImageNotFound "404", none⟩
        else if name = "odd" then .ok (.obj [("Config", .obj [("Env", .str "A=B")])])
        else .ok (.obj
          [("Config", .obj [("Env", .arr [.str "BEACHHEAD_DOMAINS=example.org"])]),
            ("NetworkSettings", .obj [("IPAddress", .str "10.0.0.2")])]) }

/-- A registry that does not answer. -/
def silentRegistry : RegistryLink where
  registry := { refusal := fun _ => some ⟨.stated .registryTimeout "timed out", none⟩ }

/-- A reconciler of three containers that also looks for others. -/
def searchingReconciler : Reconciler (DaemonLink × RegistryLink) :=
  besideReconciler { enumerate := true } ["web", "gone", "odd"]

theorem cycle_survives_failing_daemon :
    (searchingReconciler.cycle.run (failingDaemon, silentRegistry)).value =
        .ok [⟨.listingFailed ⟨.type, "unexpected answer"⟩, none⟩,
          ⟨.writeFailed "beachhead:10.0.0.2" ⟨.registryTimeout, "timed out"⟩, some "web"⟩,
          ⟨.noSuchContainer ⟨.daemonImageNotFound, "404"⟩, some "gone"⟩,
          ⟨.envNotList, some "odd"⟩] ∧
      ∃ early shares, (searchingReconciler.cycle.run (failingDaemon, silentRegistry)).value =
          .ok (early ++ shares.flatten) ∧
        early.length ≤ 1 ∧ (∀ fault ∈ early, fault.kind = .enumeration) ∧
        List.Forall₂
          (fun visit faults => faults.length ≤ 1 ∧
            ∀ fault ∈ faults, Counted visit.2.1 visit.1 fault)
          (searchingReconciler.cycleVisits (failingDaemon, silentRegistry)) shares := by
  have hr : create? { enumerate := true } searchingReconciler.inspector
      searchingReconciler.publisher searchingReconciler.alarm
      [.str "web", .str "gone", .str "odd"] = .ok searchingReconciler :=
    create?_eq_ok_iff.2 ⟨by decide, rfl⟩
  -- The daemon's link and the registry's are side by side, and neither call touches the other
  -- one's.
  have ht : StaysTame (fun world : DaemonLink × RegistryLink => world.2.registry.Tame)
      (fun link world => (link, world.2)) Prod.snd fun link world => (world.1, link) :=
    ⟨fun hw => hw, fun hw _ => hw, fun _ _ hlink => hlink⟩
  have hsilent : silentRegistry.registry.Tame := by
    rintro key fault ⟨⟩
    rfl
  exact ⟨by decide +kernel, (cycle_survives hr ht hsilent).2⟩

/-- A daemon that says of every container that another one cannot be inspected. -/
def confusedDaemon : DaemonLink where
  daemon := { attributes := fun _ => .error ⟨.stated .inspection "boom", some "other"⟩ }

/-- What the daemon says of another container is counted as it says it, so that a fault may name a
container that is not in the cycle. -/
theorem cycle_keeps_told_container :
    create? {} (besideReconciler {} ["web"]).inspector (besideReconciler {} ["web"]).publisher
        (besideReconciler {} ["web"]).alarm [.str "web"] = .ok (besideReconciler {} ["web"]) ∧
      (besideReconciler {} ["web"]).cycleNames (confusedDaemon, {}) = ["web"] ∧
      ((besideReconciler {} ["web"]).cycle.run (confusedDaemon, {})).value =
        .ok [⟨.stated .inspection "boom", some "other"⟩] ∧
      ¬∀ faults, ((besideReconciler {} ["web"]).cycle.run (confusedDaemon, {})).value = .ok faults →
        ∀ fault ∈ faults, fault.kind ≠ .enumeration →
          ∃ name ∈ (besideReconciler {} ["web"]).cycleNames (confusedDaemon, {}),
            fault.container = some name := by
  have hnames : (besideReconciler {} ["web"]).cycleNames (confusedDaemon, {}) = ["web"] := by
    decide +kernel
  have hvalue : ((besideReconciler {} ["web"]).cycle.run (confusedDaemon, {})).value =
      .ok [⟨.stated .inspection "boom", some "other"⟩] := by
    decide +kernel
  refine ⟨create?_eq_ok_iff.2 ⟨by decide, rfl⟩, hnames, hvalue, fun hall => ?_⟩
  -- There is one name, and the fault tells of another one.
  obtain ⟨name, hn, hc⟩ := hall _ hvalue _ (List.mem_singleton_self _) (by decide)
  rw [hnames] at hn
  obtain rfl := List.mem_singleton.1 hn
  exact absurd hc (by decide)

end RegistrySync.Reconciler
