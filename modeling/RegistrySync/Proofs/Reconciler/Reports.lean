/-
What the reconciler tells of a cycle.

The inspector and the publisher fail only in the ways that a cycle handles, and do not write in the
reconciler's name. Then the records in its name are accounted for, container by container:

* `ownIn`, `alertsIn` — what is written in the reconciler's name, and the warnings and errors among
  it;
* `Discreet` — collaborators that do not write in this name;
* `failure?` — what goes wrong with a container, whether it counts or not;
* `Tells` — a record that tells of a fault;
* `Account`, `Accounts` — the share of a container in the faults and in the records of a cycle;
* `refresh_accounts`, `refreshAll_accounts`, `cycle_accounts` — one container, a plan, a cycle;
* `CycleAccounts.alerts` — the alerts of a cycle are about its faults, one by one;
* `runFor_ends` — a run that ends with faults ends with a cycle that does.
-/
import RegistrySync.Proofs.Inspection.Link
import RegistrySync.Proofs.Publication.Steps
import RegistrySync.Proofs.Reconciler.Rounds
import RegistrySync.Proofs.Reconciler.Tally

namespace RegistrySync

open Journal (Level Record)

variable {ω : Type}

/-! ### Records in the reconciler's name -/

/-- Whether a record is a warning or worse. -/
def Journal.Record.isLoud (record : Record) : Bool := Level.warning.number ≤ record.level.number

/-- The text of a record has a name in it. -/
def Journal.Record.Names (record : Record) (name : String) : Prop :=
  name.toList <:+: record.text.toList

/-! ### Levels and reports -/

/-- What counts is a warning or worse, and nothing else is. -/
structure Escalation.IsFair (escalation : Escalation) : Prop where
  loud : escalation.report = true → Level.warning.number ≤ escalation.level.number
  calm : escalation.report = false → escalation.level = .info

theorem MissingContainer.isFair_escalation (choice : MissingContainer) (explicit : Bool) :
    (choice.escalation explicit).IsFair := by
  cases choice <;> cases explicit <;> constructor <;> decide

theorem MissingVariable.isFair_escalation (choice : MissingVariable) (explicit : Bool) :
    (choice.escalation explicit).IsFair := by
  cases choice <;> cases explicit <;> constructor <;> decide

namespace Reconciler

/-- The records of a trace that are written in the reconciler's name. -/
def ownIn (trace : List Event) : List Record :=
  (recordsOf trace).filter fun record => record.source == Journal.Source.reconciler

/-- Whether a record is a warning or worse, and not the warning of a cycle without containers. -/
def isAlert (record : Record) : Bool :=
  record.isLoud && record.text != "No containers to refresh"

/-- The alerts of a trace that are written in the reconciler's name. -/
def alertsIn (trace : List Event) : List Record := (ownIn trace).filter isAlert

@[simp] theorem ownIn_nil : ownIn [] = [] := rfl

@[simp] theorem ownIn_append (a b : List Event) : ownIn (a ++ b) = ownIn a ++ ownIn b := by
  simp [ownIn]

@[simp] theorem ownIn_note (level : Level) (text : String) (rest : List Event) :
    ownIn (note level text :: rest) = ⟨level, Journal.Source.reconciler, text⟩ :: ownIn rest := rfl

/-- What is written in other names is left out. -/
theorem ownIn_records {records : List Record}
    (h : ∀ record ∈ records, record.source ≠ Journal.Source.reconciler) :
    ownIn (records.map .record) = [] := by
  have hrecords : recordsOf (records.map .record) = records := by simp [recordsOf]
  rw [ownIn, hrecords, List.filter_eq_nil_iff]
  simpa using h

theorem alertsIn_sublist (trace : List Event) : (alertsIn trace).Sublist (recordsOf trace) :=
  List.filter_sublist.trans List.filter_sublist

/-- In the worlds of `I` the collaborators do not write in the reconciler's name. -/
structure Discreet (I : ω → Prop) (inspector : Inspector ω) (publisher : Publisher ω) : Prop where
  enumerate : ∀ {world}, I world → ownIn (inspector.enumerate.run world).trace = []
  inspect : ∀ name {world}, I world → ownIn ((inspector.inspect name).run world).trace = []
  publish : ∀ publication {world}, I world →
    ownIn ((publisher.publish publication).run world).trace = []

/-- The daemon's inspector and the registry's publisher write in names of their own. -/
theorem discreet_onPart {settings : Settings} {getD : ω → DaemonLink} {putD : DaemonLink → ω → ω}
    {getR : ω → RegistryLink} {putR : RegistryLink → ω → ω} (I : ω → Prop) :
    Discreet I ((Inspection.daemonInspector settings).onPart getD putD)
      ((Publication.registryPublisher settings).onPart getR putR) := by
  have huse : ∀ link request, ownIn (Inspection.useTrace settings link request) = [] := by
    intro link request
    unfold Inspection.useTrace
    split
    · rfl
    · split <;> rfl
  refine ⟨fun {world} _ => ?_, fun name world _ => ?_, fun publication world _ => ?_⟩
  · show ownIn ((Inspection.enumerate settings).run (getD world)).trace = []
    rw [Inspection.run_enumerate, ownIn_append, huse, List.nil_append]
    unfold Inspection.listedNotes
    split <;> rfl
  · show ownIn ((Inspection.inspect settings name).run (getD world)).trace = []
    rw [Inspection.run_inspect, ownIn_append, huse, List.nil_append]
    unfold Inspection.inspectedNotes
    split
    · -- The records of an inspection are about unknown parameters of domain specs.
      unfold Inspection.ofAttributes
      split
      · rfl
      · exact ownIn_records (List.forall_mem_map.2 fun param _ => by
          show Journal.Source.domainSpec ≠ Journal.Source.reconciler
          decide)
    · rfl
  · show ownIn ((Publication.publish settings publication).run (getR world)).trace = []
    rw [Publication.run_publish, ownIn_append]
    have hconnect : ownIn (Publication.connectTrace settings (getR world)) = [] := by
      unfold Publication.connectTrace
      split <;> rfl
    have hnotes : ∀ refusal, ownIn (.request (.setKey (recordKey settings publication.host)
        publication.encode settings.expire) ::
          Publication.publishedNotes settings publication refusal) = [] := by
      intro refusal
      cases refusal <;> rfl
    rw [hconnect, hnotes, List.nil_append]

/-! ### Records about faults -/

/-- What goes wrong with a container whose refresh starts in `world`, whether it counts or not. -/
def failure? (r : Reconciler ω) (name : String) (world : ω) : Option Fault :=
  let inspected := (r.inspector.inspect name).run world
  match inspected.value with
  | .error fault => some (fault.about name)
  | .ok inspection =>
    if !inspection.declared then some ⟨.variableMissing r.settings.envVar, some name⟩
    else if r.settings.dryRun then none
    else
      match ((r.publisher.publish (.ofInspection inspection)).run inspected.world).value with
      | .ok () => none
      | .error fault => some (fault.about name)

/-- An alert about a fault: it tells of the listing that failed, or names the container of the
fault. -/
inductive Tells (record : Record) (fault : Fault) : Prop
  | listing (hl : record.isLoud = true) (hk : fault.kind = .enumeration)
      (ht : record.text =
        "Failed to enumerate containers; continuing with explicit ones only: " ++ fault.message)
  | container (hl : record.isLoud = true) {name : String} (hc : fault.container = some name)
      (hn : record.Names name) (ht : record.text ≠ "No containers to refresh")

theorem exists_container_about (fault : Fault) (name : String) :
    ∃ container, (fault.about name).container = some container := by
  unfold Fault.about
  split
  · rename_i container hc
    exact ⟨container, hc⟩
  · exact ⟨name, rfl⟩

/-- The message of a fault of a kind that the program reports has the name of its container in
it. -/
theorem infix_message {fault : Fault} {name : String} (hc : fault.container = some name)
    (hk : fault.kind.isReported = true) : name.toList <:+: fault.message.toList := by
  by_cases hn : name = ""
  · subst hn
    exact List.nil_infix
  · rw [Fault.message_of_container hc hk hn]
    exact ⟨(fault.cause.text ++ " Container name: ").toList, ".".toList, by simp⟩

theorem infix_append_message (first : String) {fault : Fault} {name : String}
    (hc : fault.container = some name) (hk : fault.kind.isReported = true) :
    name.toList <:+: (first ++ fault.message).toList := by
  rw [String.toList_append]
  exact (infix_message hc hk).trans (List.suffix_append _ _).isInfix

theorem isReported_of_handlesInspection {fault : Fault} (h : handlesInspection fault = true) :
    fault.kind.isReported = true := by
  unfold handlesInspection at h
  cases hk : fault.kind <;> simp [hk, Kind.isInspection, Kind.isReported] at h ⊢

/-- A text that starts otherwise is not the warning of a cycle without containers. -/
theorem ne_noContainers {first : String} (rest : String)
    (hf : ¬first.toList <+: "No containers to refresh".toList) :
    first ++ rest ≠ "No containers to refresh" := by
  intro h
  rw [← h, String.toList_append] at hf
  exact hf (List.prefix_append _ _)

/-! ### One container -/

/-- The share of a container in a cycle: its faults that count, and the record that tells how its
refresh went. -/
structure Account where
  name : String
  faults : List Fault
  told : Record

/-- The record that a container is looked at. -/
def lookedAt (name : String) : Record :=
  ⟨.info, Journal.Source.reconciler, "Refreshing beachhead config for " ++ name⟩

/-- All records about a container. -/
def Account.records (account : Account) : List Record := [lookedAt account.name, account.told]

/-- The share of a container that is looked at in `world`. What goes wrong with it either counts,
and there is an alert about it, or it does not, and a record names the container without alarm. -/
inductive Accounts (r : Reconciler ω) (name : String) (world : ω) : Account → Prop
  | wentWell {told : Record} (hf : r.failure? name world = none) (hl : told.level = .info) :
      Accounts r name world ⟨name, [], told⟩
  | counted {fault : Fault} {told : Record} (hf : r.failure? name world = some fault)
      (ht : Tells told fault) (hn : told.Names name) : Accounts r name world ⟨name, [fault], told⟩
  | passedOver {fault : Fault} {told : Record} (hf : r.failure? name world = some fault)
      (hl : told.level = .info) (hn : told.Names name) : Accounts r name world ⟨name, [], told⟩

variable {I : ω → Prop} {r : Reconciler ω}

/-- Some trouble that counts if a policy says so. -/
theorem accounts_of_escalation {escalation : Escalation} (he : escalation.IsFair) {name : String}
    {world : ω} {fault : Fault} (hf : r.failure? name world = some fault) {container text : String}
    (hc : fault.container = some container) (hm : container.toList <:+: text.toList)
    (hn : name.toList <:+: text.toList) (ht : text ≠ "No containers to refresh") :
    Accounts r name world ⟨name, if escalation.report then [fault] else [],
      ⟨escalation.level, Journal.Source.reconciler, text⟩⟩ := by
  cases hr : escalation.report with
  | true => exact .counted hf (.container (decide_eq_true (he.loud hr)) hc hm ht) hn
  | false => exact .passedOver hf (he.calm hr) hn

theorem accounts_of_inspection {name : String} {world : ω} {fault : Fault}
    (hf : r.failure? name world = some (fault.about name)) (hh : handlesInspection fault = true)
    (pending : Pending) :
    ∃ told, ownIn [inspectionNote r.settings name pending fault] = [told] ∧
      Accounts r name world ⟨name, inspectionFaults r.settings name pending fault, told⟩ := by
  obtain ⟨container, hc⟩ := exists_container_about fault name
  have hk : (fault.about name).kind.isReported = true := by
    rw [Fault.kind_about]
    exact isReported_of_handlesInspection hh
  refine ⟨_, rfl, accounts_of_escalation (MissingContainer.isFair_escalation _ _) hf hc
    (infix_append_message _ hc hk) ?_ ?_⟩
  · -- The fault may name another container than the one that is looked at, which is named too.
    exact ⟨("Failed to inspect " ++ pending.origin ++ " container ").toList,
      (" (missing-container=" ++ r.settings.missingContainer.word ++ "): " ++
        (fault.about name).message).toList, by simp⟩
  · simp only [String.append_assoc]
    exact ne_noContainers _ (by decide)

theorem accounts_of_undeclared {name : String} {world : ω}
    (hf : r.failure? name world = some ⟨.variableMissing r.settings.envVar, some name⟩)
    (pending : Pending) :
    ∃ told, ownIn [undeclaredNote r.settings name pending] = [told] ∧
      Accounts r name world ⟨name, undeclaredFaults r.settings name pending, told⟩ := by
  have hn : name.toList <:+: ("No environment variable " ++ r.settings.envVar ++ " on " ++
      pending.origin ++ " container " ++ name ++ " (missing-envvar=" ++
        r.settings.missingVariable.word ++ ")").toList :=
    ⟨("No environment variable " ++ r.settings.envVar ++ " on " ++ pending.origin ++
        " container ").toList,
      (" (missing-envvar=" ++ r.settings.missingVariable.word ++ ")").toList, by simp⟩
  refine ⟨_, rfl, accounts_of_escalation (MissingVariable.isFair_escalation _ _) hf rfl hn hn ?_⟩
  simp only [String.append_assoc]
  exact ne_noContainers _ (by decide)

theorem accounts_of_publication {name : String} {world : ω} {fault : Fault}
    (hf : r.failure? name world = some (fault.about name)) (hk : fault.kind = .publishing)
    (pending : Pending) (publication : Publication) :
    ∃ told, ownIn (publicationNotes name pending publication (.error fault)) = [told] ∧
      Accounts r name world ⟨name, [fault.about name], told⟩ := by
  obtain ⟨container, hc⟩ := exists_container_about fault name
  have hr : (fault.about name).kind.isReported = true := by
    rw [Fault.kind_about, hk]
    rfl
  rw [publicationNotes, if_pos hk]
  refine ⟨_, rfl, .counted hf (.container rfl hc (infix_append_message _ hc hr) ?_) ?_⟩
  · simp only [String.append_assoc]
    exact ne_noContainers _ (by decide)
  · exact ⟨("Failed to publish " ++ pending.origin ++ " container ").toList,
      (": " ++ (fault.about name).message).toList, by simp⟩

/-- One container: behind the record that it is looked at stands one more. -/
theorem refresh_accounts (hc : Civil I r.inspector r.publisher)
    (hd : Discreet I r.inspector r.publisher) (name : String) (explicit : Bool) {world : ω}
    (hw : I world) :
    ∃ account, ((r.refresh name ⟨explicit, name⟩).run world).value = .ok account.faults ∧
      ownIn ((r.refresh name ⟨explicit, name⟩).run world).trace = account.records ∧
      Accounts r name world account := by
  have hkept := (hc.inspect name).kept hw
  have hfail := hd.inspect name hw
  rw [run_refresh]
  simp only [Outcome.after_value, Outcome.after_trace, List.cons_append, ownIn_append, refreshNote,
    ownIn_note, hfail, List.nil_append]
  -- Wherever the refresh ends, what stands behind it is the one record of that place.
  cases hv : ((r.inspector.inspect name).run world).value with
  | error fault =>
    have hhandled := (hc.inspect name).sorted hw hv
    have hf : r.failure? name world = some (fault.about name) := by simp [failure?, hv]
    obtain ⟨told, hown, haccount⟩ := accounts_of_inspection hf hhandled ⟨explicit, name⟩
    rw [afterInspection, if_pos hhandled, run_onInspectionFault]
    exact ⟨_, rfl, by rw [hown]; rfl, haccount⟩
  | ok inspection =>
    rw [afterInspection]
    split
    · rename_i hdeclared
      have hf : r.failure? name world =
          some ⟨.variableMissing r.settings.envVar, some name⟩ := by
        simp only [failure?, hv, hdeclared, if_true]
      obtain ⟨told, hown, haccount⟩ := accounts_of_undeclared hf ⟨explicit, name⟩
      rw [run_onUndeclared]
      exact ⟨_, rfl, by rw [hown]; rfl, haccount⟩
    · rename_i hdeclared
      split
      · rename_i hdry
        have hf : r.failure? name world = none := by simp [failure?, hv, hdeclared, hdry]
        rw [run_announce]
        exact ⟨⟨name, [], _⟩, rfl, rfl, .wentWell hf rfl⟩
      · rename_i hdry
        have hpublish := hc.publish (.ofInspection inspection)
        have hsilent := hd.publish (.ofInspection inspection) hkept
        rw [run_publish]
        simp only [ownIn_append, hsilent, List.nil_append]
        cases hp : ((r.publisher.publish (.ofInspection inspection)).run
            ((r.inspector.inspect name).run world).world).value with
        | ok _ =>
          have hf : r.failure? name world = none := by
            simp [failure?, hv, hdeclared, hdry, hp]
          exact ⟨⟨name, [], _⟩, rfl, rfl, .wentWell hf rfl⟩
        | error fault =>
          have hkind := hpublish.sorted hkept hp
          have hf : r.failure? name world = some (fault.about name) := by
            simp [failure?, hv, hdeclared, hdry, hp]
          obtain ⟨told, hown, haccount⟩ :=
            accounts_of_publication hf hkind ⟨explicit, name⟩ (.ofInspection inspection)
          exact ⟨⟨name, [fault.about name], told⟩, if_pos hkind, by rw [hown]; rfl, haccount⟩

/-! ### A cycle -/

theorem refreshAll_accounts (hc : Civil I r.inspector r.publisher)
    (hd : Discreet I r.inspector r.publisher) (given names : List String) {world : ω}
    (hw : I world) :
    ∃ accounts, ((r.refreshAll (names.map (entryOf given))).run world).value =
        .ok (accounts.flatMap Account.faults) ∧
      ownIn ((r.refreshAll (names.map (entryOf given))).run world).trace =
        accounts.flatMap Account.records ∧
      List.Forall₂ (fun visit account => Accounts r visit.1 visit.2 account)
        (r.visits (names.map (entryOf given)) world) accounts := by
  -- Along the plan: what one container leaves is where the next one starts.
  induction names generalizing world with
  | nil =>
    rw [List.map_nil, run_refreshAll_nil]
    exact ⟨[], rfl, rfl, .nil⟩
  | cons name rest ih =>
    obtain ⟨hkept, -⟩ := refresh_share hc name (decide (name ∈ given)) hw
    obtain ⟨account, hv, hown, haccount⟩ :=
      refresh_accounts hc hd name (decide (name ∈ given)) hw
    obtain ⟨accounts, hvs, howns, haccounts⟩ := ih hkept
    rw [List.map_cons, entryOf, run_refreshAll_cons hv]
    refine ⟨account :: accounts, ?_, ?_, .cons haccount haccounts⟩
    · rw [hvs]
      rfl
    · rw [ownIn_append, hown, howns]
      rfl

/-- The warning of a cycle without containers. -/
def noContainers (names : List String) : List Record :=
  if names.isEmpty then
    [⟨.warning, Journal.Source.reconciler, "No containers to refresh"⟩]
  else []

/-- The record that a cycle is over. -/
def closingRecord (containers errors : Nat) : Record :=
  ⟨.debug, Journal.Source.reconciler, "Cycle finished containers=" ++ Text.showNat containers ++
    " errors=" ++ Text.showNat errors⟩

/-- What a cycle that ends with these faults has told in the reconciler's name: of a listing that
failed, that there are no containers, of each container in turn, and that it is over. -/
structure CycleAccounts (r : Reconciler ω) (world : ω) (faults : List Fault)
    (listing : List Record) (accounts : List Account) : Prop where
  counted : ∃ early, faults = early ++ accounts.flatMap Account.faults ∧
    List.Forall₂ Tells listing early
  told : ownIn (r.cycle.run world).trace =
    listing ++ noContainers (r.cycleNames world) ++ accounts.flatMap Account.records ++
      [closingRecord (r.cycleNames world).length faults.length]
  accounts : List.Forall₂ (fun visit account => Accounts r visit.1 visit.2 account)
    (r.cycleVisits world) accounts

theorem merge_tells (hc : Civil I r.inspector r.publisher)
    (hd : Discreet I r.inspector r.publisher) {world : ω} (hw : I world) {plan : Plan}
    {early : List Fault} (hm : (r.merge.run world).value = .ok (plan, early)) :
    List.Forall₂ Tells (ownIn (r.merge.run world).trace) early := by
  cases hs : r.settings.enumerate with
  | false =>
    rw [run_merge_alone hs] at hm ⊢
    cases hm
    exact .nil
  | true =>
    rw [run_merge hs] at hm ⊢
    -- The inspector does not write in the reconciler's name, so the one record is the
    -- reconciler's.
    have hsilent := hd.enumerate hw
    simp only [ownIn_append, hsilent, List.nil_append]
    cases hl : (r.inspector.enumerate.run world).value with
    | ok discovered =>
      simp only [hl, planOf, hs, if_true] at hm
      cases hm
      exact .nil
    | error fault =>
      have hk := hc.enumerate.sorted hw hl
      simp only [hl, planOf, hs, hk, if_true] at hm
      cases hm
      rw [listingNotes, if_pos hk]
      exact .cons (.listing rfl (kind_enumerationFault fault) rfl) .nil

theorem own_cycle {r : Reconciler ω} {world : ω} {early faults : List Fault}
    (hm : (r.merge.run world).value = .ok ((r.cycleNames world).map (entryOf r.names), early))
    (hv : ((r.refreshAll ((r.cycleNames world).map (entryOf r.names))).run
      (r.merge.run world).world).value = .ok faults) :
    ownIn (r.cycle.run world).trace =
      ownIn (r.merge.run world).trace ++ noContainers (r.cycleNames world) ++
        ownIn ((r.refreshAll ((r.cycleNames world).map (entryOf r.names))).run
          (r.merge.run world).world).trace ++
        [closingRecord (r.cycleNames world).length (early ++ faults).length] := by
  have hempty : ownIn (emptyNotes ((r.cycleNames world).map (entryOf r.names))) =
      noContainers (r.cycleNames world) := by
    unfold emptyNotes noContainers
    cases r.cycleNames world <;> rfl
  rw [run_cycle hm, hv]
  simp only [ownIn_append, hempty, Except.map, closingNotes, ownIn_note, ownIn_nil,
    List.length_map]
  rfl

/-- A cycle comes to an end, and accounts for what it tells. -/
theorem cycle_accounts (hc : Civil I r.inspector r.publisher)
    (hd : Discreet I r.inspector r.publisher) {world : ω} (hw : I world) :
    ∃ faults listing accounts, (r.cycle.run world).value = .ok faults ∧
      CycleAccounts r world faults listing accounts := by
  obtain ⟨hkept, early, hm, -⟩ := merge_early hc hw
  obtain ⟨accounts, hv, hown, haccounts⟩ :=
    refreshAll_accounts hc hd r.names (r.cycleNames world) hkept
  have htold := own_cycle hm hv
  rw [hown] at htold
  refine ⟨early ++ accounts.flatMap Account.faults, _, accounts, ?_,
    ⟨⟨early, rfl, merge_tells hc hd hw hm⟩, htold, haccounts⟩⟩
  rw [run_cycle hm, hv]
  rfl

/-! ### Alerts -/

theorem Tells.isAlert {record : Record} {fault : Fault} (h : Tells record fault) :
    isAlert record = true := by
  cases h with
  | listing hl hk ht =>
    have hne : record.text ≠ "No containers to refresh" := by
      rw [ht]
      exact ne_noContainers _ (by decide)
    simp [Reconciler.isAlert, hl, hne]
  | container hl hc hn hne => simp [Reconciler.isAlert, hl, hne]

theorem not_isAlert_of_info {record : Record} (h : record.level = .info) :
    ¬isAlert record = true := by
  unfold isAlert Journal.Record.isLoud
  rw [h]
  exact Bool.false_ne_true

theorem filter_isAlert {records : List Record} {faults : List Fault}
    (h : List.Forall₂ Tells records faults) : records.filter isAlert = records := by
  induction h with
  | nil => rfl
  | cons hfirst _ ih => rw [List.filter_cons_of_pos hfirst.isAlert, ih]

theorem Accounts.alerts {name : String} {world : ω} {account : Account}
    (h : Accounts r name world account) :
    List.Forall₂ Tells (account.records.filter isAlert) account.faults := by
  have hlooked : ¬isAlert (lookedAt account.name) = true := not_isAlert_of_info rfl
  rw [Account.records, List.filter_cons_of_neg hlooked]
  cases h with
  | wentWell hf hl =>
    rw [List.filter_cons_of_neg (not_isAlert_of_info hl)]
    exact .nil
  | counted hf ht hn =>
    rw [List.filter_cons_of_pos ht.isAlert]
    exact .cons ht .nil
  | passedOver hf hl hn =>
    rw [List.filter_cons_of_neg (not_isAlert_of_info hl)]
    exact .nil

theorem alerts_flatMap {visits : List (String × ω)} {accounts : List Account}
    (h : List.Forall₂ (fun visit account => Accounts r visit.1 visit.2 account) visits accounts) :
    List.Forall₂ Tells ((accounts.flatMap Account.records).filter isAlert)
      (accounts.flatMap Account.faults) := by
  induction h with
  | nil => exact .nil
  | cons hfirst _ ih =>
    rw [List.flatMap_cons, List.flatMap_cons, List.filter_append]
    exact List.rel_append hfirst.alerts ih

/-- The alerts of a cycle are about its faults, one by one and in their order. -/
theorem CycleAccounts.alerts {world : ω} {faults : List Fault} {listing : List Record}
    {accounts : List Account} (h : CycleAccounts r world faults listing accounts) :
    List.Forall₂ Tells (alertsIn (r.cycle.run world).trace) faults := by
  obtain ⟨early, rfl, hlisting⟩ := h.counted
  have hnone : ∀ names, (noContainers names).filter isAlert = [] := by
    intro names
    unfold noContainers
    split <;> rfl
  have hclosing : ∀ containers errors, [closingRecord containers errors].filter isAlert = [] :=
    fun _ _ => rfl
  rw [alertsIn, h.told]
  simp only [List.filter_append, hnone, hclosing, List.append_nil, filter_isAlert hlisting]
  exact List.rel_append hlisting (alerts_flatMap h.accounts)

/-! ### A run -/

/-- Waiting keeps what the alarm keeps. -/
theorem wait_stays (ha : ∀ seconds {world}, I world → I ((r.alarm.wait seconds).run world).world)
    {world : ω} (hw : I world) : I (r.wait.run world).world := by
  rcases r.stops_or_waits world with hstop | ⟨seconds, hs, hset⟩
  · rwa [run_wait_stop hstop]
  · rw [run_wait_go hs hset]
    exact ha seconds hw

/-- A run that ends with faults ends with a cycle that does. Behind it there is only the wait that
the alarm has ended. -/
theorem runFor_ends (hc : Civil I r.inspector r.publisher)
    (ha : ∀ seconds {world}, I world → I ((r.alarm.wait seconds).run world).world) {bound : Nat}
    {world : ω} (hw : I world) {faults : List Fault}
    (h : ((r.runFor bound).run world).value = .ok (some faults)) :
    ∃ start, I start ∧ (r.cycle.run start).value = .ok faults ∧
      ∃ earlier, ((r.runFor bound).run world).trace =
        earlier ++ (r.cycle.run start).trace ++ (r.wait.run (r.cycle.run start).world).trace := by
  -- Either the first cycle is the last one, or a shorter run starts behind the wait.
  induction bound generalizing world with
  | zero => cases h
  | succ bound ih =>
    cases r.round world with
    | failed hv =>
      rw [run_runFor_fault hv] at h
      cases h
    | unwaited hv hgo =>
      rw [run_runFor_unwaited hv hgo] at h
      cases h
    | last hv hgo =>
      rw [run_runFor_last hv hgo] at h ⊢
      cases h
      exact ⟨world, hw, hv, [], rfl⟩
    | @next first hv hgo =>
      rw [run_runFor_next hv hgo] at h ⊢
      obtain ⟨start, hstart, hvalue, earlier, htrace⟩ :=
        ih (wait_stays ha (cycle_shares hc hw).1) h
      have hwhole := congrArg ((r.cycle.run world).trace ++
        (r.wait.run (r.cycle.run world).world).trace ++ roundNotes first ++ ·) htrace
      simp only [← List.append_assoc] at hwhole
      exact ⟨start, hstart, hvalue, _, hwhole⟩

end Reconciler

end RegistrySync
