/-
Runs with nothing to do.

A run refuses to start without a container on its command line, unless it is to enumerate. A
reconciler leaves out names that are nothing but blanks, however, and the start does not.

* `Nameless` — containers with nothing but blanks in them;
* `uniqueNames_eq_nil_iff` — these are the ones of which a reconciler has no name;
* `run_cycle_idle`, `run_runFor_idle` — a reconciler without names and without enumeration does
  nothing in any cycle, and its run ends without faults;
* `Started`, `Started.idle` — a run that has started, and what shows of it; without names and
  without enumeration it comes to nothing;
* `execute_refused`, `execute_started` — with usable settings, the start looks at whether there is a
  container and at nothing else;
* `run_refuses_or_has_names` — which runs with usable settings are refused, which have something
  to do, and which start without it;
* `run_blank_container` — a container that is a single space starts a run that has nothing to do.
-/
import RegistrySync.Proofs.CommandLine.StartUp

namespace RegistrySync

namespace Reconciler

variable {ω : Type}

/-! ### No names -/

/-- There is nothing but blanks in any of the containers. -/
def Nameless (containers : List String) : Prop :=
  ∀ container ∈ containers, ∀ c ∈ container.toList, Text.isBlank c = true

instance (containers : List String) : Decidable (Nameless containers) :=
  decidable_of_iff (containers.all fun container => container.toList.all Text.isBlank)
    (by simp [Nameless])

theorem nameOf_str_eq_empty_iff {s : String} :
    nameOf (.str s) = "" ↔ ∀ c ∈ s.toList, Text.isBlank c = true := by
  rw [← Text.strip_eq_empty_iff, nameOf]
  split
  · rename_i hempty
    have hs : s = "" := String.isEmpty_iff.1 hempty
    rw [hs]
    exact iff_of_true rfl rfl
  · exact Iff.rfl

/-- A reconciler has no names exactly if there is nothing but blanks in its containers. -/
theorem uniqueNames_eq_nil_iff {containers : List String} :
    uniqueNames (containers.map .str) = [] ↔ Nameless containers := by
  -- The names are those of the containers, once each, but for the empty one.
  have hmem : ∀ name, name ∈ uniqueNames (containers.map .str) ↔
      (∃ container ∈ containers, nameOf (.str container) = name) ∧ name ≠ "" := by
    intro name
    rw [uniqueNames, Text.mem_distinct_iff]
    simp
  rw [List.eq_nil_iff_forall_not_mem]
  constructor
  · intro hnone container hcontainer
    rw [← nameOf_str_eq_empty_iff]
    by_contra hne
    exact hnone _ ((hmem _).2 ⟨⟨container, hcontainer, rfl⟩, hne⟩)
  · intro hblank name hname
    obtain ⟨⟨container, hcontainer, rfl⟩, hne⟩ := (hmem name).1 hname
    exact hne (nameOf_str_eq_empty_iff.2 (hblank container hcontainer))

/-! ### Nothing to do -/

/-- What a cycle without containers tells. -/
def idleNotes : List Event := emptyNotes [] ++ closingNotes [] (.ok [])

/-- Without names and without enumeration, a cycle tells that there is nothing to do, and leaves the
world as it is. -/
theorem run_cycle_idle {r : Reconciler ω} (hnames : r.names = [])
    (halone : r.settings.enumerate = false) (world : ω) :
    r.cycle.run world = ⟨.ok [], world, idleNotes⟩ := by
  have hmerge : r.merge.run world = ⟨.ok ([], []), world, []⟩ := by
    rw [run_merge_alone halone, hnames]
    rfl
  rw [run_cycle (by rw [hmerge]), hmerge]
  rfl

/-- A run of such cycles ends without faults, or is cut short, unless a wait fails. -/
theorem run_runFor_idle {r : Reconciler ω} (hidle : ∀ world, (r.cycle.run world).value = .ok [])
    (hbears : r.alarm.Bears r.settings.refresh) (bound : Nat) (world : ω) :
    ((r.runFor bound).run world).value = .ok none ∨
      ((r.runFor bound).run world).value = .ok (some []) := by
  -- On the number of cycles, in any world, since the wait behind a cycle may change it.
  induction bound generalizing world with
  | zero => exact Or.inl rfl
  | succ bound ih =>
    obtain ⟨more, hw⟩ := wait_value_of_bears hbears (r.cycle.run world).world
    cases more with
    | false =>
      rw [run_runFor_last (hidle world) hw]
      exact Or.inr rfl
    | true =>
      rw [run_runFor_next (hidle world) hw]
      exact ih _

end Reconciler

namespace CommandLine

open Command (run_eq_of_ok)
open Reconciler (create? create?_eq_ok_iff Nameless idleNotes)
open Settings (ExpireTooLarge)

variable {ω : Type} {words : List String} {session noted : Session ω} {parsed : Parsed}
  {chosen : Overrides} {settings : Settings} {containers : List String}

/-! ### Refused, or started -/

/-- A command has come to a run that has started: there is a reconciler over the settings and the
containers, the command ends as its run does, and what shows of the command is what the run does. -/
structure Started (collaborators : Collaborators ω) (settings : Settings) (containers : List String)
    (session : Session ω) (ended : Exit × Session ω) (r : Reconciler ω) : Prop where
  created : create? settings (collaborators.inspector settings) (collaborators.publisher settings)
    collaborators.alarm (containers.map .str) = .ok r
  exit : ended.1 = exitOf ((r.runFor (collaborators.cycleBound session.world)).run
    session.world).value
  outward : ended.2.outward =
    (session.output,
      session.requests ++ requestsOf ((r.runFor (collaborators.cycleBound session.world)).run
        session.world).trace,
      ((r.runFor (collaborators.cycleBound session.world)).run session.world).world,
      session.signals)

section

variable {collaborators : Collaborators ω} {ended : Exit × Session ω} {r : Reconciler ω}

theorem Started.eq (h : Started collaborators settings containers session ended r) :
    r.settings = settings ∧ r.names = Reconciler.uniqueNames (containers.map .str) ∧
      r.alarm = collaborators.alarm := by
  obtain ⟨-, rfl⟩ := create?_eq_ok_iff.1 h.created
  exact ⟨rfl, rfl, rfl⟩

/-- A run without names and without enumeration has cycles that do nothing, and the command ends
with status 0 when the run has ended, if the alarm can be waited for. -/
theorem Started.idle (h : Started collaborators settings containers session ended r)
    (hblank : Nameless containers) (halone : settings.enumerate = false) :
    r.names = [] ∧ (∀ world, r.cycle.run world = ⟨.ok [], world, idleNotes⟩) ∧
      (collaborators.alarm.Bears settings.refresh → ended.1 ≠ .unfinished →
        ended.1 = .status 0) := by
  obtain ⟨hsettings, hnames, halarm⟩ := h.eq
  have hnil : r.names = [] := hnames.trans (Reconciler.uniqueNames_eq_nil_iff.2 hblank)
  have hidle : ∀ world, r.cycle.run world = ⟨.ok [], world, idleNotes⟩ :=
    Reconciler.run_cycle_idle hnil (by rw [hsettings, halone])
  refine ⟨hnil, hidle, fun hbears hended => ?_⟩
  rw [← halarm, ← hsettings] at hbears
  rcases Reconciler.run_runFor_idle (fun world => congrArg Outcome.value (hidle world)) hbears
    (collaborators.cycleBound session.world) session.world with hcut | hlast
  · rw [h.exit, hcut] at hended
    -- The run was cut short, so the command has not ended.
    exact absurd rfl hended
  · rw [h.exit, hlast, exitOf, if_pos rfl]

end

/-- With usable settings, a run is refused if there is no container and no enumeration. -/
theorem execute_refused (h : Prepared words session parsed chosen noted)
    (collaborators : Collaborators ω) (hresolve : Settings.resolve noted.env chosen = .ok settings)
    (hnone : parsed.words = []) (halone : settings.enumerate = false) :
    ∃ last, execute collaborators words session =
      (.status fatalStatus,
        { noted with settings := last, screen := fatalScreen noted ⟨.nothingNamed, none⟩ }) := by
  have hcannot : CannotStart noted.env chosen parsed.words ⟨.nothingNamed, none⟩ :=
    .nothingNamed hresolve (by rw [hnone, halone]; rfl)
  have hsmall : ¬ExpireTooLarge noted.env chosen := by
    intro hlarge
    rw [Settings.resolve_eq_expireTooLarge_iff.2 hlarge] at hresolve
    cases hresolve
  obtain ⟨last, hstart⟩ := run_startUp_fatal collaborators hcannot hsmall
  exact ⟨last, execute_of_startUp_error h collaborators hstart⟩

/-- Any other run with usable settings is started. -/
theorem execute_started (h : Prepared words session parsed chosen noted)
    (collaborators : Collaborators ω) (hresolve : Settings.resolve noted.env chosen = .ok settings)
    (hvalid : settings.problems = [])
    (hnamed : (parsed.words.isEmpty && !settings.enumerate) = false) :
    ∃ r, Started collaborators settings parsed.words session
      (execute collaborators words session) r := by
  have heffective : effectiveSettings noted.env chosen parsed.words = .ok settings := by
    rw [effectiveSettings, hresolve]
    simp [hnamed, hvalid]
  obtain ⟨r, hcreate, hstart⟩ := run_startUp_ok collaborators heffective
  obtain ⟨hexit, houtward⟩ := execute_of_startUp_ok h collaborators hstart
  exact ⟨r, hcreate, hexit, houtward⟩

/-- Let a command line come to a run with usable settings.

If it has no containers and is not to enumerate, then nothing has been put out or asked of the
collaborators, their world and the signals are as they were, it is told that there is nothing to
do, and the command ends with status 100. If one of its containers has more than blanks in it, or
if it is to enumerate, then it is started, and has a name or enumerates.

Only if it has containers, but nothing but blanks in them, and is not to enumerate, it is started
with nothing to do: no cycle does more than to tell so, and unless a wait fails, the command ends
with status 0 when its run has ended. -/
theorem run_refuses_or_has_names (h : Prepared words session parsed chosen noted)
    (collaborators : Collaborators ω) (hresolve : Settings.resolve noted.env chosen = .ok settings)
    (hvalid : settings.problems = []) :
    let ended := execute collaborators words session
    (parsed.words = [] → settings.enumerate = false →
      ended.1 = .status 100 ∧ ended.2.output = session.output ∧
        ended.2.requests = session.requests ∧ ended.2.world = session.world ∧
        ended.2.signals = session.signals ∧
        ended.2.screen.console = (startUpFailed noted).console ++
          "Fatal error: Provide at least one CONTAINER or use --enumerate\n") ∧
    (¬ Nameless parsed.words ∨ settings.enumerate = true →
      ∃ r, Started collaborators settings parsed.words session ended r ∧
        (r.names ≠ [] ∨ r.settings.enumerate = true)) ∧
    (parsed.words ≠ [] → Nameless parsed.words → settings.enumerate = false →
      ∃ r, Started collaborators settings parsed.words session ended r ∧
        r.names = [] ∧ (∀ world, r.cycle.run world = ⟨.ok [], world, idleNotes⟩) ∧
        (collaborators.alarm.Bears settings.refresh → ended.1 ≠ .unfinished →
          ended.1 = .status 0)) := by
  intro ended
  refine ⟨fun hnone halone => ?_, fun hnamed => ?_, fun hsome hblank halone => ?_⟩
  · obtain ⟨last, hended⟩ := execute_refused h collaborators hresolve hnone halone
    -- What the refused start leaves is known as a whole, so the parts of the session that nothing
    -- has touched are read off it.
    have hexit : ended.1 = .status 100 := congrArg Prod.fst hended
    have hleft : ended.2 = { noted with
        settings := last, screen := fatalScreen noted ⟨.nothingNamed, none⟩ } :=
      congrArg Prod.snd hended
    obtain ⟨houtput, hrequests, hworld, hsignals⟩ := Session.outward_inj h.outward
    rw [hleft]
    exact ⟨hexit, houtput, hrequests, hworld, hsignals, rfl⟩
  · have hguard : (parsed.words.isEmpty && !settings.enumerate) = false := by
      -- The guard looks at the words as they are given, not at the names that are made of them.
      rcases hnamed with hnamed | hasked
      · cases hwords : parsed.words with
        | nil => exact absurd (hwords ▸ nofun) hnamed
        | cons word rest => rfl
      · rw [hasked, Bool.not_true, Bool.and_false]
    obtain ⟨r, hstarted⟩ := execute_started h collaborators hresolve hvalid hguard
    obtain ⟨hsettings, hnames, -⟩ := hstarted.eq
    refine ⟨r, hstarted, ?_⟩
    rw [hsettings, hnames, ne_eq, Reconciler.uniqueNames_eq_nil_iff]
    exact hnamed
  · have hguard : (parsed.words.isEmpty && !settings.enumerate) = false := by
      -- Here the same guard lets through words of which no name is made.
      rw [List.isEmpty_eq_false_iff.2 hsome, Bool.false_and]
    obtain ⟨r, hstarted⟩ := execute_started h collaborators hresolve hvalid hguard
    exact ⟨r, hstarted, hstarted.idle hblank halone⟩

theorem run_refuses_or_has_names_none :
    let ended := execute idleCollaborators ["run", "--refresh", "0"] emptySession
    ended.1 = .status 100 ∧ ended.2.requests = [] ∧
      ended.2.screen.console =
        "Fatal error: Provide at least one CONTAINER or use --enumerate\n" := by
  dsimp only
  let parsed : Parsed := { given := [⟨"--refresh", some "0"⟩] }
  let chosen : Overrides := { refresh := some 0 }
  have hcommon : ((common ["run", "--refresh", "0"]).run emptySession).1 =
      .ok { words := ["run", "--refresh", "0"] } := by decide +kernel
  have hread : readRunOptions? parsed = some chosen := by decide +kernel
  obtain ⟨noted, hprepared, henv, hconsole⟩ : ∃ noted,
      Prepared ["run", "--refresh", "0"] emptySession parsed chosen noted ∧ noted.env = [] ∧
        (startUpFailed noted).console = "" :=
    ⟨_, ⟨⟨_, _, _, readied_of_ok hcommon rfl (by decide +kernel), rfl,
      run_eq_of_ok (by decide +kernel)⟩, rfl, hread⟩, by decide +kernel, by decide +kernel⟩
  have hresolve : Settings.resolve noted.env chosen = .ok {} := by
    rw [henv]
    decide +kernel
  obtain ⟨hrefused, -⟩ := run_refuses_or_has_names hprepared idleCollaborators hresolve
    (by decide)
  obtain ⟨hexit, -, hrequests, -, -, hshown⟩ := hrefused rfl rfl
  rw [hconsole, String.empty_append] at hshown
  exact ⟨hexit, hrequests, hshown⟩

/-- A container that is a single space has no name. The run is started all the same: there is a
cycle, which tells that there is nothing to do, and the command ends with status 0. -/
theorem run_blank_container :
    let ended := execute idleCollaborators ["run", " ", "--refresh", "0"] emptySession
    Nameless [" "] ∧ ended.1 = .status 0 ∧ ended.1 ≠ .status fatalStatus ∧
      ended.2.screen.console =
        " [beachhead_companion.cli] INFO: Starting redis=localhost:6379 expire=60 refresh=None " ++
          "envvar=BEACHHEAD_DOMAINS enumerate=False dry_run=False\n" ++
          " [beachhead_companion.companion] WARNING: No containers to refresh\n" := by
  decide +kernel

end CommandLine

end RegistrySync
