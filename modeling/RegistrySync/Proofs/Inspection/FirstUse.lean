/-
The client to the daemon is made on first use.

An inspector without a client makes one when it is asked for something. If that fails, the call
fails, and the next call tries again. From the call that has a client, the inspector cannot be told
from one that had a client from the start. The daemon may answer every call differently.

* `Call.refused` — what a call ends with for want of a client;
* `Stands` — what is left of the link to the daemon after so many calls;
* `stands_after` — it is left so by any calls;
* `Delayed` — one call of an inspector without a client beside the same call of one that has it;
* `thrift` — every attempt to make the client uses up one of those that it takes;
* `first_use` — the calls of such an inspector, and the runs of a reconciler that has it.
-/
import RegistrySync.Proofs.Inspection.Link
import RegistrySync.Proofs.Reconciler.Law
import RegistrySync.Proofs.Reconciler.Survival

namespace RegistrySync.Inspection

open Journal

variable (settings : Settings)

/-! ### Calls -/

/-- What an inspector can be asked for. -/
inductive Call where
  | enumerate
  | inspect (name : String)
  deriving DecidableEq

/-- What it answers. -/
inductive Reply where
  | names (names : List String)
  | inspection (inspection : Inspection)
  deriving DecidableEq

namespace Call

/-- The call as a task. -/
def task : Call → Task DaemonLink Reply
  | enumerate => Reply.names <$> (daemonInspector settings).enumerate
  | inspect name => Reply.inspection <$> (daemonInspector settings).inspect name

/-- What the daemon is asked for. -/
def request : Call → Request
  | enumerate => .listRunning
  | inspect name => .fetch name

/-- The kind of fault with which the call fails for want of a client. -/
def refusedKind : Call → Kind
  | enumerate => .enumeration
  | inspect _ => .inspection

/-- What the call ends with if the client cannot be made. A listing tells of it in words of its
own. -/
def refused (why : Symptom) : Call → Fault
  | enumerate => ⟨.listingFailed (Fault.mk (.daemonUnavailable why) none).symptom, none⟩
  | inspect _ => ⟨.daemonUnavailable why, none⟩

@[simp] theorem kind_refused (why : Symptom) (call : Call) :
    (call.refused why).kind = call.refusedKind := by
  cases call <;> rfl

end Call

/-- A call, and how the daemon answers when it is made. -/
structure Moment where
  call : Call
  daemon : Daemon

namespace Moment

/-- The link as the call finds it. What the daemon has yet to refuse is the link's own. -/
def meet (moment : Moment) (link : DaemonLink) : DaemonLink :=
  { link with daemon := { moment.daemon with refusals := link.daemon.refusals } }

/-- What the call leaves. -/
def outcome (moment : Moment) (link : DaemonLink) : Outcome DaemonLink (Except Fault Reply) :=
  (moment.call.task settings).run (moment.meet link)

@[simp] theorem connected_meet (moment : Moment) (link : DaemonLink) :
    (moment.meet link).connected = link.connected := rfl

@[simp] theorem refusals_meet (moment : Moment) (link : DaemonLink) :
    (moment.meet link).daemon.refusals = link.daemon.refusals := rfl

end Moment

/-- The link after calls that are made one after another. -/
def after (link : DaemonLink) (moments : List Moment) : DaemonLink :=
  moments.foldl (fun link moment => (moment.outcome settings link).world) link

/-! ### One call -/

/-- The request for a client. -/
def opening : Event := .request (.openDaemon (clientUrl settings))

/-- The record about a client that was made. -/
def opened : Event :=
  .record ⟨.debug, Source.inspector, "Docker client initialized url=" ++ shownUrl settings⟩

theorem outcome_enumerate (daemon : Daemon) (link : DaemonLink) :
    let met := Moment.meet ⟨.enumerate, daemon⟩ link
    Moment.outcome settings ⟨.enumerate, daemon⟩ link =
      ⟨(listed (met.through daemon.running)).map .names, met.used,
        useTrace settings link .listRunning ++ listedNotes (met.through daemon.running)⟩ := by
  intro met
  rw [Moment.outcome, Call.task, daemonInspector, Task.run_map, run_enumerate]
  rfl

theorem outcome_inspect (name : String) (daemon : Daemon) (link : DaemonLink) :
    let met := Moment.meet ⟨.inspect name, daemon⟩ link
    Moment.outcome settings ⟨.inspect name, daemon⟩ link =
      ⟨(inspected settings name (met.through (daemon.attributes name))).map .inspection, met.used,
        useTrace settings link (.fetch name) ++
          inspectedNotes settings name (met.through (daemon.attributes name))⟩ := by
  intro met
  rw [Moment.outcome, Call.task, daemonInspector, Task.run_map, run_inspect]
  rfl

/-- Whatever the call, it is one use of the link. -/
theorem world_outcome (moment : Moment) (link : DaemonLink) :
    (moment.outcome settings link).world = (moment.meet link).used := by
  obtain ⟨call, daemon⟩ := moment
  cases call with
  | enumerate => rw [outcome_enumerate]
  | inspect name => rw [outcome_inspect]

/-- What the daemon's answer comes to, and what is told of it. -/
def Moment.answered (moment : Moment) : Except Fault Reply × List Event :=
  match moment.call with
  | .enumerate => ((listed moment.daemon.running).map .names, listedNotes moment.daemon.running)
  | .inspect name =>
    ((inspected settings name (moment.daemon.attributes name)).map .inspection,
      inspectedNotes settings name (moment.daemon.attributes name))

/-- A call that has a client, be it that it finds one or makes it, has the daemon's answer. -/
theorem outcome_of_client (moment : Moment) {link : DaemonLink} (h : link.refusal? = none) :
    (moment.outcome settings link).value = (moment.answered settings).1 ∧
      (moment.outcome settings link).trace =
        useTrace settings link moment.call.request ++ (moment.answered settings).2 := by
  have hmeet : (moment.meet link).refusal? = none := h
  obtain ⟨call, daemon⟩ := moment
  cases call with
  | enumerate =>
    rw [outcome_enumerate, DaemonLink.through_of_none hmeet]
    exact ⟨rfl, rfl⟩
  | inspect name =>
    rw [outcome_inspect, DaemonLink.through_of_none hmeet]
    exact ⟨rfl, rfl⟩

/-- A call that cannot have a client fails, each in its own way, and tells nothing. -/
theorem outcome_of_refused (moment : Moment) {link : DaemonLink} {reason : String}
    (h : link.refusal? = some reason) :
    (moment.outcome settings link).value =
        .error (moment.call.refused ⟨moment.daemon.refusalKind, reason⟩) ∧
      (moment.outcome settings link).trace = useTrace settings link moment.call.request := by
  have hmeet : (moment.meet link).refusal? = some reason := h
  obtain ⟨call, daemon⟩ := moment
  cases call with
  | enumerate =>
    rw [outcome_enumerate, DaemonLink.through_of_some hmeet]
    exact ⟨rfl, List.append_nil _⟩
  | inspect name =>
    rw [outcome_inspect, DaemonLink.through_of_some hmeet]
    exact ⟨rfl, List.append_nil _⟩

/-! ### Any calls -/

/-- How the link stands after so many calls, if making the client was to fail for these reasons:
each call before the client was there has used up one of them. -/
structure Stands (reasons : List String) (calls : Nat) (link : DaemonLink) : Prop where
  connected : link.connected = decide (reasons.length < calls)
  refusals : link.daemon.refusals = reasons.drop calls

variable {settings}

/-- One more call. -/
theorem Stands.step {reasons : List String} {calls : Nat} {link : DaemonLink}
    (h : Stands reasons calls link) (moment : Moment) :
    Stands reasons (calls + 1) (moment.outcome settings link).world := by
  rw [world_outcome]
  -- A call meets a refusal, or makes the connection, or uses the one that was made.
  rcases Nat.lt_trichotomy calls reasons.length with hlt | rfl | hlt
  · have hconnected : (moment.meet link).connected = false := by
      simp [h.connected, Nat.le_of_lt hlt]
    have hnext : (moment.meet link).daemon.refusals =
        reasons[calls] :: reasons.drop (calls + 1) := by
      rw [Moment.refusals_meet, h.refusals, List.drop_eq_getElem_cons hlt]
    rw [DaemonLink.used_of_refused hconnected hnext]
    exact ⟨by simpa using Nat.succ_le_of_lt hlt, rfl⟩
  · have hconnected : (moment.meet link).connected = false := by simp [h.connected]
    have hnone : (moment.meet link).daemon.refusals = [] := by
      rw [Moment.refusals_meet, h.refusals, List.drop_length]
    rw [DaemonLink.used_of_made hconnected hnone]
    exact ⟨by simp, hnone.trans (List.drop_eq_nil_of_le (Nat.le_succ _)).symm⟩
  · have hconnected : (moment.meet link).connected = true := by simp [h.connected, hlt]
    have hnone : (moment.meet link).daemon.refusals = [] := by
      rw [Moment.refusals_meet, h.refusals, List.drop_eq_nil_of_le (Nat.le_of_lt hlt)]
    rw [DaemonLink.used_of_connected hconnected]
    exact ⟨by rw [hconnected, decide_eq_true (Nat.lt_succ_of_lt hlt)],
      hnone.trans (List.drop_eq_nil_of_le (Nat.le_succ_of_le (Nat.le_of_lt hlt))).symm⟩

/-- Any calls, by induction on them; the number of the calls before them varies. -/
theorem Stands.after {reasons : List String} {calls : Nat} {link : DaemonLink}
    (h : Stands reasons calls link) (moments : List Moment) :
    Stands reasons (calls + moments.length) (after settings link moments) := by
  induction moments generalizing calls link with
  | nil => exact h
  | cons moment rest ih =>
    rw [List.length_cons, Nat.add_comm rest.length, ← Nat.add_assoc]
    exact ih (h.step moment)

/-- Of an inspector that has no client yet. -/
theorem stands_after {start : DaemonLink} (h : start.connected = false) (moments : List Moment) :
    Stands start.daemon.refusals moments.length (after settings start moments) := by
  have hstart : Stands start.daemon.refusals 0 start := ⟨by simp [h], rfl⟩
  simpa using hstart.after moments

/-- A client that is there stays. -/
theorem connected_after {ready : DaemonLink} (h : ready.connected = true)
    (moments : List Moment) : (after settings ready moments).connected = true := by
  induction moments generalizing ready with
  | nil => exact h
  | cons moment rest ih =>
    have hstep : (moment.outcome settings ready).world.connected = true := by
      rw [world_outcome, DaemonLink.used_of_connected (by simpa using h)]
      exact h
    exact ih hstep

variable (settings)

/-- The call that comes after so many others, of an inspector without a client that is to be
refused for these reasons, beside the same call of an inspector that has a client. -/
structure Delayed (reasons : List String) (calls : Nat) (moment : Moment)
    (late ready : Outcome DaemonLink (Except Fault Reply)) : Prop where
  /-- The first calls fail, each with a fault of its kind. -/
  refused : ∀ h : calls < reasons.length,
    late.value = .error (moment.call.refused ⟨moment.daemon.refusalKind, reasons[calls]⟩) ∧
      (moment.call.refused ⟨moment.daemon.refusalKind, reasons[calls]⟩).kind =
        moment.call.refusedKind ∧
      late.trace = [opening settings]
  /-- All others end as those of the other inspector do. -/
  answered : reasons.length ≤ calls → late.value = ready.value
  /-- One call makes the client, and there the two differ in nothing else. -/
  made : calls = reasons.length → late.trace = opening settings :: opened settings :: ready.trace
  /-- The calls behind it do not make it again. -/
  kept : reasons.length < calls → late.trace = ready.trace
  /-- The client is there from that call on, and before it the next attempt is open. -/
  stands : Stands reasons (calls + 1) late.world

variable {settings}

/-- The reason for which the next call is refused, if it is. -/
theorem Stands.refusal?_eq {reasons : List String} {calls : Nat} {link : DaemonLink}
    (h : Stands reasons calls link) : link.refusal? = reasons[calls]? := by
  rw [DaemonLink.refusal?, h.connected, h.refusals, List.head?_drop]
  by_cases hlt : reasons.length < calls
  · rw [if_pos (decide_eq_true hlt), List.getElem?_eq_none (Nat.le_of_lt hlt)]
  · rw [if_neg (by simpa using hlt)]

/-- What a call does to have a client. -/
theorem Stands.useTrace_eq {reasons : List String} {calls : Nat} {link : DaemonLink}
    (h : Stands reasons calls link) (settings : Settings) (request : Request) :
    useTrace settings link request =
      if reasons.length < calls then [.request request]
      else if reasons.length = calls then [opening settings, opened settings, .request request]
      else [opening settings] := by
  rw [useTrace, h.connected, h.refusals]
  rcases Nat.lt_trichotomy calls reasons.length with hlt | rfl | hlt
  · rw [List.drop_eq_getElem_cons hlt]
    simp [Nat.not_lt_of_lt hlt, Nat.ne_of_gt hlt, opening]
  · simp [opening, opened]
  · simp [hlt]

/-- Every call, by how many came before it. -/
theorem delayed {start ready : DaemonLink} (hstart : start.connected = false)
    (hready : ready.connected = true) (earlier : List Moment) (moment : Moment) :
    Delayed settings start.daemon.refusals earlier.length moment
      (moment.outcome settings (after settings start earlier))
      (moment.outcome settings ready) := by
  have h : Stands start.daemon.refusals earlier.length (after settings start earlier) :=
    stands_after hstart earlier
  have hused := h.useTrace_eq settings moment.call.request
  have hclient : ready.refusal? = none := if_pos hready
  obtain ⟨hvalue, htrace⟩ := outcome_of_client settings moment hclient
  rw [useTrace, if_pos hready] at htrace
  -- Once as many calls have been made as there are refusals, the client is there.
  have hanswered (hle : start.daemon.refusals.length ≤ earlier.length) :=
    outcome_of_client settings moment (h.refusal?_eq.trans (List.getElem?_eq_none hle))
  exact
    { refused := fun hlt => by
        obtain ⟨hfault, htold⟩ := outcome_of_refused settings moment
          (h.refusal?_eq.trans (List.getElem?_eq_getElem hlt))
        rw [hused, if_neg (Nat.not_lt_of_lt hlt), if_neg (Nat.ne_of_gt hlt)] at htold
        exact ⟨hfault, Call.kind_refused _ _, htold⟩
      answered := fun hle => (hanswered hle).1.trans hvalue.symm
      made := fun heq => by
        rw [(hanswered (Nat.le_of_eq heq.symm)).2, hused, htrace, heq, if_neg (Nat.lt_irrefl _),
          if_pos rfl]
        rfl
      kept := fun hlt => by
        rw [(hanswered (Nat.le_of_lt hlt)).2, hused, htrace, if_pos hlt]
      stands := h.step moment }

/-! ### Runs -/

/-- How many of the requests are for a client. -/
def openings (requests : List Request) : Nat :=
  requests.countP fun
    | .openDaemon _ => true
    | _ => false

/-- How many attempts it takes until there is a client. -/
def due (link : DaemonLink) : Nat := if link.connected then 0 else link.daemon.refusals.length + 1

theorem due_eq_zero_iff {link : DaemonLink} : due link = 0 ↔ link.connected = true := by
  unfold due
  split
  · simp [*]
  · simp [*]

variable {ω : Type} {get : ω → DaemonLink} {put : DaemonLink → ω → ω}

/-- Every attempt to make the client uses up one of those that it takes. -/
def thrift (get : ω → DaemonLink) : Law ω where
  Allows first requests second := openings requests + due (get second) = due (get first)
  refl world := Nat.zero_add _
  trans hfirst hsecond := by
    rw [openings, List.countP_append]
    rw [openings] at hfirst hsecond
    omega

/-- No attempt is made, and nothing is done to the client or to the refusals that are to come. -/
def untouched (get : ω → DaemonLink) : Law ω where
  Allows first requests second :=
    openings requests = 0 ∧ (get second).connected = (get first).connected ∧
      (get second).daemon.refusals = (get first).daemon.refusals
  refl world := ⟨rfl, rfl, rfl⟩
  trans := fun ⟨hfirst, hc, hr⟩ ⟨hsecond, hc', hr'⟩ => by
    refine ⟨?_, hc'.trans hc, hr'.trans hr⟩
    rw [openings] at hfirst hsecond ⊢
    rw [List.countP_append, hfirst, hsecond]

/-- What does nothing to the link is thrifty. -/
theorem thrift_of_untouched {first second : ω} {requests : List Request}
    (h : (untouched get).Allows first requests second) :
    (thrift get).Allows first requests second := by
  obtain ⟨hopenings, hconnected, hrefusals⟩ := h
  show openings requests + due (get second) = due (get first)
  rw [hopenings, Nat.zero_add, due, due, hconnected, hrefusals]

/-- One use of the link. -/
theorem openings_useTrace (link : DaemonLink) {request : Request} (h : openings [request] = 0) :
    openings (requestsOf (useTrace settings link request)) + due link.used = due link := by
  obtain ⟨⟨refusals, refusalKind, running, attributes⟩, connected⟩ := link
  cases connected with
  | true => exact (Nat.add_zero _).trans h
  | false =>
    cases refusals with
    | nil =>
      have hcount : openings (requestsOf (useTrace settings
          ⟨⟨[], refusalKind, running, attributes⟩, false⟩ request)) = openings [request] + 1 :=
        List.countP_cons_of_pos rfl
      rw [hcount, h]
      rfl
    | cons reason others => exact Nat.add_comm 1 _

variable (settings)

/-- A reconciler with the daemon's inspector on a part of its world that its other parts leave
alone. -/
structure Asks (get : ω → DaemonLink) (put : DaemonLink → ω → ω) (r : Reconciler ω) : Prop where
  inspector : r.inspector = (daemonInspector settings).onPart get put
  get_put : ∀ link world, get (put link world) = link
  publish : ∀ publication, (r.publisher.publish publication).Obeys (untouched get)
  wait : ∀ seconds, (r.alarm.wait seconds).Obeys (untouched get)

variable {settings}

/-- The inspector is thrifty: it uses the link once and tells of the rest in records. -/
theorem Asks.thrifty {r : Reconciler ω} (h : Asks settings get put r) :
    Reconciler.Obedient (thrift get) r where
  enumerate := by
    rw [h.inspector]
    intro world
    show openings (requestsOf ((enumerate settings).run (get world)).trace) +
      due (get (put ((enumerate settings).run (get world)).world world)) = due (get world)
    rw [h.get_put, run_enumerate, requestsOf_append, requestsOf_listedNotes, List.append_nil]
    exact openings_useTrace (get world) rfl
  inspect := by
    rw [h.inspector]
    intro name world
    show openings (requestsOf ((inspect settings name).run (get world)).trace) +
      due (get (put ((inspect settings name).run (get world)).world world)) = due (get world)
    rw [h.get_put, run_inspect, requestsOf_append, requestsOf_inspectedNotes, List.append_nil]
    exact openings_useTrace (get world) rfl
  publish publication world := thrift_of_untouched (h.publish publication world)
  wait seconds world := thrift_of_untouched (h.wait seconds world)

/-- An inspector without a client is as good as one with a client, but for the calls that cannot
make it: these fail, each with a fault of its kind, and the next one tries again. The client is made
by the first call that can make it, and by no other. Runs of a reconciler that has such an inspector
make every attempt at most once, and none once there is a client. -/
theorem first_use (settings : Settings) :
    (∀ start ready : DaemonLink, start.connected = false → ready.connected = true →
      ∀ (earlier : List Moment) (moment : Moment),
        Delayed settings start.daemon.refusals earlier.length moment
          (moment.outcome settings (after settings start earlier))
          (moment.outcome settings (after settings ready earlier))) ∧
      ∀ (ω : Type) (get : ω → DaemonLink) (put : DaemonLink → ω → ω) (r : Reconciler ω),
        Asks settings get put r → ∀ (bound : Nat) (world : ω),
          ((get world).connected = true →
            openings (requestsOf ((r.runFor bound).run world).trace) = 0 ∧
              (get ((r.runFor bound).run world).world).connected = true) ∧
            ((get world).connected = false →
              openings (requestsOf ((r.runFor bound).run world).trace) ≤
                  (get world).daemon.refusals.length + 1 ∧
                ((get ((r.runFor bound).run world).world).connected = true ↔
                  openings (requestsOf ((r.runFor bound).run world).trace) =
                    (get world).daemon.refusals.length + 1)) := by
  refine ⟨fun start ready hstart hready earlier moment =>
    delayed hstart (connected_after hready earlier) earlier moment,
    fun ω get put r hr bound world => ?_⟩
  -- Each attempt to connect uses up one of those that are due, so what is left of these tells how
  -- many there were.
  have hthrift : openings (requestsOf ((r.runFor bound).run world).trace) +
      due (get ((r.runFor bound).run world).world) = due (get world) :=
    Reconciler.runFor_obeys hr.thrifty bound world
  rw [← due_eq_zero_iff, ← due_eq_zero_iff]
  refine ⟨fun hdue => by omega, fun hconnected => ?_⟩
  have hdue : due (get world) = (get world).daemon.refusals.length + 1 := by
    rw [due, hconnected, if_neg Bool.false_ne_true]
  omega

/-- A daemon for which no client can be made at first. -/
def reluctantDaemon : Daemon where
  refusals := ["no socket", "refused"]
  refusalKind := .system
  running := .ok [.obj [("name", .str "web")]]
  attributes := fun _ => .ok (.obj
    [("Config", .obj [("Env", .arr [.str "BEACHHEAD_DOMAINS=example.org"])]),
      ("NetworkSettings", .obj [("IPAddress", .str "10.0.0.2")])])

/-- A publication asks for the registry's client at most. -/
theorem openings_publish (publication : Publication) (link : RegistryLink) :
    openings (requestsOf ((Publication.publish settings publication).run link).trace) = 0 := by
  have hconnect : openings (requestsOf (Publication.connectTrace settings link)) = 0 := by
    unfold Publication.connectTrace
    split <;> rfl
  have hnotes (refusal : Option Fault) :
      openings (requestsOf (Publication.publishedNotes settings publication refusal)) = 0 := by
    cases refusal <;> rfl
  rw [Publication.run_publish, requestsOf_append, openings, List.countP_append]
  exact Nat.add_eq_zero_iff.2 ⟨hconnect, hnotes _⟩

/-- A publisher that writes to the registry leaves the daemon alone. -/
theorem asks_beside (settings : Settings) (names : List String) :
    Asks settings Prod.fst (fun link world => (link, world.2))
      (Reconciler.besideReconciler settings names) where
  inspector := rfl
  get_put _ _ := rfl
  publish publication world := ⟨openings_publish publication world.2, rfl, rfl⟩
  wait _ _ := ⟨rfl, rfl, rfl⟩

/-- The running containers are asked for. -/
def listing : Moment := ⟨.enumerate, reluctantDaemon⟩

/-- A container is looked at. -/
def looking : Moment := ⟨.inspect "web", reluctantDaemon⟩

/-- A listing and an inspection cannot have a client, and the inspection after them has it. A run of
four cycles makes three attempts. -/
theorem first_use_two_refusals :
    (listing.outcome {} ⟨reluctantDaemon, false⟩).value =
        .error ⟨.listingFailed
          ⟨.inspection, "Failed to initialize Docker client (no socket)"⟩, none⟩ ∧
      (looking.outcome {} (after {} ⟨reluctantDaemon, false⟩ [listing])).value =
        .error ⟨.daemonUnavailable ⟨.system, "refused"⟩, none⟩ ∧
      Delayed {} ["no socket", "refused"] 2 looking
        (looking.outcome {} (after {} ⟨reluctantDaemon, false⟩ [listing, looking]))
        (looking.outcome {} (after {} ⟨reluctantDaemon, true⟩ [listing, looking])) ∧
      openings (requestsOf (((Reconciler.besideReconciler { refresh := some 60 } ["web"]).runFor
        4).run (⟨reluctantDaemon, false⟩, {})).trace) = 3 ∧
      (((Reconciler.besideReconciler { refresh := some 60 } ["web"]).runFor 4).run
        (⟨reluctantDaemon, false⟩, {})).world.1.connected = true := by
  have hopenings : openings (requestsOf (((Reconciler.besideReconciler { refresh := some 60 }
      ["web"]).runFor 4).run (⟨reluctantDaemon, false⟩, {})).trace) = 3 := by decide +kernel
  refine ⟨by decide +kernel, by decide +kernel,
    (first_use {}).1 ⟨reluctantDaemon, false⟩ ⟨reluctantDaemon, true⟩ rfl rfl [listing, looking]
      looking, hopenings, ?_⟩
  have hruns := (first_use { refresh := some 60 }).2 _ _ _ _ (asks_beside _ ["web"]) 4
    (⟨reluctantDaemon, false⟩, {})
  exact (hruns.2 rfl).2.2 hopenings

end RegistrySync.Inspection
