import Telemetry.Proofs.Daemon.Loops
import Telemetry.Proofs.Daemon.Surveys
import Telemetry.Proofs.Service.Failures

/-! # Where surveys and shared listings stand in a run

A survey that has not ended waits for a call of the inspector, or for a shared listing.  Which one
it is was decided in an earlier turn of its task, and so was the moment of the answer: the delay
that the inspector showed then counts from that turn (`Daemon.Reaches`).

A shared listing in flight was started when none was, and from then on its limit counts; the
inspector is called for it in its first turn (`Daemon.Underway`).  It ends in a turn of its own, by
the answer of the inspector or at its limit, and in no other way (`Daemon.ListingCameTo`); and where
time waits for whoever can go on, neither moment is missed (`Daemon.ListingAwaited`).

Each of these is an inductive statement about a prefix of the run, the one in which the thing was
decided, so that it stays true as the run goes on.  Together they trace whatever ends a survey back
to calls of the inspector and to limits that were set (`Daemon.Traces`).
-/

namespace Telemetry

variable {d first : Daemon} {e : DaemonEvent} {events : List DaemonEvent} {number : Nat}
  {call : SharedCall Listing} {r : Result Topology} {t : Task} {stage : Survey} {joined : Nat}

/-! ## One step of the shared listing -/

namespace World

variable {w w' : World}

/-- The settings of the cache in front of the listing, if there is one; its limit is that of every
shared listing. -/
def listingSettings (w : World) : Option CacheSettings :=
  w.topology.map fun shared => shared.cache.settings

/-- The shared listing of a number is in flight: so many have ended before it. -/
def InFlight (w : World) (number : Nat) (call : SharedCall Listing) : Prop :=
  ∃ shared, w.topology = some shared ∧ shared.cache.flight = some call ∧
    shared.outcomes.length = number

/-- So many shared listings have ended, and none is in flight. -/
def Idle (w : World) (number : Nat) : Prop :=
  ∃ shared, w.topology = some shared ∧ shared.cache.flight = none ∧
    shared.outcomes.length = number

/-- No shared listing has been started, and so none is in flight and none has ended. -/
def NoListing (w : World) : Prop :=
  (∀ number, w.listing? number = none) ∧ ∀ number call, ¬ w.InFlight number call

/-- The shared listing of a number has been started: it is in flight, or has ended. -/
def HasListing (w : World) (number : Nat) : Prop :=
  ∃ shared, w.topology = some shared ∧ number < shared.started

/-- The moment at which the inspector answers a shared listing that has its turn now. -/
def listingDue (w : World) : Listing → Option Nat
  | .fresh => w.inspector.topology.answersAt w.now
  | .waiting due => due

/-- What a shared listing comes to in its turn: it is answered, or its limit has struck before
the answer. -/
inductive ListingComesTo (w : World) (call : SharedCall Listing) (r : Result Topology) : Prop where
  | answered {ending : Ending Topology} :
      w.inspector.topology.Ends false w.now (w.listingDue call.stage) ending →
      r = ending.shared → ListingComesTo w call r
  | late {settings : CacheSettings} :
      (∀ ending, ¬ w.inspector.topology.Ends false w.now (w.listingDue call.stage) ending) →
      call.limit ≤ w.now → w.listingSettings = some settings →
      r = .error (.timeout settings.fetchTimeout) → ListingComesTo w call r

theorem answerListing_snd (w : World) (listing : Listing) :
    (w.answerListing listing).2 =
      w.inspector.topology.resume false w.now (w.listingDue listing) := by
  cases listing <;> rfl

/-- A shared listing in its turn: it comes to a result, or it waits on within its limit, for the
answer that it has waited for or has just asked for. -/
theorem listing_advance_cases {shared : Shared Topology Listing}
    (hshared : w.topology = some shared) (call : SharedCall Listing) :
    let after := shared.advance w.now call (listingStage (w.answerListing call.stage).2)
    (∃ r, w.ListingComesTo call r ∧ after.cache.flight = none ∧
        after.outcomes = shared.outcomes ++ [r]) ∨
      (∀ ending, ¬ w.inspector.topology.Ends false w.now (w.listingDue call.stage) ending) ∧
        w.now < call.limit ∧
        after = ⟨shared.cache.start ⟨call.limit, .waiting (w.listingDue call.stage)⟩,
          shared.outcomes⟩ := by
  intro after
  have hafter : after = shared.advance w.now call (listingStage
      (w.inspector.topology.resume false w.now (w.listingDue call.stage))) := by
    rw [← answerListing_snd]
  rcases w.inspector.topology.resume_cases_ends false w.now (w.listingDue call.stage) with
    ⟨ending, hdone, hends⟩ | ⟨hwait, hnot⟩
  · rw [hdone] at hafter
    exact .inl ⟨ending.shared, .answered hends rfl, by rw [hafter]; rfl, by rw [hafter]; rfl⟩
  · rw [hwait] at hafter
    by_cases hlate : call.limit ≤ w.now
    · have hfinish : after = shared.finish w.now
          (.error (.timeout shared.cache.settings.fetchTimeout)) := hafter.trans (if_pos hlate)
      refine .inl ⟨_, .late hnot hlate ?_ rfl, by rw [hfinish]; rfl, by rw [hfinish]; rfl⟩
      unfold listingSettings
      rw [hshared]
      rfl
    · exact .inr ⟨hnot, Nat.not_le.mp hlate, hafter.trans (if_neg hlate)⟩

/-- The turns of the shared snapshot and of tasks leave the cache alone, or ask it, by which a
shared listing may be started. -/
theorem shared_advanceSnapshot (w : World) :
    w.advanceSnapshot.topology = w.topology ∨ ∃ shared, w.topology = some shared ∧
      w.advanceSnapshot.topology = some (shared.get w.now .fresh).1 := by
  unfold advanceSnapshot
  cases w.snapshots.cache.flight with
  | none => exact .inl rfl
  | some call => exact (w.surveying_advanceSurvey false call.stage).1.shared

theorem Turns.shared {retention : Retention} (h : w.Turns retention w') :
    w'.topology = w.topology ∨ ∃ shared, w.topology = some shared ∧
      w'.topology = some (shared.get w.now .fresh).1 := by
  cases h with
  | surveys hsurveying => exact hsurveying.shared
  | rests => exact .inl rfl
  | asks => exact .inl rfl
  | prunes =>
    rw [prune_frame]
    exact .inl rfl

end World

namespace Daemon

/-- **What an event does to the cache in front of the listing**: nothing, unless somebody asks it,
or the shared listing has its turn. -/
theorem topology_apply_cases (d : Daemon) (e : DaemonEvent) :
    (d.apply e).world.topology = d.world.topology ∨
    (∃ shared, d.world.topology = some shared ∧
      (d.apply e).world.topology = some (shared.get d.world.now .fresh).1) ∨
    e = .turn .listing ∧ ∃ shared call, d.world.topology = some shared ∧
      shared.cache.flight = some call ∧ (d.apply e).world.topology = some
        (shared.advance d.world.now call
          (World.listingStage (d.world.answerListing call.stage).2)) := by
  have hasks {p q r : Prop} (h : p ∨ q) : p ∨ q ∨ r := h.imp_right .inl
  cases e with
  | prune =>
    rw [apply, World.prune_frame]
    exact .inl rfl
  | turn a =>
    cases a with
    | listing =>
      show d.world.advanceListing.topology = _ ∨ _
      rcases d.world.advanceListing_cases with hsame | ⟨shared, call, hshared, hcall⟩
      · exact .inl (by rw [hsame])
      · refine .inr (.inr ⟨rfl, shared, call, hshared, hcall, ?_⟩)
        exact congrArg World.topology (World.advanceListing_of_flight hshared hcall)
    | snapshot => exact hasks d.world.shared_advanceSnapshot
    | task number => exact hasks (d.turns_turn number).shared
  | _ => exact .inl rfl

/-- A daemon has a cache in front of the listing or not, and always the same one with the same
settings. -/
theorem listingSettings_apply (d : Daemon) (e : DaemonEvent) :
    (d.apply e).world.listingSettings = d.world.listingSettings := by
  unfold World.listingSettings
  rcases d.topology_apply_cases e with
    hsame | ⟨shared, hshared, hgot⟩ | ⟨-, shared, call, hshared, -, hafter⟩
  · rw [hsame]
  · rw [hgot, hshared]
    exact congrArg some (shared.get_frame d.world.now .fresh).1
  · rw [hafter, hshared]
    exact congrArg some (shared.settings_advance ..)

theorem listingSettings_run (d : Daemon) (events : List DaemonEvent) :
    (d.run events).world.listingSettings = d.world.listingSettings := by
  induction events generalizing d with
  | nil => rfl
  | cons e rest ih => exact (ih (d.apply e)).trans (d.listingSettings_apply e)

theorem isSome_topology_apply (d : Daemon) (e : DaemonEvent) :
    (d.apply e).world.topology.isSome = d.world.topology.isSome := by
  have h := congrArg Option.isSome (d.listingSettings_apply e)
  unfold World.listingSettings at h
  rwa [Option.isSome_map, Option.isSome_map] at h

/-- A shared listing has ended before an event, or the event is the turn in which it ends.  In no
other event does anything come to an end there. -/
theorem listing?_apply (h : (d.apply e).world.listing? number = some r) :
    d.world.listing? number = some r ∨ e = .turn .listing ∧
      ∃ call, d.world.InFlight number call ∧ d.world.ListingComesTo call r := by
  obtain ⟨after, hafter, houtcome⟩ := Option.bind_eq_some_iff.mp h
  have hbefore {shared : Shared Topology Listing} (hshared : d.world.topology = some shared)
      (houtcome : shared.outcome? number = some r) : d.world.listing? number = some r :=
    Option.bind_eq_some_iff.mpr ⟨shared, hshared, houtcome⟩
  rcases d.topology_apply_cases e with
    hsame | ⟨shared, hshared, hgot⟩ | ⟨rfl, shared, call, hshared, hcall, hadvanced⟩
  · exact .inl (hbefore (hsame ▸ hafter) houtcome)
  · obtain rfl := Option.some.inj (hgot.symm.trans hafter)
    unfold Shared.outcome? at houtcome
    rw [(shared.get_frame d.world.now .fresh).2.2] at houtcome
    exact .inl (hbefore hshared houtcome)
  · obtain rfl := Option.some.inj (hadvanced.symm.trans hafter)
    unfold Shared.outcome? at houtcome
    -- the result that is added has the number of the listing that was in flight
    rcases World.listing_advance_cases hshared call with ⟨r', hcomes, -, houtcomes⟩ | ⟨-, -, hwaits⟩
    · rw [houtcomes, List.getElem?_append] at houtcome
      split at houtcome
      · exact .inl (hbefore hshared houtcome)
      next hge =>
        rw [List.getElem?_singleton] at houtcome
        split at houtcome
        next hzero =>
          obtain rfl := Option.some.inj houtcome
          exact .inr ⟨rfl, call, ⟨shared, hshared, hcall, by omega⟩, hcomes⟩
        · cases houtcome
    · rw [hwaits] at houtcome
      exact .inl (hbefore hshared houtcome)

/-- A shared listing that is in flight after an event was so before; or none was, and it has been
started; or it has had its first turn, in which the inspector was asked. -/
theorem inFlight_apply (h : (d.apply e).world.InFlight number call) :
    d.world.InFlight number call ∨
    (d.world.Idle number ∧ ∃ settings, d.world.listingSettings = some settings ∧
      call = ⟨d.world.now + settings.fetchTimeout.limitMillis, .fresh⟩) ∨
    e = .turn .listing ∧ d.world.InFlight number ⟨call.limit, .fresh⟩ ∧
      call.stage = .waiting (d.world.inspector.topology.answersAt d.world.now) := by
  obtain ⟨after, hafter, hflight, hnumber⟩ := h
  rcases d.topology_apply_cases e with
    hsame | ⟨shared, hshared, hgot⟩ | ⟨rfl, shared, before, hshared, hbefore, hadvanced⟩
  · exact .inl ⟨after, hsame ▸ hafter, hflight, hnumber⟩
  · obtain rfl := Option.some.inj (hgot.symm.trans hafter)
    rw [(shared.get_frame d.world.now .fresh).2.2] at hnumber
    rcases shared.get_flight d.world.now .fresh with hsame | ⟨hnone, hstarted⟩
    · exact .inl ⟨shared, hshared, hsame ▸ hflight, hnumber⟩
    · refine .inr (.inl ⟨⟨shared, hshared, hnone, hnumber⟩, shared.cache.settings, ?_, ?_⟩)
      · unfold World.listingSettings
        rw [hshared]
        rfl
      · exact Option.some.inj (hflight.symm.trans hstarted)
  · obtain rfl := Option.some.inj (hadvanced.symm.trans hafter)
    rcases World.listing_advance_cases hshared before with ⟨r, -, hnone, -⟩ | ⟨-, -, hwaits⟩
    · rw [hnone] at hflight
      cases hflight
    · rw [hwaits] at hflight hnumber
      obtain rfl := Option.some.inj hflight
      obtain ⟨limit, stage⟩ := before
      cases stage with
      | fresh => exact .inr (.inr ⟨rfl, ⟨shared, hshared, hbefore, hnumber⟩, rfl⟩)
      | waiting due => exact .inl ⟨shared, hshared, hbefore, hnumber⟩

/-! ## Where a shared listing comes from -/

/-- How a shared listing of a number has come about that is in flight after a run. -/
inductive Underway (first : Daemon) (number : Nat) :
    List DaemonEvent → SharedCall Listing → Prop where
  /-- An event has started it when none was in flight, and its limit counts from then. -/
  | started {began : List DaemonEvent} {e : DaemonEvent} {events : List DaemonEvent}
      {settings : CacheSettings} : began ++ [e] <+: events → (first.run began).world.Idle number →
      first.world.listingSettings = some settings →
      Underway first number events
        ⟨(first.run began).world.now + settings.fetchTimeout.limitMillis, .fresh⟩
  /-- The inspector was asked in its first turn, and answers when it said so then. -/
  | asked {asked events : List DaemonEvent} {limit : Nat} : asked ++ [.turn .listing] <+: events →
      (first.run asked).world.InFlight number ⟨limit, .fresh⟩ →
      Underway first number asked ⟨limit, .fresh⟩ →
      Underway first number events ⟨limit, .waiting
        ((first.run asked).world.inspector.topology.answersAt (first.run asked).world.now)⟩

theorem Underway.mono {events' : List DaemonEvent} (h : first.Underway number events call)
    (hlonger : events <+: events') : first.Underway number events' call := by
  cases h with
  | started hbegan hidle hsettings => exact .started (hbegan.trans hlonger) hidle hsettings
  | asked hasked hflight hunderway => exact .asked (hasked.trans hlonger) hflight hunderway

/-- A new daemon has listed nothing, and its cache keeps to the settings that it was given. -/
theorem listings_create {settings : DaemonSettings} (h : create settings = .ok d) :
    d.world.NoListing ∧
      d.world.listingSettings.map CacheSettings.fetchTimeout =
        settings.topologyCache.map Prod.snd := by
  obtain ⟨topology, retention, snapshots, htopology, -, -, rfl⟩ := create_eq_ok h
  cases hcache : settings.topologyCache with
  | none =>
    rw [hcache] at htopology
    obtain rfl := Except.ok.inj htopology
    refine ⟨⟨fun _ => rfl, fun _ _ hflight => ?_⟩, rfl⟩
    obtain ⟨shared, hshared, -⟩ := hflight
    cases hshared
  | some c =>
    rw [hcache, Option.mapM_some] at htopology
    cases hcreate : CacheSettings.create c.1 c.2 with
    | error e =>
      rw [hcreate] at htopology
      cases htopology
    | ok inner =>
      rw [hcreate] at htopology
      obtain rfl := Except.ok.inj htopology
      refine ⟨⟨fun _ => rfl, fun _ _ hflight => ?_⟩,
        congrArg some (CacheSettings.eq_of_create hcreate).2⟩
      obtain ⟨shared, hshared, hcall, -⟩ := hflight
      obtain rfl := Option.some.inj hshared
      cases hcall

/-- **Every shared listing that is in flight has come about so**, by induction on the run from its
end. -/
theorem underway_run (hfirst : first.world.NoListing)
    (h : (first.run events).world.InFlight number call) : first.Underway number events call := by
  induction events using List.reverseRecOn generalizing call with
  | nil => exact absurd h (hfirst.2 number call)
  | append_singleton events e ih =>
    rw [run_concat] at h
    rcases inFlight_apply h with
      hbefore | ⟨hidle, settings, hsettings, rfl⟩ | ⟨rfl, hbefore, hstage⟩
    · exact (ih hbefore).mono (List.prefix_append _ _)
    · rw [listingSettings_run] at hsettings
      exact .started List.prefix_rfl hidle hsettings
    · obtain ⟨limit, stage⟩ := call
      obtain rfl : stage = _ := hstage
      exact .asked List.prefix_rfl hbefore (ih hbefore)

/-! ## Shared listings in time -/

/-- A shared listing that is in flight while everybody is at rest has been asked for, and neither
its answer nor its limit has come. -/
theorem AtRest.lt_of_inFlight (h : d.AtRest) (hflight : d.world.InFlight number call) :
    d.world.now < call.limit ∧
      ∀ moment, call.stage = .waiting (some moment) → d.world.now < moment := by
  obtain ⟨shared, hshared, hcall, -⟩ := hflight
  have hsame : d.world.advanceListing.topology = some shared := by
    rw [show d.world.advanceListing = d.world from congrArg Daemon.world (h .listing)]
    exact hshared
  rw [World.advanceListing_of_flight hshared hcall] at hsame
  have hsame := Option.some.inj hsame
  rcases World.listing_advance_cases hshared call with ⟨r, -, hnone, -⟩ | ⟨hnot, hlt, hwaits⟩
  · rw [hsame, hcall] at hnone
    cases hnone
  · refine ⟨hlt, fun moment hstage => ?_⟩
    rw [hstage] at hnot
    exact Probe.lt_of_not_ends hnot

/-- No shared listing in flight has been passed over by the moment of its answer or its limit; at
that moment it may still be to have its turn. -/
def Timely (d : Daemon) : Prop :=
  ∀ number call, d.world.InFlight number call → d.world.now ≤ call.limit ∧
    ∀ moment, call.stage = .waiting (some moment) → d.world.now ≤ moment

theorem Timely.apply (h : d.Timely) (hwaits : d.Waits e) : (d.apply e).Timely := by
  intro number call hflight
  have hstays (hpass : ∀ later, e ≠ .pass later) : (d.apply e).world.now = d.world.now :=
    now_apply hpass
  rcases inFlight_apply hflight with
    hbefore | ⟨hidle, settings, -, rfl⟩ | ⟨rfl, hbefore, hstage⟩
  · -- time passes over neither moment before the listing has had its turn
    have hrest (moment : Nat) (hrest : (d.passTo moment).AtRest) (hle : d.world.now ≤ moment) :
        moment < call.limit ∧ ∀ due, call.stage = .waiting (some due) → moment < due := by
      have hstill : (d.passTo moment).world.InFlight number call := hbefore
      have hlt := hrest.lt_of_inFlight hstill
      rwa [now_passTo hle] at hlt
    obtain ⟨hlimit, hdue⟩ := h number call hbefore
    exact ⟨hwaits.now_le hlimit fun moment hatRest hle => (hrest moment hatRest hle).1,
      fun due hstage => hwaits.now_le (hdue due hstage) fun moment hatRest hle =>
        (hrest moment hatRest hle).2 due hstage⟩
  · -- it is started at a moment, and not by the passing of time
    have hpass : ∀ later, e ≠ .pass later := by
      rintro later rfl
      obtain ⟨shared, hshared, hnone, -⟩ := hidle
      obtain ⟨shared', hshared', hcall, -⟩ := hflight
      obtain rfl := Option.some.inj (hshared.symm.trans hshared')
      rw [hnone] at hcall
      cases hcall
    rw [hstays hpass]
    exact ⟨Nat.le_add_right _ _, fun moment hstage => by cases hstage⟩
  · rw [hstays fun later heq => by cases heq]
    refine ⟨(h number _ hbefore).1, fun moment hmoment => ?_⟩
    have hanswers := Listing.waiting.inj (hstage.symm.trans hmoment)
    unfold Probe.answersAt at hanswers
    obtain ⟨delay, -, rfl⟩ := Option.map_eq_some_iff.mp hanswers
    exact Nat.le_add_right _ _

theorem timely_of_noListing (h : d.world.NoListing) : d.Timely :=
  fun number call hflight => absurd hflight (h.2 number call)

/-- **In every run** in which time waits, since a shared listing at either moment could go on. -/
theorem timely_run (h : d.Timely) (hprompt : d.Prompt events) : (d.run events).Timely := by
  induction events using List.reverseRecOn with
  | nil => exact h
  | append_singleton events e ih =>
    obtain ⟨hbefore, hwaits, -⟩ := (prompt_append d events [e]).mp hprompt
    rw [run_concat]
    exact (ih hbefore).apply hwaits

/-! ## How a shared listing ends -/

/-- How the shared listing of a number has come to a result in a run: in a turn of its own, by the
inspector's answer or at its limit, and not later than that. -/
inductive ListingCameTo (first : Daemon) (events : List DaemonEvent) (number : Nat)
    (r : Result Topology) : Prop where
  | inTurn {last : List DaemonEvent} {call : SharedCall Listing} :
      last ++ [.turn .listing] <+: events → (first.run last).world.InFlight number call →
      first.Underway number last call → (first.run last).world.now ≤ call.limit →
      (first.run last).world.ListingComesTo call r → ListingCameTo first events number r

/-- **Every shared listing that has ended has come to its result so**, and keeps it. -/
theorem listingCameTo_run (hfirst : first.world.NoListing) (hprompt : first.Prompt events)
    (h : (first.run events).world.listing? number = some r) :
    first.ListingCameTo events number r := by
  induction events using List.reverseRecOn with
  | nil =>
    rw [show (first.run []).world.listing? number = none from hfirst.1 number] at h
    cases h
  | append_singleton events e ih =>
    have hbefore := ((prompt_append first events [e]).mp hprompt).1
    rw [run_concat] at h
    rcases listing?_apply h with hsame | ⟨rfl, call, hflight, hcomes⟩
    · obtain ⟨hlast, hflight, hunderway, hle, hcomes⟩ := ih hbefore hsame
      exact ⟨hlast.trans (List.prefix_append _ _), hflight, hunderway, hle, hcomes⟩
    · have htimely := timely_run (timely_of_noListing hfirst) hbefore
      exact ⟨List.prefix_rfl, hflight, underway_run hfirst hflight,
        (htimely number call hflight).1, hcomes⟩

/-! ## Whom a survey waits for -/

/-- Whoever finds nothing fresh in the cache waits for a shared listing that has been started.  If
none was in flight, it has started that one itself. -/
theorem hasListing_get {w : World} {shared : Shared Topology Listing} {now : Nat}
    (hafter : w.topology = some (shared.get now .fresh).1)
    (hstale : ∀ s, shared.cache.stored = some s → shared.cache.isFresh now s = false) :
    w.HasListing shared.outcomes.length := by
  refine ⟨_, hafter, ?_⟩
  unfold Shared.started
  rcases shared.get_cases now .fresh with
    ⟨v, hstored, hfresh, -⟩ | ⟨hsome, hget⟩ | ⟨-, hget⟩
  · rw [hstale v hstored] at hfresh
    cases hfresh
  · rw [hget, if_pos hsome]
    exact Nat.lt_succ_self _
  · rw [hget]
    exact Nat.lt_succ_self _

/-- A cycle that waits for a shared listing from its first step on waits for one that has been
started. -/
theorem hasListing_goOn {w : World} {c : CycleCall} {shared : Shared Topology Listing}
    (hfresh : c.stage = .fresh) (hshared : w.topology = some shared)
    (hstale : ∀ s, shared.cache.stored = some s → shared.cache.isFresh w.now s = false)
    (hpending : (w.goOn c).2 = .pending (.joined shared.outcomes.length)) :
    (w.goOn c).1.HasListing shared.outcomes.length := by
  obtain ⟨w₁, -, hframe, hcomes⟩ := w.surveying_advanceCycle c.cancelled c.purpose c.stage
  have hsame : (w.goOn c).1.topology = w₁.topology := by
    show (w.advanceCycle c.cancelled c.purpose c.stage).1.topology = _
    rw [hframe]
  have hcomes := hcomes _ hpending
  generalize hstage : Survey.joined shared.outcomes.length = stage at hcomes
  cases hcomes with
  | joins _ hshared' hafter =>
    obtain rfl := Option.some.inj (hshared.symm.trans hshared')
    exact hasListing_get (hsame.trans hafter) hstale
  | waits hjoined =>
    rw [hfresh] at hjoined
    cases hjoined
  | lists | measures => cases hstage

/-- A shared listing that has been started stays so, since it is in flight until it ends and its
result is kept. -/
theorem hasListing_apply (h : d.world.HasListing number) (e : DaemonEvent) :
    (d.apply e).world.HasListing number := by
  obtain ⟨shared, hshared, hstarted⟩ := h
  rcases d.topology_apply_cases e with
    hsame | ⟨before, hbefore, hgot⟩ | ⟨-, before, call, hbefore, hcall, hadvanced⟩
  · exact ⟨shared, hsame.trans hshared, hstarted⟩
  · obtain rfl := Option.some.inj (hshared.symm.trans hbefore)
    exact ⟨_, hgot, Nat.lt_of_lt_of_le hstarted (shared.follows_get ..).started_le⟩
  · obtain rfl := Option.some.inj (hshared.symm.trans hbefore)
    exact ⟨_, hadvanced, Nat.lt_of_lt_of_le hstarted (Shared.follows_advance hcall ..).started_le⟩

/-- How the survey of a task has come to a stage in a run: whatever it waits for, it began to wait
in a turn of its task, and what it waits for was decided then. -/
inductive Reaches (first : Daemon) (number : Nat) : List DaemonEvent → Survey → Prop where
  | fresh {events : List DaemonEvent} : Reaches first number events .fresh
  /-- Without a cache it has asked the inspector for its hardware. -/
  | listing {asked events : List DaemonEvent} : asked ++ [.turn (.task number)] <+: events →
      (first.run asked).world.topology = none →
      Reaches first number events (.listing
        ((first.run asked).world.inspector.topology.answersAt (first.run asked).world.now))
  /-- It has found nothing fresh in the cache, and joined the next shared listing to end. -/
  | joined {asked events : List DaemonEvent} {shared : Shared Topology Listing} :
      asked ++ [.turn (.task number)] <+: events →
      (first.run asked).world.topology = some shared →
      (∀ s, shared.cache.stored = some s →
        shared.cache.isFresh (first.run asked).world.now s = false) →
      (first.run (asked ++ [.turn (.task number)])).world.HasListing shared.outcomes.length →
      Reaches first number events (.joined shared.outcomes.length)
  /-- Its listing has ended with a topology, and it has asked the inspector for readings. -/
  | measuring {asked events : List DaemonEvent} {t : Task} {c : CycleCall} {topology : Topology} :
      asked ++ [.turn (.task number)] <+: events → (first.run asked).tasks[number]? = some t →
      (first.run asked).world.cycleOf? t = some c → Reaches first number asked c.stage →
      (first.run asked).world.ListingEnds c.cancelled c.stage (.value topology) →
      Reaches first number events (.measuring topology
        ((first.run asked).world.inspector.readings.answersAt (first.run asked).world.now))

theorem Reaches.mono {events' : List DaemonEvent} (h : first.Reaches number events stage)
    (hlonger : events <+: events') : first.Reaches number events' stage := by
  cases h with
  | fresh => exact .fresh
  | listing hasked hnone => exact .listing (hasked.trans hlonger) hnone
  | joined hasked hshared hstale hstarted =>
    exact .joined (hasked.trans hlonger) hshared hstale hstarted
  | measuring hasked ht hc hreaches hlisted =>
    exact .measuring (hasked.trans hlonger) ht hc hreaches hlisted

/-- **The survey of every task of a run has come to its stage so**, by induction on the run: the
last turn of the task that has moved it is the one. -/
theorem reaches_run (hfirst : first.tasks = []) (ht : (first.run events).tasks[number]? = some t)
    (hstage : t.survey? = some stage) : first.Reaches number events stage := by
  induction events using List.reverseRecOn generalizing t stage with
  | nil =>
    rw [show (first.run []).tasks = [] from hfirst] at ht
    cases ht
  | append_singleton events e ih =>
    rw [run_concat] at ht
    have hmore : events <+: events ++ [e] := List.prefix_append _ _
    rcases getElem?_apply_cases ht with ⟨before, hbefore, rfl⟩ | ⟨-, hnew⟩
    · rcases survey?_taskAfter hstage with hsame | ⟨c, rfl, hc, hpending⟩
      · exact (ih hbefore hsame).mono hmore
      · -- the turn of the task, in which its survey went on to the stage
        have hreaches : first.Reaches number events c.stage := by
          rcases World.survey?_of_cycleOf? hc with hsurvey | ⟨-, hfresh⟩
          · exact ih hbefore hsurvey
          · rw [hfresh]
            exact .fresh
        have hwaits := World.surveyWaits_of_pending (World.pending_advanceCycle hpending).2
        generalize hfrom : c.stage = before? at hwaits
        cases hwaits with
        | lists hnone => exact .listing List.prefix_rfl hnone
        | joins hshared hstale =>
          refine .joined List.prefix_rfl hshared hstale ?_
          have hworld : (first.run (events ++ [.turn (.task number)])).world =
              ((first.run events).world.goOn c).1 := by
            rw [run_concat]
            show ((first.run events).turn (.task number)).world = _
            rw [turn_task hbefore, advanceTask_of_cycle hc]
          rw [hworld]
          exact hasListing_goOn hfrom hshared hstale hpending
        | measures hlisted =>
          exact .measuring List.prefix_rfl hbefore hc hreaches (hfrom ▸ hlisted)
        | still => exact (hfrom ▸ hreaches).mono hmore
    · rcases survey?_taskOf? hnew with hnone | hfresh
      · rw [hnone] at hstage
        cases hstage
      · rw [hfresh] at hstage
        obtain rfl := Option.some.inj hstage
        exact .fresh

/-- A survey waits for a shared listing that has been started, and not for one that nobody has asked
for. -/
theorem Reaches.hasListing (h : first.Reaches number events (.joined joined)) :
    (first.run events).world.HasListing joined := by
  cases h with
  | joined hasked _ _ hstarted =>
    obtain ⟨rest, rfl⟩ := hasked
    rw [run_append]
    induction rest using List.reverseRecOn with
    | nil => exact hstarted
    | append_singleton rest e ih =>
      rw [run_concat]
      exact hasListing_apply ih e

/-- A shared listing of a number that somebody waits for is in flight after a run, and neither its
answer nor its limit has been missed. -/
inductive ListingAwaited (first : Daemon) (events : List DaemonEvent) (number : Nat) : Prop where
  | inFlight {call : SharedCall Listing} : (first.run events).world.InFlight number call →
      first.Underway number events call → (first.run events).world.now ≤ call.limit →
      (∀ moment, call.stage = .waiting (some moment) → (first.run events).world.now ≤ moment) →
      ListingAwaited first events number

/-- **A survey that waits for a shared listing is not kept waiting** beyond the listing's end: as
long as there is no result the listing is in flight and in time. -/
theorem listingAwaited_run (hfirst : first.world.NoListing) (hprompt : first.Prompt events)
    (h : first.Reaches number events (.joined joined))
    (hnone : (first.run events).world.listing? joined = none) :
    first.ListingAwaited events joined := by
  obtain ⟨shared, hshared, hstarted⟩ := h.hasListing
  have hover : shared.outcomes.length ≤ joined := by
    unfold World.listing? at hnone
    rw [hshared] at hnone
    exact List.getElem?_eq_none_iff.mp hnone
  unfold Shared.started at hstarted
  cases hflight : shared.cache.flight with
  | none =>
    rw [hflight] at hstarted
    exact absurd hstarted (Nat.not_lt.mpr hover)
  | some call =>
    rw [hflight] at hstarted
    have hinFlight : (first.run events).world.InFlight joined call :=
      ⟨shared, hshared, hflight, Nat.le_antisymm hover (Nat.le_of_lt_succ hstarted)⟩
    have htimely := timely_run (timely_of_noListing hfirst) hprompt
    obtain ⟨hlimit, hdue⟩ := htimely joined call hinFlight
    exact .inFlight hinFlight (underway_run hfirst hinFlight) hlimit hdue

/-- Whatever a survey waits for in a run, and whatever a shared listing comes to in it, is traced
back to the turns in which it was decided: there the inspector was called, or a shared listing
was started and its limit set. -/
structure Traces (first : Daemon) (events : List DaemonEvent) : Prop where
  surveys : ∀ before, before <+: events → ∀ number t stage,
    (first.run before).tasks[number]? = some t → t.survey? = some stage →
    first.Reaches number before stage
  ended : ∀ before, before <+: events → ∀ number r,
    (first.run before).world.listing? number = some r → first.ListingCameTo before number r
  /-- A survey that waits for a shared listing is not kept waiting beyond the listing's end. -/
  awaited : ∀ before, before <+: events → ∀ number joined,
    first.Reaches number before (.joined joined) →
    (first.run before).world.listing? joined = none → first.ListingAwaited before joined

/-- **Every run can be traced** in which time waits for whoever can go on, from a daemon that has
done nothing yet.  The three parts hold of every prefix of the run, so that an answer is traced at
the moment at which it is given. -/
theorem traces_run (htasks : first.tasks = []) (hfirst : first.world.NoListing)
    (hprompt : first.Prompt events) : first.Traces events := by
  have hbefore {before : List DaemonEvent} (h : before <+: events) : first.Prompt before := by
    obtain ⟨rest, rfl⟩ := h
    exact ((prompt_append first before rest).mp hprompt).1
  constructor
  case surveys => exact fun before _ number t stage => reaches_run htasks
  case ended => exact fun before h number r => listingCameTo_run hfirst (hbefore h)
  case awaited => exact fun before h number joined => listingAwaited_run hfirst (hbefore h)

end Daemon

end Telemetry
