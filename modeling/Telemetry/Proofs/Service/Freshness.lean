import Telemetry.Proofs.Coalesce.CachedSource
import Telemetry.Proofs.Service.Survey

/-! # How old what the caches hold is

The shared snapshot is fetched by a survey behind the cache in front of the listing.  What either
cache holds dates from a moment of the run; the topology of a snapshot dates from before its fetch.
An invariant of the world (`World.Dated`) says how old each of them is, and it tells of every moment
only what has been seen until then (`Sightings`), so that a step is compared with nothing but the
world before it.

A topology ages twice before it is shown in a snapshot: in the cache of the listing, where it may be
as old as the retention when a fetch begins, and during the fetch, which may last as long as its
limit.  So the bound is the sum of the two (`fetchAge`), in whole milliseconds for the second.  What
a fetch that is under way draws on is part of the invariant (`World.Fetching`), by the stage of its
survey (`World.Sources`).

The last part is about calls of the inspector for its hardware.  The shared listing makes one at a
time, and behind the cache nobody else makes any.
-/

namespace Telemetry

/-- What dates from one moment is younger at another than so many nanoseconds.  Moments are counted
in milliseconds. -/
def YoungerThan (nanos date now : Nat) : Prop := now * 1000000 < date * 1000000 + nanos

theorem YoungerThan.earlier {nanos date now now' : Nat} (h : YoungerThan nanos date now)
    (hnow : now' ≤ now) : YoungerThan nanos date now' :=
  Nat.lt_of_le_of_lt (Nat.mul_le_mul_right _ hnow) h

/-- What dates from now is younger than any length of time, and so is what dates from later. -/
theorem youngerThan_of_le {nanos date now : Nat} (hpos : 0 < nanos) (h : now ≤ date) :
    YoungerThan nanos date now :=
  Nat.lt_of_le_of_lt (Nat.mul_le_mul_right _ h) (Nat.lt_add_of_pos_right hpos)

/-- What is handed on ages by the time that it was held, on top of its age when it was taken in. -/
theorem YoungerThan.trans {m n date held now : Nat} (h : YoungerThan m date held)
    (hheld : YoungerThan n held now) : YoungerThan (m + n) date now :=
  calc now * 1000000 < held * 1000000 + n := hheld
    _ ≤ date * 1000000 + m + n := Nat.add_le_add_right (Nat.le_of_lt h) n
    _ = date * 1000000 + (m + n) := Nat.add_assoc ..

theorem Cache.youngerThan_of_isFresh {α φ : Type} {c : Cache α φ} {now : Nat} {s : Stored α}
    (h : c.isFresh now s = true) : YoungerThan c.settings.retention.nanos s.storedAt now := by
  have hfresh : (now - s.storedAt) * 1000000 < c.settings.retention.nanos := of_decide_eq_true h
  rcases Nat.le_total now s.storedAt with hle | hle
  · exact youngerThan_of_le c.settings.retention_pos hle
  · obtain ⟨age, rfl⟩ := Nat.exists_eq_add_of_le hle
    rw [Nat.add_sub_cancel_left] at hfresh
    unfold YoungerThan
    rw [Nat.add_mul]
    exact Nat.add_lt_add_left hfresh _

/-! ## What has been seen -/

/-- What has been seen of a daemon so far, as two relations that only grow. -/
structure Sightings where
  /-- The inspector has answered a call for its hardware with a topology at a moment. -/
  listed : Topology → Nat → Prop
  /-- A shared call has fetched a snapshot by a moment. -/
  fetched : Snapshot → Nat → Prop

namespace Sightings

/-- Nothing that has been seen is forgotten: a run goes from less that has been seen to more. -/
structure Le (seen seen' : Sightings) : Prop where
  listed : ∀ topology date, seen.listed topology date → seen'.listed topology date
  fetched : ∀ snapshot date, seen.fetched snapshot date → seen'.fetched snapshot date

theorem Le.refl (seen : Sightings) : seen.Le seen := ⟨fun _ _ => id, fun _ _ => id⟩

/-- A topology was listed by now, and was young when the fetch began that makes use of it. -/
def Draws (seen : Sightings) (inner : CacheSettings) (began now : Nat) (topology : Topology) :
    Prop :=
  ∃ date ≤ now, seen.listed topology date ∧ YoungerThan inner.retention.nanos date began

variable {seen seen' : Sightings} {inner : CacheSettings} {began now now' : Nat}
  {topology : Topology}

theorem Draws.mono (h : seen.Draws inner began now topology) (hle : seen.Le seen')
    (hnow : now ≤ now') : seen'.Draws inner began now' topology := by
  obtain ⟨date, hdate, hlisted, hyoung⟩ := h
  exact ⟨date, Nat.le_trans hdate hnow, hle.listed _ _ hlisted, hyoung⟩

end Sightings

namespace World

variable {w w' : World} {seen seen' : Sightings} {inner outer : CacheSettings}
  {began now number : Nat} {stage : Survey} {topology : Topology}

/-- Where the survey of a fetch that began at a moment has its topology from, so far.  A fetch that
has just begun has none yet, and none calls the inspector itself. -/
def Sources (w : World) (seen : Sightings) (inner : CacheSettings) (began : Nat) :
    Survey → Prop
  | .fresh => True
  | .listing _ => False
  | .joined number => ∀ topology, w.listing? number = some (.ok topology) →
      seen.Draws inner began w.now topology
  | .measuring topology _ => seen.Draws inner began w.now topology

/-- A fetch of the shared snapshot that began at a moment stands well: it is within its limit, and
draws on what was young then. -/
structure Fetching (w : World) (seen : Sightings) (inner outer : CacheSettings)
    (call : SharedCall Survey) (began : Nat) : Prop where
  began_le : began ≤ w.now
  limit : call.limit = began + outer.fetchTimeout.limitMillis
  /-- Its time has not run out unnoticed. -/
  now_le : w.now ≤ call.limit
  sources : w.Sources seen inner began call.stage

/-- What is held in front of the listing dates from when it was listed, and not from when somebody
asked for it. -/
structure Lists (seen : Sightings) (inner : CacheSettings) (now : Nat)
    (shared : Shared Topology Listing) : Prop where
  settings : shared.cache.settings = inner
  stored : ∀ s, shared.cache.stored = some s → s.storedAt ≤ now ∧ seen.listed s.value s.storedAt

/-- Everything that the two caches hold dates from when it was seen, and so does what the fetch in
flight is made of.  The snapshots that have been fetched are not bounded here, but when they are
taken out of the cache. -/
structure Dated (w : World) (seen : Sightings) (inner outer : CacheSettings) : Prop where
  listing : ∃ shared, w.topology = some shared ∧ Lists seen inner w.now shared
  settings : w.snapshots.cache.settings = outer
  stored : ∀ s, w.snapshots.cache.stored = some s → seen.fetched s.value s.storedAt
  flight : ∀ call, w.snapshots.cache.flight = some call → ∃ began,
    w.Fetching seen inner outer call began

/-! ## Keeping what is dated -/

theorem Dated.cached (h : w.Dated seen inner outer) : w.topology.isSome :=
  let ⟨_, hshared, _⟩ := h.listing
  hshared ▸ rfl

theorem Sources.mono (h : w.Sources seen inner began stage) (hle : seen.Le seen')
    (hnow : w.now ≤ w'.now)
    (hlisting : ∀ number topology, w'.listing? number = some (.ok topology) →
      w.listing? number = some (.ok topology) ∨ seen'.Draws inner began w'.now topology) :
    w'.Sources seen' inner began stage := by
  cases stage with
  | fresh => trivial
  | listing due => exact h
  | joined number =>
    intro topology htopology
    rcases hlisting number topology htopology with hold | hdraws
    · exact (h topology hold).mono hle hnow
    · exact hdraws
  | measuring topology due => exact h.mono hle hnow

theorem Lists.mono {shared : Shared Topology Listing} {now' : Nat}
    (h : Lists seen inner now shared) (hle : seen.Le seen') (hnow : now ≤ now') :
    Lists seen' inner now' shared :=
  ⟨h.settings, fun s hs => ⟨Nat.le_trans (h.stored s hs).1 hnow,
    hle.listed _ _ (h.stored s hs).2⟩⟩

/-- More may be seen: nothing in the invariant asks that something has not been. -/
theorem Dated.mono (h : w.Dated seen inner outer) (hle : seen.Le seen') :
    w.Dated seen' inner outer where
  listing :=
    let ⟨shared, hshared, hlists⟩ := h.listing
    ⟨shared, hshared, hlists.mono hle (Nat.le_refl _)⟩
  settings := h.settings
  stored s hs := hle.fetched _ _ (h.stored s hs)
  flight call hcall :=
    let ⟨began, hfetching⟩ := h.flight call hcall
    ⟨began, hfetching.began_le, hfetching.limit, hfetching.now_le,
      hfetching.sources.mono hle (Nat.le_refl _) fun _ _ => .inl⟩

/-- Nothing else of the world matters, and time may pass within the limit of the fetch. -/
theorem Dated.later (h : w.Dated seen inner outer) (htopology : w'.topology = w.topology)
    (hsnapshots : w'.snapshots = w.snapshots) (hnow : w.now ≤ w'.now)
    (hlimit : ∀ call, w.snapshots.cache.flight = some call → w'.now ≤ call.limit) :
    w'.Dated seen inner outer := by
  obtain ⟨shared, hshared, hlists⟩ := h.listing
  constructor
  case listing => exact ⟨shared, htopology.trans hshared, hlists.mono (.refl seen) hnow⟩
  case settings => exact hsnapshots ▸ h.settings
  case stored => exact hsnapshots ▸ h.stored
  case flight =>
    intro call hcall
    rw [hsnapshots] at hcall
    obtain ⟨began, hfetching⟩ := h.flight call hcall
    refine ⟨began, Nat.le_trans hfetching.began_le hnow, hfetching.limit, hlimit call hcall,
      hfetching.sources.mono (.refl seen) hnow fun number topology hlisting => .inl ?_⟩
    unfold listing? at hlisting ⊢
    rw [htopology] at hlisting
    exact hlisting

theorem Dated.congr (h : w.Dated seen inner outer) (htopology : w'.topology = w.topology)
    (hsnapshots : w'.snapshots = w.snapshots) (hnow : w'.now = w.now) :
    w'.Dated seen inner outer :=
  h.later htopology hsnapshots (Nat.le_of_eq hnow.symm) fun call hcall =>
    let ⟨_, hfetching⟩ := h.flight call hcall
    hnow ▸ hfetching.now_le

/-! ## Surveys -/

/-- A survey changes no outcome of a shared listing; the one that it may start has none yet. -/
theorem Surveying.listing? (h : w.Surveying w') (number : Nat) :
    w'.listing? number = w.listing? number := by
  unfold World.listing?
  rcases h.shared with heq | ⟨shared, hshared, heq⟩
  · rw [heq]
  · rw [heq, hshared]
    obtain ⟨-, -, houtcomes⟩ := shared.get_frame w.now .fresh
    show (shared.get w.now .fresh).1.outcomes[number]? = _
    rw [houtcomes]
    rfl

/-- A survey may start a listing; what is held stays as it is, and what has been seen with it. -/
theorem Dated.surveying (h : w.Dated seen inner outer) (hsurveying : w.Surveying w') :
    w'.Dated seen inner outer := by
  have hnow : w'.now = w.now := by rw [hsurveying.frame]
  have hsnapshots : w'.snapshots = w.snapshots := by rw [hsurveying.frame]
  obtain ⟨shared, hshared, hlists⟩ := h.listing
  constructor
  case listing =>
    rw [hnow]
    rcases hsurveying.shared with heq | ⟨before, hbefore, heq⟩
    · exact ⟨shared, heq.trans hshared, hlists⟩
    · rw [hshared] at hbefore
      obtain rfl := Option.some.inj hbefore
      obtain ⟨hsettings, hstored, -⟩ := shared.get_frame w.now .fresh
      exact ⟨_, heq, hsettings.trans hlists.settings, hstored ▸ hlists.stored⟩
  case settings => exact hsnapshots ▸ h.settings
  case stored => exact hsnapshots ▸ h.stored
  case flight =>
    intro call hcall
    rw [hsnapshots] at hcall
    obtain ⟨began, hfetching⟩ := h.flight call hcall
    exact ⟨began, hnow ▸ hfetching.began_le, hfetching.limit, hnow ▸ hfetching.now_le,
      hfetching.sources.mono (.refl seen) (Nat.le_of_eq hnow.symm) fun number topology hlisting =>
        .inl (hsurveying.listing? number ▸ hlisting)⟩

theorem Sources.ne_listing (h : w.Sources seen inner began stage) (due : Option Nat) :
    stage ≠ .listing due := by
  rintro rfl
  exact h

/-- **What a fetch measures after was young when the fetch began**: it was held by the cache then,
or has been listed since. -/
theorem Dated.draws_of_supplies (h : w.Dated seen inner outer) (hbegan : began ≤ w.now)
    (hsources : w.Sources seen inner began stage) (hsupplies : w.Supplies stage topology) :
    seen.Draws inner began w.now topology := by
  cases hsupplies with
  | had => exact hsources
  | called hcalls => exact absurd hcalls (not_callsItself h.cached hsources.ne_listing)
  | @cached before s hbefore hs hfresh =>
    obtain ⟨shared, hshared, hlists⟩ := h.listing
    rw [hshared] at hbefore
    obtain rfl := Option.some.inj hbefore
    obtain ⟨hdate, hlisted⟩ := hlists.stored s hs
    refine ⟨s.storedAt, hdate, hlisted, ?_⟩
    rw [← hlists.settings]
    exact (Cache.youngerThan_of_isFresh hfresh).earlier hbegan
  | joined hlisting => exact hsources _ hlisting

/-- A fetch that goes on knows where it has its topology from, by the cases of what its step comes
to. -/
theorem Dated.sources_of_comesTo (h : w.Dated seen inner outer) (hbegan : began ≤ w.now)
    (hsources : w.Sources seen inner began stage) (hsurveying : w.Surveying w') {stage' : Survey}
    (hcomes : SurveyComesTo w w' stage (.pending stage')) :
    w'.Sources seen inner began stage' := by
  have hnow : w'.now = w.now := by rw [hsurveying.frame]
  cases hcomes with
  | lists hcalls => exact absurd hcalls (not_callsItself h.cached hsources.ne_listing)
  | @joins shared _ _ hafter =>
    -- the listing that is joined has not ended
    intro topology hlisting
    obtain ⟨-, -, houtcomes⟩ := shared.get_frame w.now .fresh
    unfold World.listing? at hlisting
    rw [hafter] at hlisting
    have hended : (shared.get w.now .fresh).1.outcomes[shared.outcomes.length]? =
        some (.ok topology) := hlisting
    rw [houtcomes, List.getElem?_eq_none (Nat.le_refl _)] at hended
    cases hended
  | waits hstage hlisting =>
    intro topology hended
    rw [hsurveying.listing?, hlisting] at hended
    cases hended
  | measures hsupplies =>
    show seen.Draws inner began w'.now _
    rw [hnow]
    exact h.draws_of_supplies hbegan hsources hsupplies

/-! ## The turn of the shared listing -/

/-- The inspector answers the shared call for its hardware with a topology now. -/
def Answers (w : World) (topology : Topology) : Prop :=
  ∃ shared call, w.topology = some shared ∧ shared.cache.flight = some call ∧
    (w.answerListing call.stage).2 = .done (.value topology)

/-- The turn of the shared listing, if the topology that is answered has been seen.  It may end a
listing, and then the cache holds what dates from now. -/
theorem Dated.advanceListing (h : w.Dated seen inner outer)
    (hlisted : ∀ topology, w.Answers topology → seen.listed topology w.now) :
    w.advanceListing.Dated seen inner outer := by
  obtain ⟨shared, hshared, hlists⟩ := h.listing
  cases hcall : shared.cache.flight with
  | none =>
    unfold World.advanceListing
    rw [hshared]
    simp only [hcall]
    exact h
  | some call =>
    have hanswered (topology : Topology)
        (hdone : listingStage (w.answerListing call.stage).2 = .done (.value topology)) :
        seen.listed topology w.now :=
      hlisted topology ⟨shared, call, hshared, hcall, listingStage_done hdone⟩
    rw [advanceListing_of_flight hshared hcall]
    refine ⟨⟨_, rfl, (shared.settings_advance ..).trans hlists.settings, fun s hs => ?_⟩,
      h.settings, h.stored, fun fetch hfetch => ?_⟩
    · rcases Shared.stored_advance hs with hold | ⟨hdone, hnow⟩
      · exact hlists.stored s hold
      · rw [hnow]
        exact ⟨Nat.le_refl _, hanswered _ hdone⟩
    · obtain ⟨began, hfetching⟩ := h.flight fetch hfetch
      refine ⟨began, hfetching.began_le, hfetching.limit, hfetching.now_le,
        hfetching.sources.mono (.refl seen) (Nat.le_refl w.now) fun number topology hended => ?_⟩
      rcases Shared.outcome?_advance (s := shared) hended with hold | hdone
      · refine .inl ?_
        unfold World.listing?
        rw [hshared]
        exact hold
      · -- what is listed during a fetch is young enough for it
        exact .inr ⟨w.now, Nat.le_refl _, hanswered _ hdone,
          youngerThan_of_le inner.retention_pos hfetching.began_le⟩

/-! ## The turn of the shared snapshot -/

/-- How many nanoseconds old the topology of a snapshot may be when the snapshot is fetched: the
retention of the listing, and the limit of the fetch in whole milliseconds. -/
def fetchAge (retention limit : Span) : Nat := retention.nanos + limit.ceilMillis * 1000000

/-- The shared call for a snapshot ends with a survey now, of which the snapshot is to be built. -/
def Fetches (w : World) (s : Surveyed) : Prop :=
  ∃ call, w.snapshots.cache.flight = some call ∧
    (w.advanceSurvey false call.stage).2 = .done (.value s)

theorem surveyStage_done {progress : Progress Survey Surveyed} {snapshot : Snapshot}
    (h : w.surveyStage progress = .done (.value snapshot)) :
    ∃ s, progress = .done (.value s) ∧ snapshot = w.snapshotOf s := by
  rcases progress with stage | (s | e | message)
  · cases h
  · exact ⟨s, rfl, (Ending.value.inj (Progress.done.inj h)).symm⟩
  · cases h
  · cases h

theorem surveyStage_pending {progress : Progress Survey Surveyed} {stage : Survey}
    (h : w.surveyStage progress = .pending stage) : progress = .pending stage := by
  rcases progress with stage' | (s | e | message)
  · rw [Progress.pending.inj h]
  all_goals cases h

/-- The limit of a fetch bounds how much older its topology grows while the fetch goes on. -/
theorem Fetching.youngerThan {call : SharedCall Survey} {date : Nat}
    (h : w.Fetching seen inner outer call began)
    (hyoung : YoungerThan inner.retention.nanos date began) :
    YoungerThan (fetchAge inner.retention outer.fetchTimeout) date w.now := by
  have hnow : w.now ≤ began + outer.fetchTimeout.ceilMillis :=
    calc w.now ≤ call.limit := h.now_le
      _ = began + outer.fetchTimeout.limitMillis := h.limit
      _ ≤ began + outer.fetchTimeout.ceilMillis :=
        Nat.add_le_add_left outer.fetchTimeout.limitMillis_le_ceilMillis _
  calc w.now * 1000000
      ≤ began * 1000000 + outer.fetchTimeout.ceilMillis * 1000000 := by
        rw [← Nat.add_mul]
        exact Nat.mul_le_mul_right _ hnow
    _ < date * 1000000 + inner.retention.nanos + outer.fetchTimeout.ceilMillis * 1000000 :=
        Nat.add_lt_add_right hyoung _
    _ = date * 1000000 + fetchAge inner.retention outer.fetchTimeout := Nat.add_assoc ..

/-- What a fetch ends with has been seen, if the snapshots of topologies that are young enough
have been. -/
theorem Dated.fetched (h : w.Dated seen inner outer)
    (hfetched : ∀ s date, w.Fetches s → seen.listed s.topology date →
      YoungerThan (fetchAge inner.retention outer.fetchTimeout) date w.now →
      seen.fetched (w.snapshotOf s) w.now)
    {call : SharedCall Survey} (hcall : w.snapshots.cache.flight = some call)
    {snapshot : Snapshot}
    (hdone : w.surveyStage (w.advanceSurvey false call.stage).2 = .done (.value snapshot)) :
    seen.fetched snapshot w.now := by
  obtain ⟨s, hsurvey, rfl⟩ := surveyStage_done hdone
  obtain ⟨began, hfetching⟩ := h.flight call hcall
  obtain ⟨date, -, hlisted, hyoung⟩ := h.draws_of_supplies hfetching.began_le hfetching.sources
    (supplies_of_survey hsurvey).1
  exact hfetched s date ⟨call, hcall, hsurvey⟩ hlisted (hfetching.youngerThan hyoung)

/-- The turn of the shared snapshot, if the snapshot that is fetched has been seen.  An outcome that
was not there before is the one of this fetch. -/
theorem Dated.advanceSnapshot (h : w.Dated seen inner outer)
    (hfetched : ∀ s date, w.Fetches s → seen.listed s.topology date →
      YoungerThan (fetchAge inner.retention outer.fetchTimeout) date w.now →
      seen.fetched (w.snapshotOf s) w.now) :
    w.advanceSnapshot.Dated seen inner outer ∧
      ∀ (number : Nat) (snapshot : Snapshot),
        w.advanceSnapshot.snapshots.outcome? number = some (.ok snapshot) →
        w.snapshots.outcome? number = some (.ok snapshot) ∨ seen.fetched snapshot w.now := by
  cases hcall : w.snapshots.cache.flight with
  | none =>
    unfold World.advanceSnapshot
    rw [hcall]
    exact ⟨h, fun _ _ => .inl⟩
  | some call =>
    obtain ⟨hsurveying, hcomes⟩ := w.surveying_advanceSurvey false call.stage
    have hbehind := h.surveying hsurveying
    rw [advanceSnapshot_of_flight hcall]
    refine ⟨⟨hbehind.listing, (w.snapshots.settings_advance ..).trans h.settings,
      fun held hheld => ?_, fun call' hcall' => ?_⟩, fun number snapshot hended => ?_⟩
    · rcases Shared.stored_advance hheld with hold | ⟨hdone, hnow⟩
      · exact h.stored held hold
      · rw [hnow]
        exact h.fetched hfetched hcall hdone
    · obtain ⟨stage, hpending, hlt, rfl⟩ := Shared.flight_advance hcall'
      rw [surveyStage_pending hpending] at hcomes
      obtain ⟨began, hfetching⟩ := h.flight call hcall
      have hnow : (w.advanceSurvey false call.stage).1.now = w.now := by rw [hsurveying.frame]
      exact ⟨began, hnow ▸ hfetching.began_le, hfetching.limit,
        Nat.le_trans (Nat.le_of_eq hnow) (Nat.le_of_lt hlt),
        h.sources_of_comesTo hfetching.began_le hfetching.sources hsurveying hcomes⟩
    · exact (Shared.outcome?_advance hended).imp_right (h.fetched hfetched hcall)

/-- A fetch that cannot go on has time left, since at its limit it would have ended. -/
theorem lt_limit_of_advanceSnapshot {call : SharedCall Survey} (h : w.advanceSnapshot = w)
    (hcall : w.snapshots.cache.flight = some call) : w.now < call.limit := by
  rw [advanceSnapshot_of_flight hcall] at h
  have hflight : (w.snapshots.advance w.now call
      (w.surveyStage (w.advanceSurvey false call.stage).2)).cache.flight = some call :=
    (congrArg (fun w : World => w.snapshots.cache.flight) h).trans hcall
  obtain ⟨-, -, hlt, -⟩ := Shared.flight_advance hflight
  exact hlt

/-- Somebody asks for the shared snapshot, and may start a fetch by that, which begins now and has
drawn on nothing. -/
theorem Dated.getSnapshot (h : w.Dated seen inner outer) :
    { w with snapshots := (w.snapshots.get w.now .fresh).1 }.Dated seen inner outer := by
  obtain ⟨hsettings, hstored, -⟩ := w.snapshots.get_frame w.now .fresh
  refine ⟨h.listing, hsettings.trans h.settings, fun s hs => h.stored s (hstored ▸ hs),
    fun call hcall => ?_⟩
  rcases w.snapshots.get_flight w.now .fresh with hflight | ⟨-, hflight⟩
  · obtain ⟨began, hfetching⟩ := h.flight call (hflight.symm.trans hcall)
    exact ⟨began, hfetching.began_le, hfetching.limit, hfetching.now_le,
      hfetching.sources.mono (.refl seen) (Nat.le_refl w.now) fun _ _ => .inl⟩
  · obtain rfl := Option.some.inj (hflight.symm.trans hcall)
    refine ⟨w.now, Nat.le_refl _, ?_, Nat.le_add_right .., trivial⟩
    rw [h.settings]

end World

/-! ## One call at a time -/

/-- Whether a shared listing has called the inspector, and waits for its answer. -/
def Listing.runs : Listing → Bool
  | .fresh => false
  | .waiting _ => true

/-- Whether a survey has called the inspector for its hardware itself, and waits for the
answer. -/
def Survey.lists : Survey → Bool
  | .listing _ => true
  | _ => false

namespace World

variable {w w' : World}

/-- Whether the shared listing has a call of the inspector running. -/
def listingRuns (w : World) : Bool :=
  (w.topology.bind fun shared => shared.cache.flight).any fun call => call.stage.runs

/-- The shared listing calls the inspector at most once, and not while its call is running. -/
theorem calls_advanceListing (w : World) :
    w.advanceListing.inspector.topology.calls = w.inspector.topology.calls ∨
      w.advanceListing.inspector.topology.calls = w.inspector.topology.calls + 1 ∧
        w.listingRuns = false := by
  unfold listingRuns
  cases hshared : w.topology with
  | none =>
    unfold advanceListing
    rw [hshared]
    exact .inl rfl
  | some shared =>
    cases hcall : shared.cache.flight with
    | none =>
      unfold advanceListing
      rw [hshared]
      simp only [hcall]
      exact .inl trivial
    | some call =>
      rw [advanceListing_of_flight hshared hcall, Option.bind_some, hcall]
      cases hstage : call.stage with
      | waiting due => exact .inl rfl
      | fresh => exact .inr ⟨rfl, by rw [Option.any_some, hstage]; rfl⟩

/-- How the shared listing of one world follows that of another: there is one in both, and it only
goes on. -/
def ListingFollows (w w' : World) : Prop :=
  ∀ shared, w.topology = some shared → ∃ shared', w'.topology = some shared' ∧
    shared.Follows shared'

theorem ListingFollows.of_eq (h : w'.topology = w.topology) : w.ListingFollows w' :=
  fun shared hshared => ⟨shared, h.trans hshared, .refl shared⟩

theorem Surveying.listingFollows (h : w.Surveying w') : w.ListingFollows w' := by
  rcases h.shared with heq | ⟨before, hbefore, heq⟩
  · exact .of_eq heq
  · intro shared hshared
    obtain rfl := Option.some.inj (hbefore.symm.trans hshared)
    exact ⟨_, heq, before.follows_get w.now .fresh⟩

theorem listingFollows_advanceListing (w : World) : w.ListingFollows w.advanceListing := by
  intro shared hshared
  cases hcall : shared.cache.flight with
  | none =>
    unfold advanceListing
    rw [hshared]
    simp only [hcall]
    exact ⟨shared, hshared, .refl shared⟩
  | some call =>
    rw [advanceListing_of_flight hshared hcall]
    exact ⟨_, rfl, Shared.follows_advance hcall ..⟩

theorem follows_advanceSnapshot (w : World) : w.snapshots.Follows w.advanceSnapshot.snapshots := by
  cases hcall : w.snapshots.cache.flight with
  | none =>
    unfold advanceSnapshot
    rw [hcall]
    exact .refl _
  | some call =>
    rw [advanceSnapshot_of_flight hcall]
    exact Shared.follows_advance hcall ..

/-- The shared snapshot surveys the machine behind the cache, so that its turn does not call the
inspector for its hardware. -/
theorem listing_advanceSnapshot (w : World) :
    w.ListingFollows w.advanceSnapshot ∧
      (w.topology.isSome → w.advanceSnapshot.inspector.topology = w.inspector.topology) := by
  cases hcall : w.snapshots.cache.flight with
  | none =>
    unfold advanceSnapshot
    rw [hcall]
    exact ⟨.of_eq rfl, fun _ => rfl⟩
  | some call =>
    have hsurveying := (w.surveying_advanceSurvey false call.stage).1
    rw [advanceSnapshot_of_flight hcall]
    exact ⟨hsurveying.listingFollows, hsurveying.cached⟩

end World

end Telemetry
