import Telemetry.Proofs.Service.Survey

/-! # How a survey ends

The step of a survey is a function with many branches: it asks the inspector or a cache, joins a
shared listing, and measures.  What ends a survey is said here without that function, by the
answers themselves: a call of the inspector has been answered or has heeded its token
(`Probe.Ends`), the listing has ended in one of the ways in which a survey can ask for the
hardware (`World.ListingEnds`), and the measuring after it has (`World.SurveyEnds`).

That the function agrees is one equivalence, `advanceSurvey_eq_done_iff`, and
`surveyWaits_of_pending` says what a survey waits for otherwise.  What is known of the ends of
cycles and requests is derived from these two, and never from the branches of the step.
-/

namespace Telemetry

/-! ## Calls of a probe -/

namespace Probe

variable {α : Type} {p : Probe α} {cancelled : Bool} {now : Nat} {due : Option Nat}
  {ending : Ending α}

/-- The moment at which a call answers that begins now, if it ever does: a probe may also hang. -/
def answersAt (p : Probe α) (now : Nat) : Option Nat := p.delay.map (now + ·)

/-- What a probe answers a call with: the value that it shows, unless it has a fault.  A fault is a
failure or a panic. -/
inductive Answers (p : Probe α) : Ending α → Prop where
  | value : p.fault = none → Answers p (.value p.value)
  | failure {e : Error} : p.fault = some (.failure e) → Answers p (.failure e)
  | panic {message : String} : p.fault = some (.panic message) → Answers p (.panic message)

/-- How a call that is to answer at a moment, if ever, has ended by now: the moment has come and
the call was answered, or the token is cancelled and the call heeds it. -/
inductive Ends (p : Probe α) (cancelled : Bool) (now : Nat) (due : Option Nat) :
    Ending α → Prop where
  | answered {moment : Nat} {ending : Ending α} : due = some moment → moment ≤ now →
      ¬ (cancelled = true ∧ p.heedsToken = true) → p.Answers ending →
      Ends p cancelled now due ending
  | withdrawn : cancelled = true → p.heedsToken = true →
      Ends p cancelled now due (.failure .cancelled)

theorem answers_iff : p.Answers ending ↔ ending = p.ending := by
  unfold Probe.ending
  constructor
  · intro h
    cases h with
    | value hfault | failure hfault | panic hfault => rw [hfault]
  · rintro rfl
    cases hfault : p.fault with
    | none => exact .value hfault
    | some fault =>
      cases fault with
      | failure e => exact .failure hfault
      | panic message => exact .panic hfault

/-- **A call has ended just when its going on says so**, with the same ending. -/
theorem resume_eq_done_iff :
    p.resume cancelled now due = .done ending ↔ p.Ends cancelled now due ending := by
  unfold resume
  constructor
  · intro h
    split at h
    next hheeds =>
      obtain ⟨hcancelled, htoken⟩ := Bool.and_eq_true_iff.mp hheeds
      rw [← Progress.done.inj h]
      exact .withdrawn hcancelled htoken
    next hheeds =>
      cases due with
      | none => cases h
      | some moment =>
        split at h
        next hdue =>
          exact .answered rfl (of_decide_eq_true hdue)
            (fun h => hheeds (Bool.and_eq_true_iff.mpr h))
            (answers_iff.mpr (Progress.done.inj h).symm)
        · cases h
  · intro h
    cases h with
    | withdrawn hcancelled htoken => rw [if_pos (Bool.and_eq_true_iff.mpr ⟨hcancelled, htoken⟩)]
    | answered hdue hle hheeds hanswers =>
      subst hdue
      rw [if_neg fun h => hheeds (Bool.and_eq_true_iff.mp h), answers_iff.mp hanswers]
      exact if_pos (decide_eq_true hle)

/-- A call that has not ended waits for its moment on, and neither the moment nor the token has
ended it. -/
theorem resume_cases_ends (p : Probe α) (cancelled : Bool) (now : Nat) (due : Option Nat) :
    (∃ ending, p.resume cancelled now due = .done ending ∧ p.Ends cancelled now due ending) ∨
      p.resume cancelled now due = .pending due ∧ ∀ ending, ¬ p.Ends cancelled now due ending := by
  cases h : p.resume cancelled now due with
  | done ending => exact .inl ⟨ending, rfl, resume_eq_done_iff.mp h⟩
  | pending due' =>
    refine .inr ⟨?_, fun ending hends => ?_⟩
    · rcases p.resume_cases cancelled now due with hr | hr | hr <;> rw [hr] at h
      · exact h.symm
      · cases h
      · cases h
    · rw [resume_eq_done_iff.mpr hends] at h
      cases h

/-- A probe without a fault and without a delay answers at once, with the value that it shows. -/
theorem ends_of_immediate (hfault : p.fault = none) (hdelay : p.delay = some 0) :
    p.Ends false now (p.answersAt now) (.value p.value) := by
  have hdue : p.answersAt now = some now := by
    unfold answersAt
    rw [hdelay]
    rfl
  exact .answered hdue (Nat.le_refl now) (fun h => by cases h.1) (.value hfault)

/-- A call that has not ended, and that nobody cancels, is not due. -/
theorem lt_of_not_ends {moment : Nat} (h : ∀ ending, ¬ p.Ends false now (some moment) ending) :
    now < moment :=
  Nat.not_le.mp fun hle => h _ (.answered rfl hle (fun h => by cases h.1) (answers_iff.mpr rfl))

end Probe

/-! ## Surveys -/

namespace World

/-- How the listing of a survey in a stage has ended, by the way in which the survey asked for the
hardware: from the inspector itself, from a cache, or from a shared listing.  A survey that has
begun in one of these ways goes on in it, so the stage tells which of them it is; a fresh one has to
look at the cache. -/
inductive ListingEnds (w : World) (cancelled : Bool) : Survey → Ending Topology → Prop where
  /-- Without a cache it has asked the inspector just now, or some time ago. -/
  | asks {ending : Ending Topology} : w.topology = none →
      w.inspector.topology.Ends cancelled w.now (w.inspector.topology.answersAt w.now) ending →
      ListingEnds w cancelled .fresh ending
  | asked {due : Option Nat} {ending : Ending Topology} :
      w.inspector.topology.Ends cancelled w.now due ending →
      ListingEnds w cancelled (.listing due) ending
  /-- The cache has a fresh topology, which ends the listing at once. -/
  | cached {shared : Shared Topology Listing} {s : Stored Topology} : w.topology = some shared →
      shared.cache.stored = some s → shared.cache.isFresh w.now s = true →
      ListingEnds w cancelled .fresh (.value s.value)
  /-- The shared listing that it has joined has ended, with a topology or with a failure of its
  own. -/
  | shared {number : Nat} {topology : Topology} : cancelled = false →
      w.listing? number = some (.ok topology) →
      ListingEnds w cancelled (.joined number) (.value topology)
  | unshared {number : Nat} {e : Error} : cancelled = false →
      w.listing? number = some (.error e) → ListingEnds w cancelled (.joined number) (.failure e)
  /-- It was to join a shared listing, or has joined one, and its own token is cancelled. -/
  | withdraws {shared : Shared Topology Listing} : cancelled = true → w.topology = some shared →
      (∀ s, shared.cache.stored = some s → shared.cache.isFresh w.now s = false) →
      ListingEnds w cancelled .fresh (.failure .cancelled)
  | withdrawn {number : Nat} : cancelled = true →
      ListingEnds w cancelled (.joined number) (.failure .cancelled)

/-- A survey in a stage measures after a topology, by a call that answers at a moment, if ever:
it has been doing so, or its listing has just ended. -/
inductive Measures (w : World) (cancelled : Bool) : Survey → Topology → Option Nat → Prop where
  | goesOn {topology : Topology} {due : Option Nat} :
      Measures w cancelled (.measuring topology due) topology due
  | begins {stage : Survey} {topology : Topology} :
      w.ListingEnds cancelled stage (.value topology) →
      Measures w cancelled stage topology (w.inspector.readings.answersAt w.now)

/-- How a survey in a stage has ended: with what the inspector has listed and measured, or
without a result, because of its first step or its second one. -/
inductive SurveyEnds (w : World) (cancelled : Bool) (stage : Survey) : Ending Surveyed → Prop where
  | surveyed {topology : Topology} {due : Option Nat} {readings : Readings} :
      w.Measures cancelled stage topology due →
      w.inspector.readings.Ends cancelled w.now due (.value readings) →
      SurveyEnds w cancelled stage (.value ⟨topology, readings⟩)
  | unlisted {e : Error} : w.ListingEnds cancelled stage (.failure e) →
      SurveyEnds w cancelled stage (.failure (e.within "get sensors"))
  | unmeasured {topology : Topology} {due : Option Nat} {e : Error} :
      w.Measures cancelled stage topology due →
      w.inspector.readings.Ends cancelled w.now due (.failure e) →
      SurveyEnds w cancelled stage (.failure (e.within "get current values"))
  | listingDies {message : String} : w.ListingEnds cancelled stage (.panic message) →
      SurveyEnds w cancelled stage (.panic message)
  | measuringDies {topology : Topology} {due : Option Nat} {message : String} :
      w.Measures cancelled stage topology due →
      w.inspector.readings.Ends cancelled w.now due (.panic message) →
      SurveyEnds w cancelled stage (.panic message)

/-- What a survey in a stage waits for after a step that has not ended it: a call of the inspector,
a shared listing, or what it has waited for before. -/
inductive SurveyWaits (w : World) (cancelled : Bool) : Survey → Survey → Prop where
  | lists : w.topology = none →
      SurveyWaits w cancelled .fresh (.listing (w.inspector.topology.answersAt w.now))
  | joins {shared : Shared Topology Listing} : w.topology = some shared →
      (∀ s, shared.cache.stored = some s → shared.cache.isFresh w.now s = false) →
      SurveyWaits w cancelled .fresh (.joined shared.outcomes.length)
  | measures {stage : Survey} {topology : Topology} :
      w.ListingEnds cancelled stage (.value topology) →
      SurveyWaits w cancelled stage (.measuring topology (w.inspector.readings.answersAt w.now))
  | still {stage : Survey} : stage ≠ .fresh → SurveyWaits w cancelled stage stage

variable {w : World} {cancelled : Bool} {stage : Survey} {topology : Topology}

/-- Without a cache a survey begins with a call of the inspector, which may end in the same step. -/
theorem advanceSurvey_of_uncached (h : w.topology = none) :
    (w.advanceSurvey cancelled .fresh).2 = (w.listed cancelled
      (w.inspector.topology.resume cancelled w.now (w.inspector.topology.answersAt w.now))).2 := by
  show (w.list cancelled).2 = _
  unfold list
  split
  next =>
    show ({ w with inspector.topology := _ }.listed cancelled
      (w.inspector.topology.resume cancelled w.now (w.inspector.topology.answersAt w.now))).2 = _
    generalize w.inspector.topology.resume cancelled w.now _ = progress
    rcases progress with due | (_ | _ | _) <;> rfl
  next shared hsome =>
    rw [h] at hsome
    cases hsome

/-- A survey that finds nothing fresh is to join a shared listing, which it may have to start. -/
theorem advanceSurvey_of_stale {shared : Shared Topology Listing}
    (hshared : w.topology = some shared)
    (hstale : ∀ s, shared.cache.stored = some s → shared.cache.isFresh w.now s = false) :
    (w.advanceSurvey cancelled .fresh).2 =
      if cancelled then .done (.failure .cancelled)
      else .pending (.joined shared.outcomes.length) := by
  have hcall := Shared.get_of_stale Listing.fresh hstale
  have hframe := (shared.get_frame w.now .fresh).2.2
  show (w.list cancelled).2 = _
  unfold list
  rw [hshared]
  cases hget : shared.get w.now .fresh with
  | mk after handout =>
    rw [hget] at hcall hframe
    obtain rfl : handout = .call shared.outcomes.length := hcall
    -- the listing that is joined has not ended
    have hnone : after.outcome? shared.outcomes.length = none := by
      unfold Shared.outcome?
      rw [hframe]
      exact List.getElem?_eq_none (Nat.le_refl _)
    unfold joinListing listing?
    simp only [hget]
    split
    · rfl
    · simp only [Option.bind_some, hnone]

/-- A survey whose listing has ended goes on to measure, or ends.  Each way of listing comes down to
this. -/
theorem advanceSurvey_of_listingEnds {ending : Ending Topology}
    (h : w.ListingEnds cancelled stage ending) :
    (w.advanceSurvey cancelled stage).2 = (w.listed cancelled (.done ending)).2 := by
  cases h with
  | asks hnone hends =>
    rw [advanceSurvey_of_uncached hnone, Probe.resume_eq_done_iff.mpr hends]
  | asked hends =>
    show (w.listed cancelled _).2 = _
    rw [Probe.resume_eq_done_iff.mpr hends]
  | cached hshared hstored hfresh =>
    show (w.list cancelled).2 = _
    unfold list
    rw [hshared]
    simp only [Shared.get_of_fresh _ hstored hfresh]
    rfl
  | shared hnot hlisting | unshared hnot hlisting =>
    show (w.joinListing cancelled _).2 = _
    unfold joinListing
    rw [hnot, hlisting]
    rfl
  | withdraws hcancelled hshared hstale =>
    rw [advanceSurvey_of_stale hshared hstale, hcancelled]
    rfl
  | withdrawn hcancelled =>
    show (w.joinListing cancelled _).2 = _
    unfold joinListing
    rw [hcancelled]
    rfl

/-- A survey that does not measure yet: its listing has ended, or it waits on for it.  The cases are
those of the stage, and of the cache for a survey that has just begun. -/
theorem listingEnds_or_waits (w : World) (cancelled : Bool) {stage : Survey}
    (hstage : ∀ topology due, stage ≠ .measuring topology due) :
    (∃ ending, w.ListingEnds cancelled stage ending) ∨
      ∃ stage', (w.advanceSurvey cancelled stage).2 = .pending stage' ∧
        w.SurveyWaits cancelled stage stage' := by
  cases stage with
  | measuring topology due => exact absurd rfl (hstage topology due)
  | listing due =>
    rcases w.inspector.topology.resume_cases_ends cancelled w.now due with
      ⟨ending, -, hends⟩ | ⟨hwait, -⟩
    · exact .inl ⟨ending, .asked hends⟩
    · refine .inr ⟨.listing due, ?_, .still fun h => by cases h⟩
      show (w.listed cancelled _).2 = _
      rw [hwait]
      rfl
  | joined number =>
    cases cancelled with
    | true => exact .inl ⟨_, .withdrawn rfl⟩
    | false =>
      cases hlisting : w.listing? number with
      | some r =>
        cases r with
        | ok topology => exact .inl ⟨_, .shared rfl hlisting⟩
        | error e => exact .inl ⟨_, .unshared rfl hlisting⟩
      | none =>
        refine .inr ⟨.joined number, ?_, .still fun h => by cases h⟩
        show (w.joinListing false number).2 = _
        unfold joinListing
        rw [hlisting]
        rfl
  | fresh =>
    cases hshared : w.topology with
    | none =>
      rcases w.inspector.topology.resume_cases_ends cancelled w.now
        (w.inspector.topology.answersAt w.now) with ⟨ending, -, hends⟩ | ⟨hwait, -⟩
      · exact .inl ⟨ending, .asks hshared hends⟩
      · refine .inr ⟨_, ?_, .lists hshared⟩
        rw [advanceSurvey_of_uncached hshared, hwait]
        rfl
    | some shared =>
      -- nothing in the cache, or nothing fresh, comes to the same: a shared listing is to be joined
      by_cases hfresh : ∃ s, shared.cache.stored = some s ∧ shared.cache.isFresh w.now s = true
      · obtain ⟨s, hstored, hfresh⟩ := hfresh
        exact .inl ⟨_, .cached hshared hstored hfresh⟩
      · have hstale : ∀ s, shared.cache.stored = some s →
            shared.cache.isFresh w.now s = false := fun s hstored =>
          Bool.eq_false_iff.mpr fun h => hfresh ⟨s, hstored, h⟩
        cases cancelled with
        | true => exact .inl ⟨_, .withdraws rfl hshared hstale⟩
        | false => exact .inr ⟨_, advanceSurvey_of_stale hshared hstale, .joins hshared hstale⟩

/-- A survey that measures goes on by the call for its readings, which has been made before or is
made in this step. -/
theorem advanceSurvey_of_measures {due : Option Nat}
    (h : w.Measures cancelled stage topology due) :
    (w.advanceSurvey cancelled stage).2 =
      measured topology (w.inspector.readings.resume cancelled w.now due) := by
  cases h with
  | goesOn => rfl
  | begins hlisted => exact advanceSurvey_of_listingEnds hlisted

/-- The step of a survey that measures, one that ends with its listing, or one that waits on for
its listing. -/
theorem survey_cases (w : World) (cancelled : Bool) (stage : Survey) :
    (∃ topology due, w.Measures cancelled stage topology due) ∨
      (∃ e, w.ListingEnds cancelled stage (.failure e)) ∨
      (∃ message, w.ListingEnds cancelled stage (.panic message)) ∨
      ∃ stage', (w.advanceSurvey cancelled stage).2 = .pending stage' ∧
        w.SurveyWaits cancelled stage stage' := by
  by_cases hmeasuring : ∃ topology due, stage = .measuring topology due
  · obtain ⟨topology, due, rfl⟩ := hmeasuring
    exact .inl ⟨topology, due, .goesOn⟩
  · rcases w.listingEnds_or_waits cancelled fun topology due h => hmeasuring ⟨topology, due, h⟩ with
      ⟨ending, hlisted⟩ | hwaits
    · cases ending with
      | value topology => exact .inl ⟨topology, _, .begins hlisted⟩
      | failure e => exact .inr (.inl ⟨e, hlisted⟩)
      | panic message => exact .inr (.inr (.inl ⟨message, hlisted⟩))
    · exact .inr (.inr (.inr hwaits))

/-- **How a survey ends**: its step ends it just when the inspector's answers, a shared listing or
its token do.  Both directions are by the cases of a survey, since each of its ends belongs to one
of them only. -/
theorem advanceSurvey_eq_done_iff {ending : Ending Surveyed} :
    (w.advanceSurvey cancelled stage).2 = .done ending ↔ w.SurveyEnds cancelled stage ending := by
  constructor
  · intro h
    -- a survey that has ended did not wait, so its step was one of the first three
    rcases w.survey_cases cancelled stage with
      ⟨topology, due, hmeasures⟩ | ⟨e, hlisted⟩ | ⟨message, hlisted⟩ | ⟨stage', hpending, -⟩
    · rw [advanceSurvey_of_measures hmeasures] at h
      rcases w.inspector.readings.resume_cases_ends cancelled w.now due with
        ⟨shown, hdone, hends⟩ | ⟨hwait, -⟩
      · rw [hdone] at h
        cases shown with
        | value readings =>
          rw [← Progress.done.inj h]
          exact .surveyed hmeasures hends
        | failure e =>
          rw [← Progress.done.inj h]
          exact .unmeasured hmeasures hends
        | panic message =>
          rw [← Progress.done.inj h]
          exact .measuringDies hmeasures hends
      · rw [hwait] at h
        cases h
    · rw [advanceSurvey_of_listingEnds hlisted] at h
      rw [← Progress.done.inj h]
      exact .unlisted hlisted
    · rw [advanceSurvey_of_listingEnds hlisted] at h
      rw [← Progress.done.inj h]
      exact .listingDies hlisted
    · rw [hpending] at h
      cases h
  · intro h
    cases h with
    | surveyed hmeasures hends | unmeasured hmeasures hends | measuringDies hmeasures hends =>
      rw [advanceSurvey_of_measures hmeasures, Probe.resume_eq_done_iff.mpr hends]
      rfl
    | unlisted hlisted | listingDies hlisted =>
      rw [advanceSurvey_of_listingEnds hlisted]
      rfl

/-- A survey ends in one way, since its step does. -/
theorem SurveyEnds.unique {ending ending' : Ending Surveyed}
    (h : w.SurveyEnds cancelled stage ending) (h' : w.SurveyEnds cancelled stage ending') :
    ending = ending' :=
  Progress.done.inj
    ((advanceSurvey_eq_done_iff.mpr h).symm.trans (advanceSurvey_eq_done_iff.mpr h'))

/-- **What a survey waits for** that its step has not ended: the remaining cases of the step. -/
theorem surveyWaits_of_pending {stage' : Survey}
    (h : (w.advanceSurvey cancelled stage).2 = .pending stage') :
    w.SurveyWaits cancelled stage stage' := by
  rcases w.survey_cases cancelled stage with
    ⟨topology, due, hmeasures⟩ | ⟨e, hlisted⟩ | ⟨message, hlisted⟩ | ⟨stage'', hpending, hwaits⟩
  · rw [advanceSurvey_of_measures hmeasures] at h
    rcases w.inspector.readings.resume_cases_ends cancelled w.now due with
      ⟨shown, hdone, -⟩ | ⟨hwait, -⟩
    · rw [hdone] at h
      cases shown <;> cases h
    · rw [hwait] at h
      rw [← Progress.pending.inj h]
      cases hmeasures with
      | goesOn => exact .still fun h => by cases h
      | begins hlisted => exact .measures hlisted
  · rw [advanceSurvey_of_listingEnds hlisted] at h
    cases h
  · rw [advanceSurvey_of_listingEnds hlisted] at h
    cases h
  · rw [hpending] at h
    rw [← Progress.pending.inj h]
    exact hwaits

/-- A survey that has no cache to ask ends in its first step if both calls are answered in it.  This
is how the answers of the inspector come to be what a history is made of. -/
theorem survey_of_answers {readings : Readings} (hcache : w.topology = none)
    (hlisted : w.inspector.topology.Ends cancelled w.now
      (w.inspector.topology.answersAt w.now) (.value topology))
    (hmeasured : w.inspector.readings.Ends cancelled w.now
      (w.inspector.readings.answersAt w.now) (.value readings)) :
    (w.advanceSurvey cancelled .fresh).2 = .done (.value ⟨topology, readings⟩) :=
  advanceSurvey_eq_done_iff.mpr (.surveyed (.begins (.asks hcache hlisted)) hmeasured)

end World

end Telemetry
