import Telemetry.Proofs.Collector.Accounting
import Telemetry.Proofs.Collector.Series

/-! # Which failed collections are recorded

A collection whose attempts fail tells the sink of one failure.  One that dies is handed out as an
error just the same, but the sink learns nothing of it (`Collection.unrecorded`).  So the failures
recorded of a source fall short of its failed collections by those that died, and by no others
(`FanOut.Records`).

There are three ways to die (`Collection.Died`): the clock cannot represent the limit, an attempt
panics, or the wait for another attempt cannot be drawn.  That no collection leaves its error
unrecorded in any other way is `died_collect`; the count of what is recorded is then a sum over the
collections of the source that are over (`countP_told`), since the sink is told of each at its end.

So the documented rule, that every failed collection is counted, fails just where something panics:
`failure_unrecorded_of_panic` is the smallest case.
-/

namespace Telemetry

namespace Collection

/-- Whoever waits for the collection is given an error.  It is so however the collection has
failed. -/
def failed (c : Collection) : Bool := !c.outcome.isOk

/-- The collection comes to an error that the sink learns nothing of: neither a failure nor a
reading is told. -/
def unrecorded (c : Collection) : Bool := c.failed && c.sinkCalls.isEmpty

/-- How a collection can die.  In each case the task ends before it comes to tell the sink
anything. -/
inductive Died (p : CollectPolicy) (c : Collection) : Prop
  /-- The clock cannot represent the end of its limit; the provider is not even asked. -/
  | beyondClock : p.timeout.clockCanReach = false → c.attempts = [] → Died p c
  /-- Its last attempt panics. -/
  | panicked {a : Attempt Snapshot} {message : String} : c.attempts.getLast? = some a →
      a.course.ends = some c.ends → a.course.ending = .panic message → Died p c
  /-- Its last attempt fails, and the wait for another one cannot be drawn. -/
  | undrawn {a : Attempt Snapshot} {e : Error} : c.attempts.getLast? = some a →
      a.course.ends = some c.ends → a.course.ending = .failure e → e.isRetryable = true →
      a.number + 1 < p.retry.maxAttempts → p.retry.backoff.drawable a.number = false → Died p c

/-- A collection tells the sink of one failure if it fails, unless it dies.  Written as a sum, the
rule can be added up over the collections of a source. -/
def Records (c : Collection) : Prop :=
  c.sinkCalls.countP (· = .failure c.source) + c.unrecorded.toNat = c.failed.toNat

variable {source : String} {started : Nat} {relayedFrom : Option Nat}
  {run : RetryRun Provider Snapshot}

/-- A run that dies is shared as a failure, and tells the sink nothing. -/
theorem ofRun_of_panic {message : String} (h : run.ending = .panic message) :
    (ofRun source started relayedFrom run).sinkCalls = [] ∧
      (ofRun source started relayedFrom run).outcome = (Ending.panic message).shared := by
  unfold ofRun
  rw [h]
  exact ⟨rfl, rfl⟩

theorem records_ofRun : (ofRun source started relayedFrom run).Records := by
  unfold Records unrecorded failed
  rw [source_ofRun]
  cases hending : run.ending with
  | value snapshot =>
    have hnone : ∀ k ∈ snapshot.hardwareReadings.map (SinkCall.ofReading source),
        ¬ decide (k = .failure source) = true := by
      refine List.forall_mem_map.mpr fun r _ heq => ?_
      cases of_decide_eq_true heq
    rw [(ofRun_of_value hending).1, (ofRun_of_value hending).2, List.countP_eq_zero.mpr hnone]
    rfl
  | failure e =>
    rw [(ofRun_of_failure hending).1, (ofRun_of_failure hending).2, List.countP_singleton,
      if_pos (decide_eq_true rfl)]
    rfl
  | panic message =>
    rw [(ofRun_of_panic hending).1, (ofRun_of_panic hending).2]
    rfl

/-- Only a run that dies leaves an error unrecorded, for any other end is either told or no
error. -/
theorem panic_of_unrecorded (h : (ofRun source started relayedFrom run).unrecorded = true) :
    ∃ message, run.ending = .panic message := by
  unfold unrecorded failed at h
  cases hending : run.ending with
  | value snapshot =>
    rw [(ofRun_of_value hending).2] at h
    cases h
  | failure e =>
    rw [(ofRun_of_failure hending).1, Bool.and_comm] at h
    cases h
  | panic message => exact ⟨message, rfl⟩

/-- Of the failed collections of a source that tell the sink what they come to, it misses those that
left their error unrecorded.  The induction is over the list, with the rule of one collection at
each step. -/
theorem countP_told {name : String} {cs : List Collection}
    (h : ∀ c ∈ cs, c.source = name ∧ c.Records) :
    (cs.flatMap told).countP (·.2 = .failure name) + cs.countP unrecorded =
      cs.countP failed := by
  induction cs with
  | nil => rfl
  | cons c rest ih =>
    obtain ⟨⟨rfl, hc⟩, hrest⟩ := List.forall_mem_cons.mp h
    have htold : c.told.countP (·.2 = .failure c.source) =
        c.sinkCalls.countP (· = .failure c.source) := List.countP_map
    have hcons : ∀ f : Collection → Bool,
        (c :: rest).countP f = rest.countP f + (f c).toNat := by
      intro f
      rw [List.countP_cons]
      cases f c <;> rfl
    rw [List.flatMap_cons, List.countP_append, htold, hcons, hcons, ← ih hrest, ← hc]
    omega

end Collection

namespace CollectPolicy

variable (p : CollectPolicy) (source : String) {provider : Provider} {now : Nat}

/-- **A collection that leaves its error unrecorded has died.**  The end of its last attempt tells
in which of the three ways. -/
theorem died_collect (h : (p.collect source provider now).2.unrecorded = true) :
    (p.collect source provider now).2.Died p := by
  obtain ⟨message, hpanic⟩ := Collection.panic_of_unrecorded h
  have hattempts := p.attempts_collect source provider now
  have hends := p.ends_collect source provider now
  rcases p.attempts_cases source provider now with ⟨hnot, hrun⟩ | hrun
  · exact .beyondClock hnot (hattempts.trans (by rw [hrun]))
  · obtain ⟨a, hlast, hend⟩ := hrun.concludes
    rw [← hattempts] at hlast
    rw [← hends, show (p.attempts source provider now).ending = _ from hpanic] at hend
    cases hend with
    | panic hended _ hending => exact .panicked hlast hended hending
    | undrawn hended _ hending hretry hmore hwait =>
      exact .undrawn hlast hended hending hretry hmore
        (RetryPolicy.drawable_of_delays_eq_none hwait)

end CollectPolicy

namespace FanOut

/-- What is recorded of the failures of a source in a run of rounds.  It is said without any
condition on the provider, and the last field tells what such a condition gives. -/
structure Records (p : CollectPolicy) (name : String) (provider : Provider) (s : FanOut)
    (rounds : List (Nat × Option Nat)) : Prop where
  /-- Every round hands out a collection of the source, and resolves to its outcome. -/
  handed : ∀ pre now armed post, rounds = pre ++ (now, armed) :: post →
    ∃ c ∈ ((s.run (pre ++ [(now, armed)])).lane name).collections,
      (s.run pre).Hands name now armed c
  /-- At any moment the failures recorded, with the collections that died, are as many
  as the collections over by then that came to an error. -/
  counted : ∀ now, HappenedBy now rounds →
    let finished := ((s.run rounds).lane name).collections.filter fun c => c.ends ≤ now
    ((s.run rounds).settle now).sink.countP (·.2 = .failure name) +
      finished.countP Collection.unrecorded = finished.countP Collection.failed
  /-- An error of a collection goes unrecorded only if the collection died. -/
  died : ∀ c ∈ ((s.run rounds).lane name).collections, c.unrecorded = true → c.Died p
  /-- Where nothing panics, no error goes unrecorded. -/
  calm : p.timeout.clockCanReach = true →
    (∀ n, n + 1 < p.retry.maxAttempts → p.retry.backoff.drawable n = true) → provider.Calm →
    ∀ c ∈ ((s.run rounds).lane name).collections, c.unrecorded = false

variable {p : CollectPolicy} {providers : SortedMap String Provider} {name : String}
  {provider : Provider} {now : Nat} {armed : Option Nat} {pre : List (Nat × Option Nat)}

/-- Whatever a round hands out for a source is one of its collections, joined or started. -/
theorem exists_hands (hprovider : providers.find? name = some provider)
    (hfresh : provider.Fresh) (hpre : HappenedBy now pre) :
    ∃ c ∈ (((create p providers).run (pre ++ [(now, armed)])).lane name).collections,
      ((create p providers).run pre).Hands name now armed c := by
  by_cases hrunning : ∃ c ∈ (((create p providers).run pre).lane name).collections,
      c.RunsAfter pre now armed
  · -- the round joins the collection that still runs
    obtain ⟨c, hc, hruns⟩ := hrunning
    obtain ⟨hhands, hsame⟩ := hands_running hprovider hfresh hpre hc hruns
    exact ⟨c, hsame ▸ hc, hhands⟩
  · have hidle : ∀ c ∈ (((create p providers).run pre).lane name).collections,
        ¬ c.RunsAfter pre now armed := fun c hc hruns => hrunning ⟨c, hc, hruns⟩
    obtain ⟨c, -, hhands, hnext⟩ := hands_next hprovider hfresh hpre hidle
    exact ⟨c, hnext ▸ List.mem_append_right _ (List.mem_singleton_self c), hhands⟩

/-- What the sink has recorded of a source stands on the source's lane, so that other sources need
not be looked at. -/
theorem countP_sink (s : FanOut) (name : String) :
    s.sink.countP (·.2 = .failure name) =
      (s.lane name).sink.countP (·.2 = .failure name) := by
  show _ = (s.sink.filter _).countP _
  rw [List.countP_filter]
  refine List.countP_congr fun t _ => ?_
  simp only [Bool.and_eq_true, decide_eq_true_eq]
  exact ⟨fun h => ⟨h, by rw [h]; rfl⟩, And.left⟩

end FanOut

namespace Collector

/-- The metrics of a collector count what its sink was told of failures. -/
theorem failures_metrics {c : Collector} (h : c.countsFailures = true) (name : String) :
    (c.metrics.failures.find? name).getD 0 = c.fanOut.sink.countP (·.2 = .failure name) := by
  have hcount : SinkCall.failuresOf (c.fanOut.sink.map Prod.snd) name =
      c.fanOut.sink.countP (·.2 = .failure name) := by
    rw [SinkCall.failuresOf, List.count_eq_countP, List.countP_map]
    rfl
  rw [metrics_eq_after h, Metrics.find?_failures_after, ← hcount]
  split
  next hzero => exact hzero.symm
  next => rfl

variable {providers : SortedMap String Provider} {interval timeout : Span} {attempts : Nat}
  {backoff : Backoff} {jitter : String → Nat → Nat → Float} {countsFailures : Bool}
  {c : Collector} {name : String} {provider : Provider}

/-- **The failures recorded of a source** are its failed collections less those that died, in every
run of rounds of every collector.  Neither the clock nor the waits nor the provider need behave: a
collection dies by a panic of its provider, by a limit that the clock cannot represent or by a wait
that cannot be drawn, and by nothing else.  Where none of these can happen every failure is
recorded. -/
theorem create_records
    (hnew : create providers interval timeout attempts backoff jitter countsFailures = .ok c)
    (hprovider : providers.find? name = some provider) (hfresh : provider.Fresh)
    {rounds : List (Nat × Option Nat)} (hrounds : Chronological rounds) :
    ∃ hpos : 0 < attempts,
      c.fanOut.Records ⟨⟨attempts, backoff, hpos⟩, timeout, jitter⟩ name provider rounds := by
  obtain ⟨hpos, rfl⟩ := eq_of_create hnew
  refine ⟨hpos, ?_⟩
  let p : CollectPolicy := ⟨⟨attempts, backoff, hpos⟩, timeout, jitter⟩
  show (FanOut.create p providers).Records p name provider rounds
  obtain ⟨last, hlast⟩ := hrounds.happenedBy
  obtain ⟨hlinked, -, hlane⟩ := FanOut.run_create (p := p) hprovider rounds
  obtain ⟨past, hsound⟩ := Lane.sound_run p name hfresh hlast
  rw [← hlane] at hsound
  -- each collection of the lane is one that the policy has made of the provider
  have hdied : ∀ c ∈ (((FanOut.create p providers).run rounds).lane name).collections,
      c.unrecorded = true → c.Died p := by
    intro c hc hnot
    obtain ⟨q, -, -, hmade⟩ := hsound.made c hc
    rw [← hmade] at hnot ⊢
    exact p.died_collect name hnot
  have hrecords : ∀ c ∈ (((FanOut.create p providers).run rounds).lane name).collections,
      c.source = name ∧ c.Records := by
    intro c hc
    obtain ⟨q, -, -, hmade⟩ := hsound.made c hc
    rw [← hmade]
    exact ⟨CollectPolicy.source_collect .., Collection.records_ofRun⟩
  constructor
  case handed =>
    intro pre now armed post hsplit
    subst hsplit
    exact FanOut.exists_hands hprovider hfresh hlast.before.1
  case counted =>
    intro now hnow finished
    obtain ⟨past, hsound⟩ := Lane.sound_run p name hfresh hnow
    obtain ⟨past, hsettled⟩ := hsound.settle (Nat.le_refl now)
    have hsink : ((((FanOut.create p providers).run rounds).settle now).lane name).sink =
        finished.flatMap Collection.told := by
      unfold finished FanOut.settle
      rw [FanOut.lane_land hlinked, hlane]
      exact hsettled.sink_eq fun c hc => Lane.lt_ends_of_settle hc
    rw [FanOut.countP_sink, hsink]
    exact Collection.countP_told fun c hc => hrecords c (List.mem_of_mem_filter hc)
  case died => exact hdied
  case calm =>
    intro hclock hdrawn hcalm c hc
    cases hnot : c.unrecorded with
    | false => rfl
    | true =>
      obtain ⟨-, haccounted⟩ := hsound.accounted hc hclock hdrawn hcalm
      unfold Collection.unrecorded Collection.failed at hnot
      cases haccounted with
      | reported _ _ _ houtcome =>
        rw [houtcome] at hnot
        cases hnot
      | failed _ _ hcalls _ =>
        rw [hcalls, Bool.and_comm] at hnot
        cases hnot

/-- A source that panics, then fails, then delivers: one of its two failed collections is
recorded. -/
theorem records_of_dying_source :
    let provider : Provider := .ofScript
      ⟨[⟨some 4, .panic "lost"⟩, ⟨some 4, .failure (.internal "reset")⟩,
        ⟨some 4, .value ⟨default, []⟩⟩]⟩
    let providers : SortedMap String Provider := .ofList [("alpha", provider)]
    let backoff : Backoff := ⟨1, 2.0, 0.0, 5⟩
    let rounds : List (Nat × Option Nat) := [(0, none), (3, none), (20, none), (30, none)]
    ∃ c, create providers (.ofSeconds 1) (.ofMillis 100) 2 backoff (fun _ _ _ => 0.0) true = .ok c ∧
      providers.find? "alpha" = some provider ∧ provider.Fresh ∧ Chronological rounds ∧
      HappenedBy 40 rounds ∧
      ((c.fanOut.run rounds).lane "alpha").collections.map
          (fun c => (c.ends, c.failed, c.unrecorded)) =
        [(4, true, true), (24, true, false), (34, false, false)] ∧
      ∃ hpos, c.fanOut.Records ⟨⟨2, backoff, hpos⟩, .ofMillis 100, fun _ _ _ => 0.0⟩ "alpha"
        provider rounds := by
  intro provider providers backoff rounds
  have hprovider : providers.find? "alpha" = some provider :=
    (SortedMap.find?_insert _ _ _ _).trans (if_pos Std.ReflCmp.compare_self)
  have hfresh : provider.Fresh := .ofScript _
  have hrounds : Chronological rounds := by decide
  let policy : CollectPolicy := ⟨⟨2, backoff, by decide⟩, .ofMillis 100, fun _ _ _ => 0.0⟩
  let c : Collector := ⟨.create policy providers, .ofSeconds 1, true, none, 0⟩
  have hnew : create providers (.ofSeconds 1) (.ofMillis 100) 2 backoff (fun _ _ _ => 0.0) true =
      .ok c :=
    create_eq _ _ _ (by decide +kernel) (by decide) (by decide) (by decide)
  refine ⟨c, hnew, hprovider, hfresh, hrounds, by decide, ?_,
    create_records hnew hprovider hfresh hrounds⟩
  rw [(FanOut.run_create hprovider rounds).2.2]
  decide +kernel

/-- It is not so that every failed collection is recorded: the one collection of a source
that panics is over and has failed, and no failure has been recorded. -/
theorem failure_unrecorded_of_panic :
    let provider : Provider := .ofScript ⟨[⟨some 4, .panic "lost"⟩]⟩
    let providers : SortedMap String Provider := .ofList [("alpha", provider)]
    let rounds : List (Nat × Option Nat) := [(0, none)]
    ∃ c, create providers (.ofSeconds 1) (.ofMillis 100) 2 ⟨1, 2.0, 0.0, 5⟩ (fun _ _ _ => 0.0)
        true = .ok c ∧
      HappenedBy 10 rounds ∧
      ((((c.fanOut.run rounds).lane "alpha").collections.filter fun c => c.ends ≤ 10).countP
        Collection.failed) = 1 ∧
      ((c.fanOut.run rounds).settle 10).sink.countP (·.2 = .failure "alpha") = 0 := by
  intro provider providers rounds
  have hprovider : providers.find? "alpha" = some provider :=
    (SortedMap.find?_insert _ _ _ _).trans (if_pos Std.ReflCmp.compare_self)
  let policy : CollectPolicy := ⟨⟨2, ⟨1, 2.0, 0.0, 5⟩, by decide⟩, .ofMillis 100, fun _ _ _ => 0.0⟩
  obtain ⟨hlinked, -, hlane⟩ := FanOut.run_create (p := policy) hprovider rounds
  refine ⟨_, create_eq _ _ _ (by decide +kernel) (by decide) (by decide) (by decide), by decide,
    ?_, ?_⟩
  · show ((((FanOut.create policy providers).run rounds).lane "alpha").collections.filter _).countP
      _ = 1
    rw [hlane]
    decide +kernel
  · show (((FanOut.create policy providers).run rounds).settle 10).sink.countP _ = 0
    rw [FanOut.countP_sink]
    unfold FanOut.settle
    rw [FanOut.lane_land hlinked, hlane]
    decide +kernel

end Collector

end Telemetry
