import Telemetry.Collector.Loop
import Telemetry.Proofs.Collector.Succession

/-! # Every collection is accounted for

However rounds and collections overlap, each collection of a source is one run of attempts, alone,
within its limit, and what it comes to reaches the sink once and every round that was handed it
alike.  `FanOut.Accounts` lists these promises for the collections of one source in a run of rounds.

Nothing of it is proved about many sources at once.  On the lane of a source a run of rounds is a
run of the lane's own (`run_create`), and there the collections follow one another
(`Lane.sound_run`); what is left is to say in terms of the rounds when a collection still runs
(`Collection.RunsAfter`), and to carry a handle from the lane back to the round (`Linked.hands`).

A round that comes just at the end of a collection needs a rule: whether it finds the collection
running depends on which of two timers was set first, and that is what the second component of a
round tells.
-/

namespace Telemetry

/-- A collection still runs when a round comes after others: it had not ended at any of these, nor
before the round.  At the moment of its end it is a matter of the timers whether the round comes
first. -/
def Collection.RunsAfter (rounds : List (Nat × Option Nat)) (now : Nat) (armed : Option Nat)
    (c : Collection) : Prop :=
  (∀ r ∈ rounds, r.1 < c.ends) ∧ c.runsAt now armed = true

namespace FanOut

/-- A round hands out a collection of a source, and resolves to its outcome: the handle and the
result are kept apart in a round, and belong together. -/
def Hands (s : FanOut) (name : String) (now : Nat) (armed : Option Nat) (c : Collection) : Prop :=
  ((s.round now armed).2.find? name).map Entry.call = some c ∧
    (s.round now armed).2.results.find? name = some c.outcome

theorem Linked.hands {s : FanOut} (h : s.Linked) {name : String} {now : Nat}
    {armed : Option Nat} {c : Collection}
    (hhandle : ((s.lane name).round (s.policy.collect name) now armed).2 = some c) :
    s.Hands name now armed c := by
  have hfind := ((h.round now armed).lane name).2.trans hhandle
  refine ⟨hfind, ?_⟩
  obtain ⟨e, he, rfl⟩ := Option.map_eq_some_iff.mp hfind
  rw [Round.results, SortedMap.find?_map, he]
  rfl

/-- What holds of the collections of a source, made under a policy with a provider that nobody had
asked before, in a run of rounds.  The provider is described as it was before the first round, since
its calls are counted from then. -/
structure Accounts (p : CollectPolicy) (name : String) (provider : Provider) (s : FanOut)
    (rounds : List (Nat × Option Nat)) : Prop where
  /-- Two collections never overlap. -/
  apart : ((s.run rounds).lane name).collections.Pairwise fun a b => a.ends ≤ b.started
  /-- A round during a collection joins it. -/
  joins : ∀ pre now armed post c, rounds = pre ++ (now, armed) :: post →
    c ∈ ((s.run pre).lane name).collections → c.RunsAfter pre now armed →
      (s.run pre).Hands name now armed c ∧
      ((s.run (pre ++ [(now, armed)])).lane name).collections =
        ((s.run pre).lane name).collections
  /-- Any other round starts one, at its own moment, and is handed it. -/
  starts : ∀ pre now armed post, rounds = pre ++ (now, armed) :: post →
    (∀ c ∈ ((s.run pre).lane name).collections, ¬ c.RunsAfter pre now armed) →
      ∃ c, c.started = now ∧ (s.run pre).Hands name now armed c ∧
        ((s.run (pre ++ [(now, armed)])).lane name).collections =
          ((s.run pre).lane name).collections ++ [c]
  /-- A collection makes no more attempts than it may, within its limit, rounded up to a
  whole millisecond. -/
  kept : ∀ c ∈ ((s.run rounds).lane name).collections, c.source = name ∧ c.Kept p
  /-- All calls of the provider are attempts of its collections, and without a cache
  every attempt is a call. -/
  called : ∃ asked, ((s.run rounds).lane name).provider = some asked ∧
    let moments := ((s.run rounds).lane name).collections.flatMap
      fun c => c.attempts.map Attempt.started
    asked.calls.Sublist moments ∧ (provider.Uncached → asked.calls = moments)
  /-- All attempts of a collection but the last have failed; the last one brings the
  snapshot that is reported, or the failure that is recorded. -/
  accounted : ∀ c ∈ ((s.run rounds).lane name).collections,
    c.attempts.IsChain (c.limits p).Follows ∧ c.Accounted p
  /-- At any moment the sink has been told of the source what its collections over by
  then came to, each once and at its end, and nothing else. -/
  told : ∀ now, HappenedBy now rounds →
    (((s.run rounds).settle now).lane name).sink =
      (((s.run rounds).lane name).collections.filter fun c => c.ends ≤ now).flatMap
        Collection.told

variable {p : CollectPolicy} {providers : SortedMap String Provider} {name : String}
  {provider : Provider} {now : Nat} {armed : Option Nat} {pre : List (Nat × Option Nat)}

/-- A run of all sources is, on the lane of one of them, a run of its own.  The other sources do not
occur in it any more. -/
theorem run_create (hprovider : providers.find? name = some provider)
    (rounds : List (Nat × Option Nat)) :
    ((create p providers).run rounds).Linked ∧ ((create p providers).run rounds).policy = p ∧
      ((create p providers).run rounds).lane name =
        Lane.run (p.collect name) ⟨some provider, none, [], []⟩ rounds := by
  obtain ⟨hlinked, hpolicy, hlane⟩ := (linked_create p providers).run rounds
  refine ⟨hlinked, hpolicy, (hlane name).trans ?_⟩
  rw [lane_create, hprovider]
  rfl

/-- One more round hands out what it yields on the lane, and adds to the collections of the source
just what it adds there. -/
theorem run_create_concat (hprovider : providers.find? name = some provider)
    (pre : List (Nat × Option Nat)) (now : Nat) (armed : Option Nat) :
    let l := ((create p providers).run pre).lane name
    (((create p providers).run (pre ++ [(now, armed)])).lane name).collections =
        (l.round (p.collect name) now armed).1.collections ∧
      ∀ c, (l.round (p.collect name) now armed).2 = some c →
        ((create p providers).run pre).Hands name now armed c := by
  obtain ⟨hlinked, hpolicy, hlane⟩ := run_create (p := p) hprovider pre
  refine ⟨?_, fun c hc => hlinked.hands ?_⟩
  · rw [(run_create hprovider _).2.2, Lane.run, List.foldl_concat, hlane]
    rfl
  · rw [hpolicy]
    exact hc

theorem hands_running (hprovider : providers.find? name = some provider)
    (hfresh : provider.Fresh) (hpre : HappenedBy now pre) {c : Collection}
    (hc : c ∈ (((create p providers).run pre).lane name).collections)
    (hruns : c.RunsAfter pre now armed) :
    ((create p providers).run pre).Hands name now armed c ∧
      (((create p providers).run (pre ++ [(now, armed)])).lane name).collections =
        (((create p providers).run pre).lane name).collections := by
  obtain ⟨hnext, hhands⟩ := run_create_concat (p := p) hprovider pre now armed
  have hlane := (run_create (p := p) hprovider pre).2.2
  have hflight := (Lane.flight_run p name hfresh hpre).mpr ⟨hlane ▸ hc, hruns.1⟩
  rw [← hlane] at hflight
  obtain ⟨hsame, hhandle⟩ := Lane.round_of_running (p.collect name) hflight hruns.2
  exact ⟨hhands c hhandle, hnext.trans hsame⟩

theorem hands_next (hprovider : providers.find? name = some provider)
    (hfresh : provider.Fresh) (hpre : HappenedBy now pre)
    (hidle : ∀ c ∈ (((create p providers).run pre).lane name).collections,
      ¬ c.RunsAfter pre now armed) :
    ∃ c, c.started = now ∧ ((create p providers).run pre).Hands name now armed c ∧
      (((create p providers).run (pre ++ [(now, armed)])).lane name).collections =
        (((create p providers).run pre).lane name).collections ++ [c] := by
  obtain ⟨hnext, hhands⟩ := run_create_concat (p := p) hprovider pre now armed
  have hlane := (run_create (p := p) hprovider pre).2.2
  obtain ⟨past, hsound⟩ := Lane.sound_run p name hfresh hpre
  obtain ⟨q, hq, -⟩ := hsound.asked
  have hfree : ∀ c, (((create p providers).run pre).lane name).flight = some c →
      c.runsAt now armed = false := by
    intro c hc
    rw [hlane] at hc
    obtain ⟨hmem, hlate⟩ := (Lane.flight_run p name hfresh hpre).mp hc
    refine Bool.eq_false_iff.mpr fun hruns => hidle c ?_ ⟨hlate, hruns⟩
    rw [hlane]
    exact hmem
  rw [← hlane] at hq
  obtain ⟨hmore, hhandle⟩ := Lane.round_of_free (p.collect name) hq hfree
  exact ⟨_, CollectPolicy.started_collect .., hhands _ hhandle, hnext.trans hmore⟩

end FanOut

namespace Collector

variable {providers : SortedMap String Provider} {interval timeout : Span} {attempts : Nat}
  {backoff : Backoff} {jitter : String → Nat → Nat → Float} {countsFailures : Bool}
  {c : Collector} {name : String} {provider : Provider}

/-- **Every collection is accounted for**: in every run of rounds of every collector, where the
clock can represent the limit, the waits can be drawn and the provider does not panic.  A limit
beyond the clock and a wait that cannot be drawn would end a collection like a panic, without a word
to the sink.  The other sources may do as they like.  All of it is known of the lane of the source
(`Lane.sound_run`), and is carried from there to the handles of the rounds and to the sink that all
sources share. -/
theorem create_accounts
    (hnew : create providers interval timeout attempts backoff jitter countsFailures = .ok c)
    (hclock : timeout.clockCanReach = true)
    (hdrawn : ∀ n, n + 1 < attempts → backoff.drawable n = true)
    (hprovider : providers.find? name = some provider) (hfresh : provider.Fresh)
    (hcalm : provider.Calm) {rounds : List (Nat × Option Nat)} (hrounds : Chronological rounds) :
    ∃ hpos : 0 < attempts,
      c.fanOut.Accounts ⟨⟨attempts, backoff, hpos⟩, timeout, jitter⟩ name provider rounds := by
  obtain ⟨hpos, rfl⟩ := eq_of_create hnew
  refine ⟨hpos, ?_⟩
  let p : CollectPolicy := ⟨⟨attempts, backoff, hpos⟩, timeout, jitter⟩
  show (FanOut.create p providers).Accounts p name provider rounds
  obtain ⟨last, hlast⟩ := hrounds.happenedBy
  -- from here on only the lane of the source is looked at
  obtain ⟨hlinked, -, hlane⟩ := FanOut.run_create (p := p) hprovider rounds
  obtain ⟨past, hsound⟩ := Lane.sound_run p name hfresh hlast
  rw [← hlane] at hsound
  constructor
  case apart => exact hsound.apart
  case joins =>
    intro pre now armed post c hsplit hc hruns
    subst hsplit
    exact FanOut.hands_running hprovider hfresh hlast.before.1 hc hruns
  case starts =>
    intro pre now armed post hsplit hidle
    subst hsplit
    exact FanOut.hands_next hprovider hfresh hlast.before.1 hidle
  case kept => exact fun c hc => hsound.kept hc
  case called =>
    obtain ⟨asked, hp, hasked, -⟩ := hsound.asked
    obtain ⟨made, hmade, hsub, hall⟩ := hasked.calls
    rw [hfresh.calls_eq, List.nil_append] at hmade
    refine ⟨asked, hp, ?_⟩
    rw [hmade]
    exact ⟨hsub, hall⟩
  case accounted => exact fun c hc => hsound.accounted hc hclock hdrawn hcalm
  case told =>
    intro now hnow
    obtain ⟨past, hsound⟩ := Lane.sound_run p name hfresh hnow
    obtain ⟨past, hsettled⟩ := hsound.settle (Nat.le_refl now)
    unfold FanOut.settle
    rw [FanOut.lane_land hlinked, hlane]
    exact hsettled.sink_eq fun c hc => Lane.lt_ends_of_settle hc

/-- A source whose first attempt fails, beside one that panics: the second round joins the
collection of the first one, and the third one starts another.  Each of the two collections tells
the sink of the one reading, at its end, under the labels of the source, the hardware and the
sensor. -/
theorem accounts_of_recovering_source :
    let snapshot : Snapshot := ⟨default, [⟨⟨⟨"/cpu/0"⟩, "CPU", .cpu⟩,
      [⟨⟨⟨"/cpu/0/load/0"⟩, ⟨"/cpu/0"⟩, "Core", .load, 100⟩, ⟨7, default⟩⟩]⟩]⟩
    let provider : Provider := .ofScript
      ⟨[⟨some 10, .failure (.dependency "GET" "reset")⟩, ⟨some 5, .value snapshot⟩]⟩
    let providers : SortedMap String Provider :=
      .ofList [("beta", .ofScript ⟨[⟨some 4, .panic "lost"⟩]⟩), ("alpha", provider)]
    let backoff : Backoff := ⟨1, 2.0, 0.0, 5⟩
    let rounds : List (Nat × Option Nat) := [(0, none), (3, some 0), (20, none)]
    ∃ c, create providers (.ofSeconds 1) (.ofMillis 100) 2 backoff (fun _ _ _ => 0.0) true = .ok c ∧
      (Span.ofMillis 100).clockCanReach = true ∧
      (∀ n, n + 1 < 2 → backoff.drawable n = true) ∧
      providers.find? "alpha" = some provider ∧ provider.Fresh ∧ provider.Calm ∧
      Chronological rounds ∧
      ((c.fanOut.run rounds).lane "alpha").collections.map (fun c => (c.started, c.ends)) =
        [(0, 16), (20, 25)] ∧
      (((c.fanOut.run rounds).settle 30).lane "alpha").sink =
        [(16, .report ⟨⟨"alpha", "/cpu/0", "CPU", "cpu", "/cpu/0/load/0", "Core", "load"⟩, 7⟩),
          (25, .report ⟨⟨"alpha", "/cpu/0", "CPU", "cpu", "/cpu/0/load/0", "Core", "load"⟩, 7⟩)] ∧
      ∃ hpos, c.fanOut.Accounts ⟨⟨2, backoff, hpos⟩, .ofMillis 100, fun _ _ _ => 0.0⟩ "alpha"
        provider rounds := by
  intro snapshot provider providers backoff rounds
  have hclock : (Span.ofMillis 100).clockCanReach = true := by decide
  have hdrawn : ∀ n, n + 1 < 2 → backoff.drawable n = true := by
    intro n hn
    obtain rfl : n = 0 := by omega
    decide +kernel
  have hprovider : providers.find? "alpha" = some provider :=
    (SortedMap.find?_insert _ _ _ _).trans (if_pos Std.ReflCmp.compare_self)
  have hfresh : provider.Fresh := .ofScript _
  have hcalm : provider.Calm := Script.calm_of_forall (by simp)
  have hrounds : Chronological rounds := by decide
  let policy : CollectPolicy := ⟨⟨2, backoff, by decide⟩, .ofMillis 100, fun _ _ _ => 0.0⟩
  let c : Collector := ⟨.create policy providers, .ofSeconds 1, true, none, 0⟩
  have hnew : create providers (.ofSeconds 1) (.ofMillis 100) 2 backoff (fun _ _ _ => 0.0) true =
      .ok c :=
    create_eq _ _ _ (by decide +kernel) (by decide) (by decide) (by decide)
  obtain ⟨hlinked, -, hlane⟩ := FanOut.run_create (p := policy) hprovider rounds
  refine ⟨c, hnew, hclock, hdrawn, hprovider, hfresh, hcalm, hrounds, ?_, ?_,
    create_accounts hnew hclock hdrawn hprovider hfresh hcalm hrounds⟩
  · rw [hlane]
    decide +kernel
  · unfold FanOut.settle
    rw [FanOut.lane_land hlinked, hlane]
    decide +kernel

end Collector

end Telemetry
