import Telemetry.Collector.Collection
import Telemetry.Proofs.Collector.Provider
import Telemetry.Proofs.Retry.Characterisation

/-! # What a collection comes to

Whatever a provider does, a collection from it keeps within its limit, makes no more attempts than
it may, and tells the sink of its own source only (`Kept`).  If the provider does not panic and the
waits can be drawn, the sink learns exactly what the collection came to (`Accounted`): every reading
of the one snapshot it ended with, each under the labels of its sensor (`SinkCall.ofReading`), or
one failure.

A collection is a run of attempts under the limits of its policy, so that both facts come from the
theory of such runs: `Retried` says that the attempts follow one another and how the last of them
ends the run, and the collection adds what it makes of that end.  A timeout that the clock cannot
represent is the one case in which no attempt is made at all (`attempts_cases`).
-/

namespace Telemetry

/-- The readings of a snapshot in order, each with its hardware, from which three of the labels of
its report are taken. -/
def Snapshot.hardwareReadings (s : Snapshot) : List (Hardware × SensorReading) :=
  s.hardware.flatMap fun h => h.sensors.map fun r => (h.hardware, r)

/-- The report of a reading: its value, under labels that name the source, the piece of hardware and
the sensor, each of the latter two by its identifier, its name and its type.  The seven labels are
written out, and do not depend on how the program puts them together. -/
def SinkCall.ofReading (source : String) (r : Hardware × SensorReading) : SinkCall :=
  .report
    { labels :=
        { source := source
          hardwareId := r.1.id.text
          hardwareName := r.1.name
          hardwareType := r.1.kind.name
          sensorId := r.2.sensor.id.text
          sensorName := r.2.sensor.name
          sensorType := r.2.sensor.kind.name }
      value := r.2.value.value }

theorem Snapshot.seriesValues_eq (s : Snapshot) (source : String) :
    (s.seriesValues source).map SinkCall.report =
      s.hardwareReadings.map (SinkCall.ofReading source) := by
  unfold seriesValues hardwareReadings
  simp only [List.map_flatMap, List.map_map]
  rfl

namespace Collection

/-- What a collection keeps to, whatever its provider does: the budget of attempts, its limit, and
that all it says is about its own source. -/
structure Kept (p : CollectPolicy) (c : Collection) : Prop where
  own : ∀ k ∈ c.sinkCalls, k.source = c.source
  budget : c.attempts.length ≤ p.retry.maxAttempts
  forward : c.started ≤ c.ends
  limited : c.ends ≤ c.started + p.timeout.ceilMillis
  within : ∀ a ∈ c.attempts, c.started ≤ a.started ∧ a.started ≤ c.ends

/-- What bounds the attempts of a collection: its timeout counts from its start, it has no token,
and its waits are those that the jitter leads to at that moment. -/
def limits (p : CollectPolicy) (c : Collection) : RetryLimits :=
  p.retry.limits p.timeout none (p.jitter c.source c.started) c.started

/-- What becomes of the last attempt of a collection.  Both cases give the attempt that the
collection ended with, and how its end was reached. -/
inductive Accounted (p : CollectPolicy) (c : Collection) : Prop
  /-- It brings a snapshot: the sink is told of its readings, one by one, and nothing
  else, and the collection comes to their number. -/
  | reported {a : Attempt Snapshot} {snapshot : Snapshot} :
      c.attempts.getLast? = some a →
      (c.limits p).Concludes p.retry.maxAttempts a (.value snapshot) c.ends →
      c.sinkCalls = snapshot.hardwareReadings.map (SinkCall.ofReading c.source) →
      c.outcome = .ok snapshot.hardwareReadings.length → Accounted p c
  /-- It fails: the sink is told of one failure, and nothing else, and the collection
  comes to that error. -/
  | failed {a : Attempt Snapshot} {e : Error} :
      c.attempts.getLast? = some a →
      (c.limits p).Concludes p.retry.maxAttempts a (.failure e) c.ends →
      c.sinkCalls = [.failure c.source] → c.outcome = .error e → Accounted p c

variable {source : String} {started : Nat} {relayedFrom : Option Nat}
  {run : RetryRun Provider Snapshot}

@[simp] theorem source_ofRun : (ofRun source started relayedFrom run).source = source := by
  unfold ofRun
  cases run.ending <;> rfl

@[simp] theorem started_ofRun : (ofRun source started relayedFrom run).started = started := by
  unfold ofRun
  cases run.ending <;> rfl

@[simp] theorem ends_ofRun : (ofRun source started relayedFrom run).ends = run.ended := by
  unfold ofRun
  cases run.ending <;> rfl

@[simp] theorem attempts_ofRun :
    (ofRun source started relayedFrom run).attempts = run.attempts := by
  unfold ofRun
  cases run.ending <;> rfl

/-- A snapshot is reported reading by reading, in its own order, and the outcome counts the
readings. -/
theorem ofRun_of_value {snapshot : Snapshot} (h : run.ending = .value snapshot) :
    (ofRun source started relayedFrom run).sinkCalls =
        snapshot.hardwareReadings.map (SinkCall.ofReading source) ∧
      (ofRun source started relayedFrom run).outcome =
        .ok snapshot.hardwareReadings.length := by
  have hcalls : (ofRun source started relayedFrom run).sinkCalls =
      (snapshot.seriesValues source).map SinkCall.report := by
    unfold ofRun
    rw [h]
  have houtcome : (ofRun source started relayedFrom run).outcome =
      .ok ((snapshot.seriesValues source).map SinkCall.report).length := by
    unfold ofRun
    rw [h, List.length_map]
  rw [hcalls, houtcome, snapshot.seriesValues_eq, List.length_map]
  exact ⟨rfl, rfl⟩

theorem ofRun_of_failure {e : Error} (h : run.ending = .failure e) :
    (ofRun source started relayedFrom run).sinkCalls = [.failure source] ∧
      (ofRun source started relayedFrom run).outcome = .error e := by
  unfold ofRun
  rw [h]
  exact ⟨rfl, rfl⟩

/-- The sink is told of the collection's own source, however the run of attempts ends. -/
theorem own_ofRun : ∀ k ∈ (ofRun source started relayedFrom run).sinkCalls, k.source = source := by
  cases h : run.ending with
  | value snapshot =>
    rw [(ofRun_of_value h).1, List.forall_mem_map]
    exact fun _ _ => rfl
  | failure e =>
    rw [(ofRun_of_failure h).1]
    exact List.forall_mem_singleton.mpr rfl
  | panic message =>
    unfold ofRun
    rw [h]
    exact fun k hk => absurd hk List.not_mem_nil

end Collection

namespace CollectPolicy

variable (p : CollectPolicy) (source : String) (provider : Provider) (now : Nat)

/-- A timeout beyond the clock ends a run before it asks anything; any other run is a
chain of attempts. -/
theorem attempts_cases :
    (p.timeout.clockCanReach = false ∧
        p.attempts source provider now =
          ⟨[], [], .panic RetryPolicy.clockOverflow, now, provider⟩) ∨
      Retried ⟨now, p.timeout, none, p.retry.delays (p.jitter source now)⟩
        (fun (q : Provider) _ now => q.ask now) p.retry.maxAttempts 0 now provider
        (p.attempts source provider now) := by
  unfold attempts RetryPolicy.start
  cases hclock : p.timeout.clockCanReach with
  | false => exact .inl ⟨rfl, rfl⟩
  | true =>
    have hpos := p.retry.maxAttempts_pos
    have hrun := retried_run ⟨now, p.timeout, none, p.retry.delays (p.jitter source now)⟩
      (fun (q : Provider) _ now => q.ask now) (p.retry.maxAttempts - 1) 0 now provider
    rw [show 0 + (p.retry.maxAttempts - 1) + 1 = p.retry.maxAttempts by omega] at hrun
    exact .inr hrun

@[simp] theorem source_collect : (p.collect source provider now).2.source = source :=
  Collection.source_ofRun

@[simp] theorem started_collect : (p.collect source provider now).2.started = now :=
  Collection.started_ofRun

@[simp] theorem ends_collect :
    (p.collect source provider now).2.ends = (p.attempts source provider now).ended :=
  Collection.ends_ofRun

@[simp] theorem attempts_collect :
    (p.collect source provider now).2.attempts = (p.attempts source provider now).attempts :=
  Collection.attempts_ofRun

/-- The attempts of a collection are what its provider is asked for, at the moments at which they
start, and nothing else is asked of it. -/
theorem askedAt_collect :
    Provider.AskedAt ((p.collect source provider now).2.attempts.map Attempt.started) provider
      (p.collect source provider now).1 := by
  rw [attempts_collect]
  show Provider.AskedAt _ provider (p.attempts source provider now).state
  rcases p.attempts_cases source provider now with ⟨-, hrun⟩ | hrun
  · rw [hrun]
    exact .refl provider
  · exact Provider.askedAt_of_asked hrun.asked

variable {provider now}

/-- **A collection keeps within its bounds**, whatever its provider does, and the provider can be
asked again from its end on.  The second half is what the next collection of the source needs. -/
theorem kept_collect (hready : provider.Ready now) :
    (p.collect source provider now).2.Kept p ∧
      ∀ later, (p.collect source provider now).2.ends ≤ later →
        (p.collect source provider now).1.Ready later := by
  have hown : ∀ k ∈ (p.collect source provider now).2.sinkCalls,
      k.source = (p.collect source provider now).2.source := by
    rw [source_collect]
    exact Collection.own_ofRun
  rcases p.attempts_cases source provider now with ⟨-, hrun⟩ | hrun
  · -- the run has ended where it started, and the provider has not been asked
    refine ⟨⟨hown, ?_, ?_, ?_, ?_⟩, fun later hle => ?_⟩
    · rw [attempts_collect, hrun]
      exact Nat.zero_le _
    · rw [started_collect, ends_collect, hrun]
    · rw [started_collect, ends_collect, hrun]
      exact Nat.le_add_right now _
    · rw [attempts_collect, hrun]
      exact fun a ha => absurd ha List.not_mem_nil
    · rw [ends_collect, hrun] at hle
      show (p.attempts source provider now).state.Ready later
      rw [hrun]
      exact hready.mono hle
  · obtain ⟨hwithin, hforward, hagain⟩ := hrun.orderly Provider.orderly hready
      ⟨Nat.le_add_right now _, fun c hc => by cases hc⟩
    have hbudget := hrun.budget
    rw [Nat.zero_add] at hbudget
    refine ⟨⟨hown, ?_, ?_, ?_, ?_⟩, fun later hle => hagain later ?_⟩
    · rw [attempts_collect]
      exact hbudget
    · rw [started_collect, ends_collect]
      exact hforward
    · rw [started_collect, ends_collect]
      exact hrun.bounded
    · rw [attempts_collect, started_collect, ends_collect]
      exact hwithin
    · rw [← ends_collect]
      exact hle

/-- **A collection accounts for what it came to**, once to the sink and once to those who wait for
it.  In the chain of attempts each but the last has failed in a way that another attempt may
mend. -/
theorem accounted_collect (hclock : p.timeout.clockCanReach = true)
    (hdrawn : ∀ n, n + 1 < p.retry.maxAttempts → p.retry.backoff.drawable n = true)
    (hcalm : provider.Calm) :
    let c := (p.collect source provider now).2
    c.attempts.IsChain (c.limits p).Follows ∧ c.Accounted p := by
  have hlimits : (p.collect source provider now).2.limits p =
      p.retry.limits p.timeout none (p.jitter source now) now := by
    unfold Collection.limits
    rw [source_collect, started_collect]
  intro c
  rcases p.attempts_cases source provider now with ⟨hnot, -⟩ | hrun
  · rw [hclock] at hnot
    cases hnot
  refine ⟨?_, ?_⟩
  · rw [hlimits]
    show (p.collect source provider now).2.attempts.IsChain _
    rw [attempts_collect]
    exact hrun.follows.imp fun _ _ => RetryPolicy.follows_limits
  obtain ⟨a, hlast, hend⟩ := hrun.concludes
  have hlast' : c.attempts.getLast? = some a := by
    rw [show c.attempts = _ from attempts_collect p source provider now]
    exact hlast
  have hend' := RetryPolicy.concludes_limits hend hdrawn
  rw [← hlimits, ← ends_collect] at hend'
  cases hending : (p.attempts source provider now).ending with
  | value snapshot =>
    rw [hending] at hend'
    obtain ⟨hcalls, houtcome⟩ := Collection.ofRun_of_value hending
    exact .reported hlast' hend' (by rw [source_collect]; exact hcalls) houtcome
  | failure e =>
    rw [hending] at hend'
    obtain ⟨hcalls, houtcome⟩ := Collection.ofRun_of_failure hending
    exact .failed hlast' hend' (by rw [source_collect]; exact hcalls) houtcome
  | panic message =>
    -- neither an attempt nor a wait dies
    rw [hending] at hend
    cases hend with
    | panic _ _ hpanic =>
      exact absurd hpanic
        (hcalm.ending_ne_of_asked hrun.asked message a (List.mem_of_getLast? hlast))
    | undrawn _ _ _ _ hmore hwait =>
      have hnot := RetryPolicy.drawable_of_delays_eq_none hwait
      rw [hdrawn _ hmore] at hnot
      cases hnot

end CollectPolicy

end Telemetry
