import Telemetry.Proofs.Chronology
import Telemetry.Proofs.Store.View

/-! # A store is what its log says

The log of a store is the list of the operations made on it.  A sample is live when it was written
and nothing since has replaced it, deleted it or closed the store; this is said of the log alone
(`Live`).  What a store answers is what the live samples of its log say, after any operations in any
order.

The log and the store are tied together twice, and nothing else of the store is looked at: it holds
the live samples (`holds_replay`), and it knows the sensors that have been written to since it was
last closed (`knows_replay`).  Both are shown by induction on the log from its end, one operation
more at a time.  A sensor whose samples have all been deleted is still known, so the second does not
follow from the first.
-/

namespace Telemetry

/-- An operation on a store, be it one that changes it or one that only reads it. -/
inductive StoreOp where
  | write (sensor : SensorId) (x : Sample)
  | range (sensor : SensorId) (first last : Instant)
  | deleteOlder (cutoff : Instant)
  | close
  | sensorCount
  | sampleCount (sensor : SensorId)

/-- What an operation answers.  To write and to close answer nothing but that they are done. -/
inductive StoreAnswer where
  | done
  | samples (r : Result (List Sample))
  | removed (counts : SortedMap SensorId Nat)
  | number (n : Nat)

namespace Store

/-- An operation takes place: the store after it, and its answer. -/
def step (s : Store) : StoreOp → Store × StoreAnswer
  | .write sensor x => (s.write sensor x, .done)
  | .range sensor first last => (s, .samples (s.range sensor first last))
  | .deleteOlder cutoff => (s.deleteOlder cutoff, .removed (s.olderCounts cutoff))
  | .close => (empty, .done)
  | .sensorCount => (s, .number s.sensorCount)
  | .sampleCount sensor => (s, .number (s.sampleCount sensor))

/-- The store after the operations of a log, on a fresh one, whatever they answered. -/
def replay (log : List StoreOp) : Store := log.foldl (fun s op => (s.step op).1) empty

end Store

/-! ## What a log says -/

/-- Whether an operation ends the life of the samples of a sensor at an instant: another sample in
its place, a deletion beyond it, or the end of the store. -/
def StoreOp.Ends (sensor : SensorId) (t : Instant) : StoreOp → Prop
  | write sensor' x => sensor' = sensor ∧ x.timestamp = t
  | deleteOlder cutoff => t < cutoff
  | close => True
  | _ => False

/-- A sample is live: it was written, and nothing since has ended its life.  Of two that were
written for one instant only the later one is. -/
def Live (log : List StoreOp) (sensor : SensorId) (x : Sample) : Prop :=
  ∃ pre post, log = pre ++ .write sensor x :: post ∧ ∀ op ∈ post, ¬ op.Ends sensor x.timestamp

/-- A sensor has been written to since the store was last closed.  No deletion changes this. -/
def Written (log : List StoreOp) (sensor : SensorId) : Prop :=
  ∃ pre x post, log = pre ++ .write sensor x :: post ∧ .close ∉ post

/-- What follows an element up to the end of a list, when one more is added. -/
theorem exists_split_concat {ε : Type} {l : List ε} {a b : ε} {p : ε → Prop} :
    (∃ pre post, l ++ [b] = pre ++ a :: post ∧ ∀ c ∈ post, p c) ↔
      b = a ∨ (∃ pre post, l = pre ++ a :: post ∧ ∀ c ∈ post, p c) ∧ p b := by
  constructor
  · rintro ⟨pre, post, hsplit, hpost⟩
    rcases last_or_before hsplit with ⟨-, -, hlast⟩ | ⟨rest, rfl, rfl⟩
    · exact .inl hlast
    · rw [List.forall_mem_append] at hpost
      exact .inr ⟨⟨pre, rest, rfl, hpost.1⟩, hpost.2 _ (List.mem_singleton_self _)⟩
  · rintro (rfl | ⟨⟨pre, post, rfl, hpost⟩, hb⟩)
    · exact ⟨l, [], rfl, fun _ h => absurd h List.not_mem_nil⟩
    · refine ⟨pre, post ++ [b], by simp, ?_⟩
      rw [List.forall_mem_append, List.forall_mem_singleton]
      exact ⟨hpost, hb⟩

variable {log : List StoreOp} {op : StoreOp} {sensor : SensorId} {x : Sample}

theorem live_concat :
    Live (log ++ [op]) sensor x ↔
      op = .write sensor x ∨ Live log sensor x ∧ ¬ op.Ends sensor x.timestamp :=
  exists_split_concat

theorem written_concat :
    Written (log ++ [op]) sensor ↔
      (∃ x, op = .write sensor x) ∨ Written log sensor ∧ op ≠ .close := by
  have hswap (log : List StoreOp) : Written log sensor ↔
      ∃ x pre post, log = pre ++ .write sensor x :: post ∧ ∀ op ∈ post, op ≠ .close := by
    constructor
    · rintro ⟨pre, x, post, hlog, hpost⟩
      exact ⟨x, pre, post, hlog, fun op hop heq => hpost (heq ▸ hop)⟩
    · rintro ⟨x, pre, post, hlog, hpost⟩
      exact ⟨pre, x, post, hlog, fun hmem => hpost _ hmem rfl⟩
  rw [hswap, hswap]
  simp only [exists_split_concat, exists_or, exists_and_right]

namespace Store

theorem replay_concat (log : List StoreOp) (op : StoreOp) :
    replay (log ++ [op]) = ((replay log).step op).1 := by
  unfold replay
  rw [List.foldl_append]
  rfl

/-- **A store holds the live samples of its log**, and no others. -/
theorem holds_replay : (replay log).Holds sensor x ↔ Live log sensor x := by
  induction log using List.reverseRecOn with
  | nil => simp [replay, Holds, Live]
  | append_singleton log op ih =>
    rw [replay_concat, live_concat, ← ih]
    cases op with
    | write sensor' y =>
      unfold step Holds
      rw [valueAt?_write]
      -- a write in this very place ends the life of what was there, and any other leaves it
      by_cases hplace : sensor = sensor' ∧ x.timestamp = y.timestamp
      · obtain ⟨rfl, ht⟩ := hplace
        simp [StoreOp.Ends, ht, Sample.ext_iff, eq_comm]
      · rw [if_neg hplace]
        have hne : StoreOp.write sensor' y ≠ .write sensor x := by
          rintro ⟨rfl, rfl⟩
          exact hplace ⟨rfl, rfl⟩
        have hlives : ¬ (StoreOp.write sensor' y).Ends sensor x.timestamp :=
          fun h => hplace ⟨h.1.symm, h.2.symm⟩
        simp [hne, hlives]
    | deleteOlder cutoff =>
      simp only [step, holds_deleteOlder, StoreOp.Ends, Instant.not_lt, reduceCtorEq, false_or]
    | close => simp [step, Holds, StoreOp.Ends]
    | range | sensorCount | sampleCount => simp [step, StoreOp.Ends]

/-- A store knows the sensors written to since it was last closed, also those without a sample
left. -/
theorem knows_replay : (replay log).Knows sensor ↔ Written log sensor := by
  induction log using List.reverseRecOn with
  | nil => simp [replay, Written]
  | append_singleton log op ih =>
    rw [replay_concat, written_concat, ← ih]
    cases op with
    | write sensor' y =>
      simp only [step, knows_write, StoreOp.write.injEq, exists_and_left, exists_eq', and_true,
        ne_eq, reduceCtorEq, not_false_eq_true]
      rw [eq_comm]
    | deleteOlder cutoff => simp [step, knows_deleteOlder]
    | close => simp [step]
    | range | sensorCount | sampleCount => simp [step]

/-- What a store answers, in terms of its log: each of the operations that answer anything, after
the operations of the log. -/
structure RefinesLog (log : List StoreOp) : Prop where
  /-- A range that ends before it starts is refused, and nothing changes. -/
  inverted : ∀ sensor first last, last < first →
    (replay log).step (.range sensor first last) =
      (replay log, .samples (.error (.invalidRange first last)))
  /-- Over any other range the live samples of a sensor in it are listed, in the order of
  time, and nothing changes; of a sensor never written to there are none. -/
  range : ∀ sensor first last, ¬ last < first →
    ∃ l, (replay log).step (.range sensor first last) = (replay log, .samples (.ok l)) ∧
      Lists l (fun x => Live log sensor x ∧ first ≤ x.timestamp ∧ x.timestamp ≤ last) ∧
      (¬ Written log sensor → l = [])
  /-- A deletion tells of exactly the sensors written to since the store was last closed how
  many of their live samples lie before the cutoff.  It removes those samples and no
  others, and forgets no sensor. -/
  deletion : ∀ cutoff, ∃ counts,
    (replay log).step (.deleteOlder cutoff) =
      (replay (log ++ [.deleteOlder cutoff]), .removed counts) ∧
    (∀ sensor, sensor ∈ counts.keys ↔ Written log sensor) ∧
    (∀ sensor n, counts.find? sensor = some n → ∃ removed, n = removed.length ∧
      Lists removed fun x => Live log sensor x ∧ x.timestamp < cutoff) ∧
    (∀ sensor x, (replay (log ++ [.deleteOlder cutoff])).Holds sensor x ↔
      Live log sensor x ∧ cutoff ≤ x.timestamp) ∧
    ∀ sensor, (replay (log ++ [.deleteOlder cutoff])).Knows sensor ↔ Written log sensor
  /-- The samples of a sensor that are counted are its live ones. -/
  sampleCount : ∀ sensor, ∃ l, Lists l (Live log sensor) ∧
    (replay log).step (.sampleCount sensor) = (replay log, .number l.length)
  /-- The sensors that are counted are those written to since the store was last closed. -/
  sensorCount : ∃ sensors : List SensorId, sensors.Nodup ∧
    (∀ sensor, sensor ∈ sensors ↔ Written log sensor) ∧
    (replay log).step .sensorCount = (replay log, .number sensors.length)

/-- **A store refines its log**: after any operations, on a fresh store.  Every answer is derived
from what the store holds and knows (`holds_replay`, `knows_replay`), by what each operation reads
of it; that an operation which only reads leaves the store as it is belongs to the answer. -/
theorem replay_refinesLog (log : List StoreOp) : RefinesLog log := by
  constructor
  case inverted =>
    intro sensor first last h
    exact congrArg (fun r => (replay log, StoreAnswer.samples r)) (if_pos h)
  case range =>
    intro sensor first last h
    obtain ⟨l, hrange, hl⟩ := (replay log).lists_range sensor h
    refine ⟨l, congrArg (fun r => (replay log, StoreAnswer.samples r)) hrange,
      hl.congr fun x => by rw [holds_replay], fun hnever => ?_⟩
    refine List.eq_nil_iff_forall_not_mem.mpr fun x hx => hnever ?_
    exact knows_replay.mp ((hl.mem_iff x).mp hx).1.knows
  case deletion =>
    intro cutoff
    refine ⟨(replay log).olderCounts cutoff, ?_, fun sensor => ?_, fun sensor n hn => ?_,
      fun sensor x => ?_, fun sensor => ?_⟩
    · rw [replay_concat]
      rfl
    · rw [SortedMap.mem_keys, find?_olderCounts, Option.isSome_map]
      exact knows_replay
    · rw [find?_olderCounts] at hn
      obtain ⟨series, hseries, rfl⟩ := Option.map_eq_some_iff.mp hn
      refine ⟨_, rfl, (Series.lists_filter series _).congr fun x => ?_⟩
      rw [← holds_replay, decide_eq_true_eq]
      unfold Holds valueAt? seriesOf
      rw [hseries]
      rfl
    · rw [replay_concat]
      exact holds_deleteOlder.trans (and_congr_left' holds_replay)
    · rw [replay_concat]
      exact knows_deleteOlder.trans knows_replay
  case sampleCount =>
    intro sensor
    obtain ⟨l, hl, hcount⟩ := lists_sampleCount (replay log) sensor
    exact ⟨l, hl.congr fun x => holds_replay,
      congrArg (fun n => (replay log, StoreAnswer.number n)) hcount⟩
  case sensorCount =>
    obtain ⟨hnodup, hkeys, hcount⟩ := keys_sensorCount (replay log)
    exact ⟨_, hnodup, fun sensor => (hkeys sensor).trans knows_replay,
      congrArg (fun n => (replay log, StoreAnswer.number n)) hcount⟩

end Store

end Telemetry
