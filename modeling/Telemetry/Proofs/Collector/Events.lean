import Telemetry.Collector.Loop
import Telemetry.Proofs.Collector.Lane

/-! # What happens to a collector

A run of a collector is a list of events with their moments: somebody makes a round, its loop is
started, or the token of its loop is cancelled.  Up to the moment of an event the loop makes the
rounds that are due, and collections end; so between two events only the passing of time is to be
looked at (`Collector.advance`).

What a loop waits for when it is cancelled is looked at source by source here (`pendingOf`), as
everything else about a collector is: the handles of a round are spread over all sources, and a
source keeps those of its own collections.
-/

namespace Telemetry

/-- What happens to a collector, apart from the passing of time, which brings the rounds of its loop
and the ends of collections. -/
inductive CollectorEvent where
  /-- Somebody makes a round. -/
  | dispatch
  /-- The loop is started, perhaps with a token that is cancelled already. -/
  | start (cancelled : Bool)
  /-- The token of the loop is cancelled. -/
  | cancel
deriving DecidableEq

namespace CollectLoop

/-- The collections of a source that a loop still waits for, in the order in which its rounds were
handed them. -/
def pendingOf (l : CollectLoop) (name : String) : List Collection :=
  (l.pending.filter fun e => e.call.source = name).map Entry.call

variable {name : String} {s : FanOut} {l : CollectLoop}

theorem mem_pendingOf {x : Collection} :
    x ∈ l.pendingOf name ↔ ∃ e ∈ l.pending, e.call.source = name ∧ e.call = x := by
  unfold pendingOf
  simp only [List.mem_map, List.mem_filter, decide_eq_true_eq, and_assoc]

/-- After a round a loop waits for what still runs and for what the round was handed.  What has
ended by the round is forgotten, so that the list does not grow with every round. -/
theorem pendingOf_round (h : s.Linked) (r : Nat × Option Nat) :
    (round (s, l) r).2.pendingOf name =
      (l.pendingOf name).filter (fun c => c.runsAt r.1 r.2) ++
        (((s.round r.1 r.2).2.find? name).map Entry.call).toList := by
  have hnamed : ∀ k e, (s.round r.1 r.2).2.find? k = some e → e.call.source = k := by
    intro k e he
    obtain ⟨e', -, hsource, hcall⟩ := FanOut.mem_lane.mp ((h.round r.1 r.2).handed k e he)
    rw [← hcall]
    exact hsource
  have hvalues := SortedMap.filter_values hnamed name
  show ((l.pending.filter _ ++ (s.round r.1 r.2).2.values).filter _).map _ = _
  unfold pendingOf
  rw [List.filter_append, hvalues, List.map_append, List.filter_comm, List.filter_map,
    Option.toList_map]
  rfl

end CollectLoop

namespace Collector

/-- An event takes place. -/
def apply (c : Collector) : CollectorEvent → Collector
  | .dispatch => c.dispatch.1
  | .start cancelled => c.start cancelled
  | .cancel => c.cancel

/-- An event, after all that happens up to its moment: the rounds that are due come before it. -/
def step (c : Collector) (e : Nat × CollectorEvent) : Collector := (c.advance e.1).apply e.2

/-- The events in order. -/
def run (c : Collector) (events : List (Nat × CollectorEvent)) : Collector := events.foldl step c

/-- A collector after some events, at a moment: what somebody sees who looks at it then. -/
def observed (c : Collector) (events : List (Nat × CollectorEvent)) (now : Nat) : Collector :=
  (c.run events).advance now

theorem advance_of_loop {c : Collector} {l : CollectLoop} (h : c.loop = some l) (target : Nat) :
    c.advance target =
      { c with
        fanOut := (l.advance c.interval c.fanOut target).1.settle target
        loop := some (l.advance c.interval c.fanOut target).2
        now := target } := by
  unfold advance
  rw [h]

theorem advance_of_none {c : Collector} (h : c.loop = none) (target : Nat) :
    c.advance target = { c with fanOut := c.fanOut.settle target, now := target } := by
  unfold advance
  rw [h]

@[simp] theorem now_advance (c : Collector) (target : Nat) : (c.advance target).now = target := by
  cases h : c.loop with
  | none => rw [advance_of_none h]
  | some l => rw [advance_of_loop h]

end Collector

end Telemetry
