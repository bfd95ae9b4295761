import Telemetry.Proofs.Store.View
import Telemetry.Service.Retention

/-! # What a pruning does

A pruning deletes what is older than the window, or it fails and deletes nothing.  It fails for two
reasons: there is no instant that lies the window before now, or the store fails.

The cutoff is read off the clock at the moment of the pruning, and what lies just on it is kept.
Apart from the store and the count of its deletions a pruning changes nothing of the world.
-/

namespace Telemetry

namespace World

variable {w : World} {r : Retention}

/-- A pruning fails, or it deletes what lies before its cutoff and answers with the counts of what
it has deleted. -/
theorem prune_cases (w : World) (r : Retention) :
    (∃ n e, w.prune r = ({ w with deletes := n }, .error e)) ∨
      ∃ cutoff, w.clock.sub? r.window = some cutoff ∧
        w.prune r = ({ w with store := w.store.deleteOlder cutoff, deletes := w.deletes + 1 },
          .ok (w.store.olderCounts cutoff)) := by
  unfold prune
  cases hcutoff : w.clock.sub? r.window with
  | none => exact .inl ⟨w.deletes, _, rfl⟩
  | some cutoff =>
    unfold deleteOlder
    cases hfault : w.faults.delete with
    | some e =>
      simp only [hfault]
      exact .inl ⟨w.deletes + 1, e, rfl⟩
    | none =>
      simp only [hfault]
      exact .inr ⟨cutoff, rfl, rfl⟩

/-- Pruning changes the store and counts its deletions, and nothing else. -/
theorem prune_frame (w : World) (r : Retention) :
    (w.prune r).1 =
      { w with store := (w.prune r).1.store, deletes := (w.prune r).1.deletes } := by
  rcases w.prune_cases r with ⟨n, e, h⟩ | ⟨cutoff, -, h⟩ <;> rw [h]

/-- **After a pruning that succeeds nothing is held that is older than the window**, of whichever
sensor. -/
theorem holds_prune {counts : SortedMap SensorId Nat} (h : (w.prune r).2 = .ok counts) :
    ∃ cutoff, w.clock.sub? r.window = some cutoff ∧
      ∀ sensor x, (w.prune r).1.store.Holds sensor x → cutoff ≤ x.timestamp := by
  rcases w.prune_cases r with ⟨n, e, hfails⟩ | ⟨cutoff, hcutoff, hdeletes⟩
  · rw [hfails] at h
    cases h
  · rw [hdeletes]
    exact ⟨cutoff, hcutoff, fun sensor x hholds => (Store.holds_deleteOlder.mp hholds).2⟩

end World

end Telemetry
