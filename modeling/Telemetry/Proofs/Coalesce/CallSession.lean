import Telemetry.Proofs.Chronology
import Telemetry.Proofs.Coalesce.CallGroup

/-! # Runs of a call group and its callers

As with a cache, what is seen at a moment is the session after the events up to then, settled
(`observed`); it is consistent at every moment of every run (`observed_consistent`), and one more
event is one more `apply` (`observed_concat`).

Every event is answered at its own place in the list of answers, and later events leave that answer
alone, except that a caller who waits may be dropped or served.  What has become of it is a function
of the moments at which it is dropped (`Flight.verdict`): it has no answer if one of them comes
before the end of its flight, and otherwise has the outcome from that end on.  `answer_append`
carries a guess of this kind through a run, and `answer_fixed` and `answer_of_waiting` are the two
guesses that are needed.
-/

namespace Telemetry

variable {κ α : Type}

/-- The moments at which the caller of an event is dropped, by the place of that event in the
run. -/
def dropsOf (i : Nat) (events : List (Nat × GroupEvent κ α)) : List Nat :=
  events.filterMap fun e => match e.2 with
    | .drop j => if j = i then some e.1 else none
    | _ => none

theorem dropsOf_append (i : Nat) (pre post : List (Nat × GroupEvent κ α)) :
    dropsOf i (pre ++ post) = dropsOf i pre ++ dropsOf i post := List.filterMap_append

/-- What an event does to the caller of an earlier one: nothing, unless it drops it. -/
def Caller.heed (i : Nat) (e : GroupEvent κ α) (c : Caller α) : Caller α :=
  match e with
  | .drop j => if j = i then c.drop else c
  | _ => c

/-- What has become by a moment of a caller of a flight who is dropped at some
moments: who is dropped before the flight ends has no answer, and everybody else has
the outcome from the moment at which it ends. -/
def Flight.verdict (f : Flight α) (joined : Bool) (drops : List Nat) (now : Nat) : Caller α :=
  if drops.any fun t => (f.endedBy t).isNone then .dropped
  else match f.endedBy now with
    | some e => .done e f.outcome joined
    | none => .waiting f joined

namespace Flight

variable {t now : Nat}

theorem verdict_settle (f : Flight α) (joined : Bool) (drops : List Nat) (hle : t ≤ now) :
    (f.verdict joined drops t).settle now = f.verdict joined drops now := by
  unfold verdict
  split
  · rfl
  · cases ht : f.endedBy t with
    | none => rfl
    | some u =>
      rw [endedBy_mono ht hle]
      rfl

/-- A caller is dropped: only if it still waits, it makes a difference.  Whoever has the outcome
keeps it, and whoever was dropped before stays so. -/
theorem verdict_drop (f : Flight α) (joined : Bool) (drops : List Nat) (hle : t ≤ now) :
    f.verdict joined (drops ++ [t]) now = (f.verdict joined drops t).drop.settle now := by
  unfold verdict
  rw [List.any_append]
  by_cases hgone : drops.any fun t => (f.endedBy t).isNone
  · rw [hgone]
    rfl
  · rw [Bool.not_eq_true] at hgone
    rw [hgone]
    cases ht : f.endedBy t with
    | none => simp [ht, Caller.drop, Caller.settle]
    | some u => simp [ht, endedBy_mono ht hle, Caller.drop, Caller.settle]

/-- One more event, as a caller of an earlier one sees it.  Of all events only a drop concerns it,
and only its own. -/
theorem verdict_concat (f : Flight α) (joined : Bool) (i : Nat)
    (post : List (Nat × GroupEvent κ α)) (e : GroupEvent κ α) (hle : t ≤ now) :
    f.verdict joined (dropsOf i (post ++ [(t, e)])) now =
      ((f.verdict joined (dropsOf i post) t).heed i e).settle now := by
  rw [dropsOf_append]
  cases e with
  | run | isInFlight | count =>
    show f.verdict joined (dropsOf i post ++ []) now = _
    rw [List.append_nil]
    exact (f.verdict_settle joined _ hle).symm
  | drop j =>
    by_cases hj : j = i
    · have hone : dropsOf i [(t, (.drop j : GroupEvent κ α))] = [t] := by simp [dropsOf, hj]
      rw [hone, verdict_drop f joined _ hle]
      exact congrArg (Caller.settle now) (if_pos hj).symm
    · have hnone : dropsOf i [(t, (.drop j : GroupEvent κ α))] = [] := by simp [dropsOf, hj]
      rw [hnone, List.append_nil, ← f.verdict_settle joined _ hle]
      exact congrArg (Caller.settle now) (if_neg hj).symm

end Flight

namespace CallSession

variable [Ord κ] [Std.TransOrd κ] [Std.LawfulEqOrd κ]

/-- The session at a moment, after the events up to then and all that is due.  Whoever asks, counts
or waits is told what this session holds. -/
def observed (events : List (Nat × GroupEvent κ α)) (now : Nat) : CallSession κ α :=
  (empty.run events).settle now

/-- The calls that the events of a run have started, in order.  The record is never shortened, so
that a call that is over is still in it. -/
def worksOf (events : List (Nat × GroupEvent κ α)) : List (Work κ α) :=
  (empty.run events).works

variable {pre post events : List (Nat × GroupEvent κ α)} {now t : Nat} {e : GroupEvent κ α}

theorem run_concat (s : CallSession κ α) (pre : List (Nat × GroupEvent κ α)) (t : Nat)
    (e : GroupEvent κ α) :
    s.run (pre ++ [(t, e)]) = (((s.run pre).settle t).apply t e).settle t := by
  unfold run
  rw [List.foldl_append]
  rfl

theorem works_observed (events : List (Nat × GroupEvent κ α)) (now : Nat) :
    (observed events now).works = worksOf events := rfl

theorem settled_observed (events : List (Nat × GroupEvent κ α)) (now : Nat) :
    (observed events now).Settled now := settled_settle _ now

/-- **At every moment of every run the session is consistent.**  All that is said of runs later
rests on this, and on nothing else about the operations. -/
theorem observed_consistent (h : HappenedBy now events) :
    (observed events now).Consistent now := by
  refine HappenedBy.induction ?_ ?_ h
  · intro now
    exact (consistent_empty now).settle (Nat.le_refl now)
  · intro now pre t e _ hle hc
    unfold observed
    rw [run_concat]
    exact ((hc.apply e).settle (Nat.le_refl t)).settle hle

/-- One more event is one more `apply`.  What is due up to its moment has been settled before it. -/
theorem observed_concat (h : HappenedBy t pre) (hle : t ≤ now) (e : GroupEvent κ α) :
    observed (pre ++ [(t, e)]) now = ((observed pre t).apply t e).settle now := by
  unfold observed
  rw [run_concat]
  exact ((observed_consistent h).apply e).settle_settle (Nat.le_refl t) hle

theorem worksOf_concat (pre : List (Nat × GroupEvent κ α)) (t : Nat) (e : GroupEvent κ α) :
    worksOf (pre ++ [(t, e)]) = ((observed pre t).apply t e).works := by
  unfold worksOf
  rw [run_concat]
  rfl

/-- What is asked, counted or dropped starts no call, and a drop stops none. -/
theorem worksOf_others (he : ∀ k work, e ≠ .run k work) :
    worksOf (pre ++ [(t, e)]) = worksOf pre := by
  rw [worksOf_concat]
  cases e with
  | run k work => exact absurd rfl (he k work)
  | isInFlight | count | drop => rfl

/-! ## Answers -/

/-- An event is answered at its own place, and may change the answer to an earlier one.  Only a drop
does the latter, and only to a caller who still waits. -/
theorem apply_answers (s : CallSession κ α) (now : Nat) (e : GroupEvent κ α) :
    ∃ a, (s.apply now e).answers =
      (match e with
        | .drop i => s.answers.modify i (GroupAnswer.mapCaller Caller.drop)
        | _ => s.answers) ++ [a] := by
  cases e with
  | run k work =>
    show ∃ a, (s.call now k work).answers = s.answers ++ [a]
    unfold call
    split <;> exact ⟨_, rfl⟩
  | isInFlight | count | drop => exact ⟨_, rfl⟩

theorem length_apply (s : CallSession κ α) (now : Nat) (e : GroupEvent κ α) :
    (s.apply now e).answers.length = s.answers.length + 1 := by
  obtain ⟨a, ha⟩ := apply_answers s now e
  rw [ha]
  cases e <;> simp

theorem getElem?_apply (s : CallSession κ α) (now : Nat) (e : GroupEvent κ α) {i : Nat}
    (hi : i < s.answers.length) :
    (s.apply now e).answers[i]? =
      s.answers[i]?.map (GroupAnswer.mapCaller (Caller.heed i e)) := by
  -- an event that is not the drop of this caller leaves its answer alone
  have hid (e : GroupEvent κ α) (he : ∀ c : Caller α, c.heed i e = c) :
      s.answers[i]? = s.answers[i]?.map (GroupAnswer.mapCaller (Caller.heed i e)) := by
    cases s.answers[i]? with
    | none => rfl
    | some a => cases a <;> simp [GroupAnswer.mapCaller, he]
  obtain ⟨a, ha⟩ := apply_answers s now e
  rw [ha]
  cases e with
  | run | isInFlight | count =>
    rw [List.getElem?_append_left hi]
    exact hid _ fun _ => rfl
  | drop j =>
    rw [List.getElem?_append_left (by rwa [List.length_modify])]
    by_cases hj : j = i
    · subst hj
      rw [List.getElem?_modify_eq]
      have hheed : Caller.heed j (.drop j : GroupEvent κ α) = (Caller.drop : Caller α → _) :=
        funext fun _ => if_pos rfl
      rw [hheed]
      rfl
    · rw [List.getElem?_modify_ne _ _ hj]
      exact hid _ fun _ => if_neg hj

theorem length_answers (events : List (Nat × GroupEvent κ α)) (now : Nat) :
    (observed events now).answers.length = events.length := by
  have hsettle (s : CallSession κ α) (t : Nat) : (s.settle t).answers.length = s.answers.length :=
    List.length_map _
  unfold observed
  rw [hsettle]
  induction events using List.reverseRecOn with
  | nil => rfl
  | append_singleton pre e ih =>
    rw [run_concat, hsettle, length_apply, hsettle, ih, List.length_append]
    rfl

/-- One more event, as it is seen in the answer to an earlier one: the caller heeds it, and is then
served if its flight is over. -/
theorem answer_concat (h : HappenedBy t pre) (hle : t ≤ now) (e : GroupEvent κ α) {i : Nat}
    (hi : i < pre.length) :
    (observed (pre ++ [(t, e)]) now).answers[i]? =
      (observed pre t).answers[i]?.map
        (GroupAnswer.mapCaller fun c => (c.heed i e).settle now) := by
  rw [← length_answers pre t] at hi
  rw [observed_concat h hle]
  show (List.map _ _)[i]? = _
  rw [List.getElem?_map, getElem?_apply _ _ _ hi, Option.map_map]
  cases (observed pre t).answers[i]? with
  | none => rfl
  | some a => cases a <;> rfl

/-- The answer to a new event.  It stands at the end of the list when the event has happened, and
its place is the number of events before it. -/
theorem answer_new (h : HappenedBy t pre) (hle : t ≤ now) {a : GroupAnswer α}
    (ha : ((observed pre t).apply t e).answers.getLast? = some a) :
    (observed (pre ++ [(t, e)]) now).answers[pre.length]? =
      some (a.mapCaller (Caller.settle now)) := by
  have hlength : ((observed pre t).apply t e).answers.length - 1 = pre.length := by
    rw [length_apply, length_answers, Nat.add_sub_cancel]
  rw [List.getLast?_eq_getElem?, hlength] at ha
  rw [observed_concat h hle]
  show (List.map _ _)[_]? = _
  rw [List.getElem?_map, ha]
  rfl

/-- What becomes of the answer to an event: whatever it is at first and becomes with each later
event, it is at the end.  The function `fate` is a guess of what the answer has become after some
later events, and the hypotheses check it for none and for one more. -/
theorem answer_append (fate : List (Nat × GroupEvent κ α) → Nat → GroupAnswer α)
    (h : HappenedBy now (pre ++ (t, e) :: post))
    (start : ∀ u, t ≤ u →
      (observed (pre ++ [(t, e)]) u).answers[pre.length]? = some (fate [] u))
    (event : ∀ mid t e u, t ≤ u → fate (mid ++ [(t, e)]) u =
      (fate mid t).mapCaller fun c => (c.heed pre.length e).settle u) :
    (observed (pre ++ (t, e) :: post) now).answers[pre.length]? = some (fate post now) := by
  rw [List.append_cons] at h ⊢
  -- by the later events, the last one first
  induction post using List.reverseRecOn generalizing now with
  | nil =>
    rw [List.append_nil] at h ⊢
    exact start now (HappenedBy.concat_iff.mp h).2
  | append_singleton mid last ih =>
    rw [← List.append_assoc] at h ⊢
    obtain ⟨hpre, hle⟩ := HappenedBy.concat_iff.mp h
    have hi : pre.length < (pre ++ [(t, e)] ++ mid).length := by
      simp only [List.length_append, List.length_singleton]
      omega
    rw [answer_concat hpre hle last.2 hi, ih hpre, event mid last.1 last.2 now hle]
    rfl

/-- The answer to an event that is not about a caller stays, since there is nothing in it to be
dropped or served. -/
theorem answer_fixed {a : GroupAnswer α} (h : HappenedBy now (pre ++ (t, e) :: post))
    (ha : ((observed pre t).apply t e).answers.getLast? = some a)
    (hfixed : ∀ f, a.mapCaller f = a) :
    (observed (pre ++ (t, e) :: post) now).answers[pre.length]? = some a := by
  refine answer_append (fun _ _ => a) h ?_ fun _ _ _ _ _ => (hfixed _).symm
  intro u hle
  rw [answer_new h.before.1 hle ha, hfixed]

/-- A caller that waits for a flight gets the outcome that becomes of it.  It is the same for
whoever has started the flight and for whoever has joined it, but for the mark that tells them
apart. -/
theorem answer_of_waiting {k : κ} {work : Call α} {f : Flight α} {joined : Bool}
    (h : HappenedBy now (pre ++ (t, .run k work) :: post))
    (ha : ((observed pre t).apply t (.run k work)).answers =
      (observed pre t).answers ++ [.caller (.waiting f joined)]) :
    (observed (pre ++ (t, .run k work) :: post) now).answers[pre.length]? =
      some (.caller (f.verdict joined (dropsOf pre.length post) now)) := by
  refine answer_append
    (fun post now => .caller (f.verdict joined (dropsOf pre.length post) now)) h ?_ ?_
  · intro u hle
    exact answer_new h.before.1 hle (by rw [ha, List.getLast?_concat])
  · intro mid u e now hle
    exact congrArg GroupAnswer.caller (f.verdict_concat joined pre.length mid e hle)

end CallSession

end Telemetry
