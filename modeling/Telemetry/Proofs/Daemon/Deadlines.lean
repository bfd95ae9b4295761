import Telemetry.Proofs.Daemon.Loops

/-! # When requests are answered

The turn of a request at its limit answers it, whatever it works at, and time does not pass over the
limit before that turn.  So a request that waits is in time (`Daemon.InTime`).

The first half is about turns: a task that is a request after its turn was the same request before,
with the same limit, and its limit is yet to come (`eq_request_of_advanceTask`).  The second half is
about time, which waits for whoever can go on; somebody who is at rest is therefore no request at
its limit.
-/

namespace Telemetry

namespace Daemon

variable {d : Daemon} {number limit limit' : Nat} {request request' : Http.Request}
  {work : Api.Work} {e : DaemonEvent} {events : List DaemonEvent} {t : Task}

/-! ## A turn of a request -/

/-- A request waits on before its limit, with what its work has come to; at the limit it is
answered. -/
theorem eq_request_of_afterWork {progress : Progress Api.Work Http.Response}
    (h : d.afterWork request limit progress = .request request' limit' work) :
    request' = request ∧ limit' = limit ∧ d.world.now < limit ∧ progress = .pending work := by
  rcases progress with work' | (r | failed | message)
  · unfold afterWork at h
    dsimp only at h
    split at h
    · cases h
    next hearly =>
      cases h
      exact ⟨rfl, rfl, Nat.not_le.mp hearly, rfl⟩
  all_goals cases h

theorem loopTask_ne_request {σ : Type} {running : σ → Task}
    (h : ∀ state, running state ≠ .request request limit work) (progress : LoopProgress σ) :
    loopTask running progress ≠ .request request limit work := by
  cases progress with
  | running state => exact h state
  | stopped | died => exact fun heq => by cases heq

theorem afterCycle_ne_request (cancelled : Bool) (purpose : Purpose)
    (progress : Progress Survey CycleYield) :
    afterCycle cancelled purpose progress ≠ .request request limit work := by
  rcases progress with stage | (y | failed | message) <;> exact fun heq => by cases heq

/-- A task that is a request after its turn was the same request before, and is in time.  Its work
may have gone on. -/
theorem eq_request_of_advanceTask (h : (d.advanceTask t).2 = .request request limit work) :
    d.world.now < limit ∧ ∃ work', t = .request request limit work' := by
  cases t with
  | request request' limit' work' =>
    obtain ⟨rfl, rfl, hearly, -⟩ := eq_request_of_afterWork h
    exact ⟨hearly, work', rfl⟩
  | cycle cancelled purpose stage => exact absurd h (afterCycle_ne_request cancelled purpose _)
  | poller p => exact absurd h (loopTask_ne_request (fun _ heq => by cases heq) _)
  | pruner p => exact absurd h (loopTask_ne_request (fun _ heq => by cases heq) _)
  | ended last => cases h

theorem eq_request_of_taskAfter (h : d.taskAfter number t e = .request request limit work) :
    ∃ work', t = .request request limit work' := by
  rcases d.taskAfter_cases number t e with ⟨-, hafter⟩ | ⟨-, hafter⟩ | ⟨-, hafter⟩ | ⟨-, hafter⟩ <;>
    rw [hafter] at h
  · exact ⟨work, h⟩
  · cases t with
    | request => exact ⟨work, h⟩
    | _ => cases h
  · cases t <;> cases h
  · exact (eq_request_of_advanceTask h).2

/-- The limit of a request that arrives, counted from its arrival. -/
theorem limit_of_taskOf? (h : d.taskOf? e = some (.request request limit work)) :
    limit = d.world.now + d.requestTimeout.limitMillis := by
  cases e with
  | request r =>
    have h : d.requestTask r = .request request limit work := Option.some.inj h
    unfold requestTask at h
    cases hreceived : Api.receive 0 r with
    | answered r =>
      rw [hreceived] at h
      cases h
    | working work =>
      rw [hreceived] at h
      cases h
      rfl
  | startPolling interval =>
    exact absurd (Option.some.inj h) (loopTask_ne_request (fun _ heq => by cases heq) _)
  | startPruning =>
    exact absurd (Option.some.inj h) (loopTask_ne_request (fun _ heq => by cases heq) _)
  | _ => cases h

/-! ## Requests in time -/

/-- Nobody who is at rest is a request at its limit, since its turn would answer it. -/
theorem AtRest.now_lt_limit (h : d.AtRest)
    (ht : d.tasks[number]? = some (.request request limit work)) : d.world.now < limit :=
  (eq_request_of_advanceTask (congrArg Prod.snd (h.advanceTask_eq ht))).1

/-- No request waits beyond its limit; at the limit it may wait for its turn. -/
def InTime (d : Daemon) : Prop :=
  ∀ request limit work, .request request limit work ∈ d.tasks → d.world.now ≤ limit

theorem InTime.apply (h : d.InTime) (hwaits : d.Waits e) : (d.apply e).InTime := by
  intro request limit work hmem
  rcases mem_tasks_apply hmem with ⟨number, before, hbefore, hafter⟩ | hnew
  · -- it was there before the event, and nobody at rest is at its limit
    obtain ⟨work', rfl⟩ := eq_request_of_taskAfter hafter.symm
    refine hwaits.now_le (h _ _ _ (List.mem_of_getElem? hbefore)) fun moment hrest hle => ?_
    rw [← now_passTo hle]
    exact hrest.now_lt_limit hbefore
  · -- it arrives, which takes no time
    have hnow : (d.apply e).world.now = d.world.now :=
      now_apply fun later heq => by
        subst heq
        cases hnew
    rw [hnow, limit_of_taskOf? hnew]
    exact Nat.le_add_right _ _

/-- **In every run** in which time waits.  Only an event in which time passes has something to
show. -/
theorem inTime_run (h : d.InTime) (hprompt : d.Prompt events) : (d.run events).InTime := by
  induction events using List.reverseRecOn with
  | nil => exact h
  | append_singleton events e ih =>
    obtain ⟨hbefore, hwaits, -⟩ := (prompt_append d events [e]).mp hprompt
    rw [run_concat]
    exact (ih hbefore).apply hwaits

end Daemon

end Telemetry
