import Telemetry.Proofs.Coalesce.CachedSource
import Telemetry.Proofs.Daemon.Deadlines
import Telemetry.Proofs.Daemon.Persistence
import Telemetry.Proofs.Daemon.RequestTurns

/-! # What requests are answered with

A request is followed through a run (`Attends`) to the turn that answers it: until then it has
worked at the same page, and over the same range.  So what is known of its turns is known of its
answer, and no answer comes late.

An answer to a request for a history is put down to its range or to what has ended its survey
(`Receives.history_answer`), in the stage that the survey had come to when the answer was given.  A
stage alone does not tell how it came about; that is what the run tells (`Traces`): when the
inspector was called and how long it was to take, whom a shared listing was started by, and when its
limit was set.  Together they say of each answer which call, which limit or which token it is due
to.

The conditions of all this are those of a run in which nothing panics, the store has no faults and
time waits (`Receives`).
-/

namespace Telemetry

variable {d first : Daemon} {e : DaemonEvent} {events : List DaemonEvent} {number : Nat} {t : Task}

/-! ## The run of a request -/

/-- The range of the history that is worked at; the current values have none. -/
def Api.Work.range? : Api.Work → Option Delta
  | .stats _ => none
  | .history range _ => some range

namespace Daemon

/-- How a request stands: it works at its page, it has been answered, or its sender has gone. -/
inductive Attends (request : Http.Request) (limit : Nat) (range : Option Delta) (gone : Prop) :
    Task → Prop where
  | works {work : Api.Work} : work.range? = range →
      Attends request limit range gone (.request request limit work)
  | answered {r : Http.Response} : Attends request limit range gone (.ended (.response r))
  | dropped : gone → Attends request limit range gone (.ended .stopped)

variable {request : Http.Request} {limit : Nat} {range : Delta} {stage : Survey} {seconds : Int}
  {gone : Prop} {range? : Option Delta} {pre post : List DaemonEvent}

theorem attends_requestTask (d : Daemon) (request : Http.Request) :
    ∃ range, Attends request (d.world.now + d.requestTimeout.limitMillis) range False
      (d.requestTask request) := by
  unfold requestTask
  cases Api.receive 0 request with
  | answered r => exact ⟨none, .answered⟩
  | working work => exact ⟨work.range?, .works rfl⟩

/-- The turn of a request leaves it attended: it answers it or takes its work on. -/
theorem Attends.turn (h : Attends request limit range? gone t) (hcalm : d.Calm) :
    Attends request limit range? gone (d.advanceTask t).2 := by
  cases h with
  | @works work hrange =>
    cases work with
    | stats joined =>
      rcases hcalm.turn_stats request limit joined with
        ⟨joined', hturn⟩ | ⟨r, hturn, -⟩ <;> rw [hturn]
      · exact .works hrange
      · exact .answered
    | history range stage =>
      rcases hcalm.turn_history with ⟨stage', hturn⟩ | ⟨r, hturn⟩ <;> rw [hturn]
      · exact .works hrange
      · exact .answered
  | answered => exact .answered
  | dropped hgone => exact .dropped hgone

/-- **One event of the run of a request**, which may take its turn, drop it, or be no concern of
it. -/
theorem Attends.taskAfter (h : Attends request limit range? (.drop number ∈ events) t)
    (hcalm : d.Calm) (e : DaemonEvent) :
    Attends request limit range? (.drop number ∈ events ++ [e]) (d.taskAfter number t e) := by
  have hlater {t : Task} (h : Attends request limit range? (.drop number ∈ events) t) :
      Attends request limit range? (.drop number ∈ events ++ [e]) t := by
    cases h with
    | works hrange => exact .works hrange
    | answered => exact .answered
    | dropped hgone => exact .dropped (List.mem_append_left _ hgone)
  rcases d.taskAfter_cases number t e with
    ⟨-, hafter⟩ | ⟨-, hafter⟩ | ⟨rfl, hafter⟩ | ⟨rfl, hafter⟩ <;> rw [hafter]
  · exact hlater h
  · have hcancel : t.cancel = t := by cases h <;> rfl
    rw [hcancel]
    exact hlater h
  · cases h with
    | works => exact .dropped (List.mem_append_right _ (List.mem_singleton_self _))
    | answered => exact .answered
    | dropped hgone => exact .dropped (List.mem_append_left _ hgone)
  · exact hlater (h.turn hcalm)

/-- A request for a history over a range in reach begins to work at it. -/
theorem requestTask_of_history (d : Daemon) (hroute : request.route Api.pages = .ok .history)
    (hparse : Http.Form.int64Field "range_secs" (request.query.getD "") = .ok seconds)
    (hrange : Delta.ofSeconds? seconds = some range) :
    d.requestTask request = .request request (d.world.now + d.requestTimeout.limitMillis)
      (.history range .fresh) := by
  unfold requestTask Api.receive Api.receiveHistory
  simp only [hroute, hparse, hrange]

/-- Over any other range it is answered at once, and no task goes on for it. -/
theorem requestTask_of_tooLong (d : Daemon) (hroute : request.route Api.pages = .ok .history)
    (hparse : Http.Form.int64Field "range_secs" (request.query.getD "") = .ok seconds)
    (hrange : Delta.ofSeconds? seconds = none) :
    d.requestTask request = .ended (.response ((Http.Response.text 400 ("range_secs " ++
      String.ofList (Digits.ofInt seconds) ++ " is out of bounds")).sentTo request)) := by
  unfold requestTask Api.receive Api.receiveHistory
  simp only [hroute, hparse, hrange]

theorem attends_run {t : Task} (hcalm : d.Calm) (hevents : ∀ e ∈ events, e.Calm)
    (ht : d.tasks[number]? = some t) (h : Attends request limit range? False t) :
    ∃ t, (d.run events).tasks[number]? = some t ∧
      Attends request limit range? (.drop number ∈ events) t := by
  induction events using List.reverseRecOn with
  | nil =>
    refine ⟨t, ht, ?_⟩
    cases h with
    | works hrange => exact .works hrange
    | answered => exact .answered
    | dropped hgone => exact hgone.elim
  | append_singleton events e ih =>
    rw [List.forall_mem_append] at hevents
    obtain ⟨t, htask, hattends⟩ := ih hevents.1
    refine ⟨_, ?_, hattends.taskAfter (calm_run hcalm hevents.1) e⟩
    rw [run_concat]
    exact getElem?_apply htask e

/-- An event answers a request, by the number of its task: the task had not ended before, and has a
response afterwards. -/
def Answers (d : Daemon) (number : Nat) (e : DaemonEvent) (r : Http.Response) : Prop :=
  (∀ last, d.tasks[number]? ≠ some (.ended last)) ∧
    (d.apply e).tasks[number]? = some (.ended (.response r))

/-- The moment at which the time of a request is up that arrives after a run, in whole
milliseconds. -/
def limitAfter (first : Daemon) (pre : List DaemonEvent) : Nat :=
  (first.run pre).world.now + first.requestTimeout.limitMillis

/-- A run in which a request arrives, without panics and without faults of the store, from a daemon
that has done nothing yet. -/
structure Receives (first : Daemon) (pre : List DaemonEvent) (request : Http.Request)
    (post : List DaemonEvent) : Prop where
  calm : first.Calm
  events : ∀ e ∈ pre ++ .request request :: post, e.Calm
  prompt : first.Prompt (pre ++ .request request :: post)
  tasks : first.tasks = []
  listings : first.world.NoListing

variable {mid after : List DaemonEvent} {r : Http.Response} {work : Api.Work}

/-- A request that is answered on its arrival stays so, since nothing becomes of a task that has
ended. -/
theorem getElem?_of_answered {last : TaskEnd}
    (h : (first.run pre).requestTask request = .ended last) (mid : List DaemonEvent) :
    (first.run (pre ++ .request request :: mid)).tasks[(first.run pre).tasks.length]? =
      some (.ended last) := by
  rw [run_append]
  refine getElem?_run_of_over (d := (first.run pre).apply (.request request))
    (show (Task.ended last).Over from trivial) ?_ mid
  rw [← h]
  exact getElem?_apply_new rfl

/-- It has no other answer. -/
theorem eq_of_answered (hsplit : .request request :: post = mid ++ e :: after)
    (hanswers : (first.run (pre ++ mid)).Answers (first.run pre).tasks.length e r)
    {last : TaskEnd} (hlast : (first.run pre).requestTask request = .ended last) :
    last = .response r := by
  obtain ⟨hopen, hended⟩ := hanswers
  cases mid with
  | nil =>
    obtain ⟨rfl, -⟩ := List.cons.inj hsplit
    have hnew := getElem?_of_answered hlast []
    rw [← run_concat, List.append_nil, hnew] at hended
    exact Task.ended.inj (Option.some.inj hended)
  | cons e' mid =>
    obtain ⟨rfl, -⟩ := List.cons.inj hsplit
    exact absurd (getElem?_of_answered hlast mid) (hopen last)

theorem attends_of_history (hroute : request.route Api.pages = .ok .history)
    (hparse : Http.Form.int64Field "range_secs" (request.query.getD "") = .ok seconds)
    (hrange : Delta.ofSeconds? seconds = some range) :
    Attends request (first.limitAfter pre) (some range) False
      ((first.run pre).requestTask request) := by
  rw [requestTask_of_history _ hroute hparse hrange, requestTimeout_run]
  exact .works rfl

namespace Receives

theorem calm_run (h : first.Receives pre request post) {before : List DaemonEvent}
    (hbefore : before <+: pre ++ .request request :: post) : (first.run before).Calm :=
  Daemon.calm_run h.calm fun e he => h.events e (hbefore.subset he)

/-- No request has been let through that was to be refused. -/
theorem admitted_run (h : first.Receives pre request post) {before : List DaemonEvent} :
    ∀ t ∈ (first.run before).tasks, t.Admitted := by
  refine Daemon.admitted_run fun t hmem => ?_
  rw [h.tasks] at hmem
  cases hmem

theorem prefix_of_split (pre : List DaemonEvent)
    (hsplit : .request request :: post = mid ++ e :: after) :
    pre ++ mid <+: pre ++ .request request :: post := by
  rw [hsplit, ← List.append_assoc]
  exact List.prefix_append _ _

theorem inTime_run (h : first.Receives pre request post)
    (hmid : mid <+: .request request :: post) : (first.run (pre ++ mid)).InTime := by
  obtain ⟨rest, hrest⟩ := hmid
  have hprompt := h.prompt
  rw [← hrest, ← List.append_assoc, prompt_append] at hprompt
  refine Daemon.inTime_run (fun request limit work hmem => ?_) hprompt.1
  rw [h.tasks] at hmem
  cases hmem

/-- How the request stands some time after its arrival, with its own limit and over its own
range. -/
theorem attends (h : first.Receives pre request post)
    (hstart : Attends request (first.limitAfter pre) range? False
      ((first.run pre).requestTask request)) (hmid : mid <+: post) :
    ∃ t, (first.run (pre ++ .request request :: mid)).tasks[(first.run pre).tasks.length]? =
        some t ∧
      Attends request (first.limitAfter pre) range?
        (.drop (first.run pre).tasks.length ∈ mid) t := by
  have hpre : pre <+: pre ++ .request request :: post := List.prefix_append _ _
  rw [run_append]
  refine attends_run (d := (first.run pre).apply (.request request))
    ((h.calm_run hpre).apply trivial) (fun e he => ?_) (getElem?_apply_new rfl) hstart
  exact h.events e (List.mem_append_right _ (List.mem_cons_of_mem _ (hmid.subset he)))

/-- **A request is answered on its arrival or in a turn**, until which it has worked at the same
page. -/
theorem answer_cases (h : first.Receives pre request post)
    (hstart : Attends request (first.limitAfter pre) range? False
      ((first.run pre).requestTask request))
    (hsplit : .request request :: post = mid ++ e :: after)
    (hanswers : (first.run (pre ++ mid)).Answers (first.run pre).tasks.length e r) :
    (mid = [] ∧ (first.run pre).requestTask request = .ended (.response r)) ∨
      ∃ work, work.range? = range? ∧
        (first.run (pre ++ mid)).tasks[(first.run pre).tasks.length]? =
          some (.request request (first.limitAfter pre) work) ∧
        ((first.run (pre ++ mid)).advanceTask (.request request (first.limitAfter pre) work)).2 =
          .ended (.response r) := by
  obtain ⟨hopen, hended⟩ := hanswers
  cases mid with
  | nil =>
    obtain ⟨rfl, -⟩ := List.cons.inj hsplit
    rw [List.append_nil] at hended
    have hnew : ((first.run pre).apply (.request request)).tasks[(first.run pre).tasks.length]? =
        some ((first.run pre).requestTask request) := getElem?_apply_new rfl
    exact .inl ⟨rfl, Option.some.inj (hnew.symm.trans hended)⟩
  | cons e' mid =>
    obtain ⟨rfl, rfl⟩ := List.cons.inj hsplit
    obtain ⟨t, ht, hattends⟩ := h.attends hstart (List.prefix_append mid (e :: after))
    rw [getElem?_apply ht e] at hended
    have hended := Option.some.inj hended
    cases hattends with
    | @works work hrange =>
      -- of what can happen to a request that works, only its turn answers it
      refine .inr ⟨work, hrange, ht, ?_⟩
      rcases taskAfter_cases _ (first.run pre).tasks.length
        (.request request (first.limitAfter pre) work) e with
        ⟨-, hafter⟩ | ⟨-, hafter⟩ | ⟨-, hafter⟩ | ⟨-, hafter⟩
      · cases hafter.symm.trans hended
      · cases hafter.symm.trans hended
      · cases hafter.symm.trans hended
      · exact hafter.symm.trans hended
    | answered | dropped => exact absurd ht (hopen _)

/-- No answer comes late: the request was in time before the event that answers it, and its turn
does not move the time. -/
theorem now_le_of_answers (h : first.Receives pre request post)
    (hsplit : .request request :: post = mid ++ e :: after)
    (hanswers : (first.run (pre ++ mid)).Answers (first.run pre).tasks.length e r) :
    (first.run (pre ++ mid)).world.now ≤
      (first.run pre).world.now + first.requestTimeout.ceilMillis := by
  obtain ⟨range?, hstart⟩ := attends_requestTask (first.run pre) request
  rw [requestTimeout_run] at hstart
  rcases h.answer_cases hstart hsplit hanswers with ⟨rfl, -⟩ | ⟨work, -, ht, -⟩
  · rw [List.append_nil]
    exact Nat.le_add_right _ _
  · have hmid : mid <+: .request request :: post := ⟨e :: after, hsplit.symm⟩
    exact Nat.le_trans (h.inTime_run hmid _ _ _ (List.mem_of_getElem? ht))
      (Nat.add_le_add_left first.requestTimeout.limitMillis_le_ceilMillis _)

/-- **What a request for a history is answered with**: it is refused because of its range, or
answered by what has ended its survey. -/
theorem history_answer (h : first.Receives pre request post) (hget : request.method = "GET")
    (hroute : request.route Api.pages = .ok .history)
    (hparse : Http.Form.int64Field "range_secs" (request.query.getD "") = .ok seconds)
    (hsplit : .request request :: post = mid ++ e :: after)
    (hanswers : (first.run (pre ++ mid)).Answers (first.run pre).tasks.length e r) :
    (first.run (pre ++ mid)).RangeAtFault (first.run pre).tasks.length seconds ∧ r.status = 400 ∨
      ¬ (first.run (pre ++ mid)).RangeAtFault (first.run pre).tasks.length seconds ∧
        ∃ range stage, (first.run (pre ++ mid)).tasks[(first.run pre).tasks.length]? =
          some (.request request (first.limitAfter pre) (.history range stage)) ∧
        (first.run (pre ++ mid)).world.HistoryAnswer stage (first.limitAfter pre) r := by
  cases hrange : Delta.ofSeconds? seconds with
  | none =>
    have hlast := (first.run pre).requestTask_of_tooLong hroute hparse hrange
    rw [← TaskEnd.response.inj (eq_of_answered hsplit hanswers hlast)]
    exact .inl ⟨.tooLong hrange, Http.Response.status_sentTo ..⟩
  | some range =>
    rcases h.answer_cases (attends_of_history hroute hparse hrange) hsplit hanswers with
      ⟨-, hended⟩ | ⟨work, hwork, ht, hturn⟩
    · -- a range in reach is not answered on arrival
      rw [requestTask_of_history _ hroute hparse hrange] at hended
      cases hended
    · cases work with
      | stats joined => cases hwork
      | history range' stage =>
        obtain rfl : range' = range := Option.some.inj hwork
        have hadmitted := h.admitted_run _ (List.mem_of_getElem? ht)
        have hturns := historyTurns hget (h.calm_run (prefix_of_split pre hsplit)) ht hadmitted
          hrange
        rw [hturn] at hturns
        cases hturns with
        | refuses hfault hstatus => exact .inl ⟨hfault, hstatus⟩
        | answers hfine hanswer => exact .inr ⟨hfine, _, stage, ht, hanswer⟩

/-- The turns of a request whose range is at fault from the outset leave the world alone. -/
theorem world_turn (h : first.Receives pre request post)
    (hroute : request.route Api.pages = .ok .history)
    (hparse : Http.Form.int64Field "range_secs" (request.query.getD "") = .ok seconds)
    (hfault : seconds ≤ 0 ∨ Delta.ofSeconds? seconds = none)
    (hsplit : .request request :: post =
      mid ++ .turn (.task (first.run pre).tasks.length) :: after) :
    (first.run (pre ++ mid ++ [.turn (.task (first.run pre).tasks.length)])).world =
      (first.run (pre ++ mid)).world := by
  rw [run_concat]
  show ((first.run (pre ++ mid)).turn (.task (first.run pre).tasks.length)).world = _
  cases mid with
  | nil => cases hsplit
  | cons e mid =>
    obtain ⟨rfl, rfl⟩ := List.cons.inj hsplit
    cases hrange : Delta.ofSeconds? seconds with
    | none =>
      have hlast := (first.run pre).requestTask_of_tooLong hroute hparse hrange
      rw [turn_task (getElem?_of_answered hlast mid)]
      rfl
    | some range =>
      have hnanos := Delta.nanos_of_ofSeconds? hrange
      have hle : range.nanos ≤ 0 := by
        have := hfault.resolve_right (by rw [hrange]; exact Option.some_ne_none range)
        omega
      obtain ⟨t, ht, hattends⟩ := h.attends
        (attends_of_history hroute hparse hrange) (List.prefix_append mid _)
      rw [turn_task ht]
      cases hattends with
      | @works work hwork =>
        cases work with
        | stats joined => cases hwork
        | history range' stage =>
          obtain rfl : range' = range := Option.some.inj hwork
          show ((first.run _).advanceTask _).1 = _
          exact advanceTask_of_refused hle (h.admitted_run _ (List.mem_of_getElem? ht))
      | answered | dropped => rfl

end Receives

/-- What becomes of a request for a history over so many seconds that arrives in a run.  Its range
can be at fault from the outset, or turn out to be so when the survey has ended; everything else
that ends it is told by `HistoryAnswer`. -/
structure AnswersHistory (first : Daemon) (pre : List DaemonEvent) (request : Http.Request)
    (post : List DaemonEvent) (seconds : Int) : Prop where
  /-- The client is to blame just when the range is at fault. -/
  badRequest : ∀ mid e after r, .request request :: post = mid ++ e :: after →
    (first.run (pre ++ mid)).Answers (first.run pre).tasks.length e r →
    (r.status = 400 ↔
      (first.run (pre ++ mid)).RangeAtFault (first.run pre).tasks.length seconds)
  /-- Any other answer is given by what has ended its survey, in the stage that this had come
  to. -/
  otherwise : ∀ mid e after r, .request request :: post = mid ++ e :: after →
    (first.run (pre ++ mid)).Answers (first.run pre).tasks.length e r → r.status ≠ 400 →
    ∃ range stage, (first.run (pre ++ mid)).tasks[(first.run pre).tasks.length]? =
      some (.request request (first.limitAfter pre) (.history range stage)) ∧
    (first.run (pre ++ mid)).world.HistoryAnswer stage (first.limitAfter pre) r
  /-- If the range is at fault from the outset, nothing is done, and the inspector is not called. -/
  spared : seconds ≤ 0 ∨ Delta.ofSeconds? seconds = none → ∀ mid after,
    .request request :: post = mid ++ .turn (.task (first.run pre).tasks.length) :: after →
    (first.run (pre ++ mid ++ [.turn (.task (first.run pre).tasks.length)])).world =
      (first.run (pre ++ mid)).world

/-- What becomes of a request that arrives in a run, by the number of its task: whether and when it
is answered, whatever page it asks for, and what with when it asks for one of the two that survey
the machine. -/
structure AnswersRequest (first : Daemon) (pre : List DaemonEvent) (request : Http.Request)
    (post : List DaemonEvent) : Prop where
  /-- It is answered, unless its sender goes before that or its time is not up. -/
  answered : let last := first.run (pre ++ .request request :: post)
    (∃ r, last.tasks[(first.run pre).tasks.length]? = some (.ended (.response r))) ∨
      .drop (first.run pre).tasks.length ∈ post ∨
      last.world.now ≤ (first.run pre).world.now + first.requestTimeout.ceilMillis ∧
        (last.AtRest →
          last.world.now < (first.run pre).world.now + first.requestTimeout.ceilMillis)
  /-- No answer comes late. -/
  inTime : ∀ mid e after r, .request request :: post = mid ++ e :: after →
    (first.run (pre ++ mid)).Answers (first.run pre).tasks.length e r →
    (first.run (pre ++ mid)).world.now ≤
      (first.run pre).world.now + first.requestTimeout.ceilMillis
  history : ∀ seconds, request.path = "/api/v1/stats/history" →
    Http.Form.int64Field "range_secs" (request.query.getD "") = .ok seconds →
    first.AnswersHistory pre request post seconds
  stats : request.path = "/api/v1/stats" →
    ∀ mid e after r, .request request :: post = mid ++ e :: after →
    (first.run (pre ++ mid)).Answers (first.run pre).tasks.length e r →
    r.status ∈ [200, 502, 503, 504]

/-- The page that a request reaches by a path, when it asks for it by the one method that every page
allows. -/
theorem route_of_get (hget : request.method = "GET") {page : Api.Page}
    (hpage : Api.pages.lookup request.path = some page) :
    request.route Api.pages = .ok page := by
  unfold Http.Request.route
  rw [hpage, hget]
  rfl

theorem Receives.answersRequest (h : first.Receives pre request post)
    (hget : request.method = "GET") : first.AnswersRequest pre request post where
  answered := by
    obtain ⟨range?, hstart⟩ := attends_requestTask (first.run pre) request
    rw [requestTimeout_run] at hstart
    obtain ⟨t, ht, hattends⟩ := h.attends hstart List.prefix_rfl
    cases hattends with
    | answered => exact .inl ⟨_, ht⟩
    | dropped hgone => exact .inr (.inl hgone)
    | works =>
      have hlimit := Nat.add_le_add_left first.requestTimeout.limitMillis_le_ceilMillis
        (first.run pre).world.now
      have hnow := h.inTime_run List.prefix_rfl _ _ _ (List.mem_of_getElem? ht)
      refine .inr (.inr ⟨Nat.le_trans hnow hlimit, fun hrest => ?_⟩)
      exact Nat.lt_of_lt_of_le (hrest.now_lt_limit ht) hlimit
  inTime _ _ _ _ hsplit hanswers := h.now_le_of_answers hsplit hanswers
  history seconds hpath hparse := by
    have hroute : request.route Api.pages = .ok .history :=
      route_of_get hget (by rw [hpath]; rfl)
    constructor
    case badRequest =>
      intro mid e after r hsplit hanswers
      rcases h.history_answer hget hroute hparse hsplit hanswers with
        ⟨hfault, hstatus⟩ | ⟨hfine, range, stage, -, hanswer⟩
      · exact iff_of_true hstatus hfault
      · exact iff_of_false hanswer.status_ne hfine
    case otherwise =>
      intro mid e after r hsplit hanswers hne
      exact ((h.history_answer hget hroute hparse hsplit hanswers).resolve_left
        fun hbad => hne hbad.2).2
    case spared =>
      intro hfault mid after hsplit
      exact h.world_turn hroute hparse hfault hsplit
  stats hpath mid e after r hsplit hanswers := by
    have hroute : request.route Api.pages = .ok .stats :=
      route_of_get hget (by rw [hpath]; rfl)
    obtain ⟨limit, hnew⟩ := requestTask_of_stats hroute (first.run pre)
    have hstart : Attends request (first.limitAfter pre) none False
        ((first.run pre).requestTask request) := by
      have hlimit := limit_of_taskOf? (d := first.run pre) (e := .request request)
        (congrArg some hnew)
      rw [requestTimeout_run] at hlimit
      rw [hnew, hlimit]
      exact .works rfl
    rcases h.answer_cases hstart hsplit hanswers with ⟨-, hended⟩ | ⟨work, hwork, ht, hturn⟩
    · rw [hnew] at hended
      cases hended
    · cases work with
      | history range stage => cases hwork
      | stats joined =>
        have hcomes := (h.calm_run (prefix_of_split pre hsplit)).turn_stats request
          (first.limitAfter pre) joined
        rcases hcomes with ⟨joined', hwaits⟩ | ⟨r', hended, hstatus⟩
        · cases hwaits.symm.trans hturn
        · cases hended.symm.trans hturn
          exact hstatus

/-! ## What a run of any daemon comes to -/

/-- **Only the client's mistakes are client errors**, and no answer comes late: in every run of
every daemon in which the inspector does not panic and the store has no faults, whatever the
clock shows and however the inspector fails, behind a cache or not.  What an answer is put down
to is traced back through the run, to the moment at which the inspector was called or at which a
shared listing was given its limit. -/
theorem create_answersRequest {settings : DaemonSettings} (hnew : create settings = .ok first)
    (hget : request.method = "GET") (hcalm : ∀ e ∈ pre ++ .request request :: post, e.Calm)
    (hprompt : first.Prompt (pre ++ .request request :: post)) :
    first.requestTimeout = settings.requestTimeout ∧
      first.world.listingSettings.map CacheSettings.fetchTimeout =
        settings.topologyCache.map Prod.snd ∧
      first.Traces (pre ++ .request request :: post) ∧
      first.AnswersRequest pre request post := by
  obtain ⟨hlistings, hsettings⟩ := listings_create hnew
  have hfirst := calm_create hnew
  obtain ⟨cache, retention, snapshots, -, -, -, heq⟩ := create_eq_ok hnew
  have htasks : first.tasks = [] := by rw [heq]
  have hreceives : first.Receives pre request post :=
    ⟨hfirst, hcalm, hprompt, htasks, hlistings⟩
  exact ⟨by rw [heq], hsettings, traces_run htasks hlistings hprompt, hreceives.answersRequest hget⟩

/-- An inspector that lists its hardware in three milliseconds and finds fault with the caller
two milliseconds after it was asked for readings. -/
def readingsRefused : List DaemonEvent :=
  [.showTopology { Probe.showing SmallMachine.topology with delay := some 3 },
    .showReadings { Probe.showing SmallMachine.readings with
      fault := some (.failure (.validation "no bus")), delay := some 2 }]

def historyOfMinute : Http.Request := ⟨"GET", "/api/v1/stats/history", some "range_secs=60"⟩

/-- The request waits for the shared listing, and for its readings after that, which fail. -/
def surveyInVain : List DaemonEvent :=
  [.turn (.task 0), .turn .listing, .pass 3, .turn .listing, .turn (.task 0), .pass 5,
    .turn (.task 0)]

theorem calm_surveyInVain :
    ∀ e ∈ readingsRefused ++ .request historyOfMinute :: surveyInVain, e.Calm := by
  unfold readingsRefused surveyInVain
  simp only [List.cons_append, List.nil_append, List.forall_mem_cons]
  exact ⟨fun _ h => (by cases h), fun _ h => (by cases h), trivial, trivial, trivial, trivial,
    trivial, trivial, trivial, trivial, fun _ h => (by cases h)⟩

theorem prompt_surveyInVain (h : create SmallMachine.settings = .ok d) :
    d.Prompt (readingsRefused ++ .request historyOfMinute :: surveyInVain) := by
  have hnew : create SmallMachine.settings = .ok _ := rfl
  obtain rfl := Except.ok.inj (hnew.symm.trans h)
  refine ⟨trivial, trivial, trivial, trivial, trivial, ?listed, trivial, trivial, ?measured,
    trivial, trivial⟩
  case listed =>
    intro moment _ hlt
    refine atRest_of_turns ?_ ?_ ?_
    · match moment with
      | 0 | 1 | 2 => with_unfolding_all rfl
    · with_unfolding_all rfl
    · intro number hnumber
      have hnumber : number < 1 := by with_unfolding_all exact hnumber
      match moment, number with
      | 0, 0 | 1, 0 | 2, 0 => with_unfolding_all rfl
  case measured =>
    intro moment hle hlt
    have hle : 3 ≤ moment := by with_unfolding_all exact hle
    refine atRest_of_turns ?_ ?_ ?_
    · with_unfolding_all rfl
    · with_unfolding_all rfl
    · intro number hnumber
      have hnumber : number < 1 := by with_unfolding_all exact hnumber
      match moment, number with
      | 3, 0 | 4, 0 => with_unfolding_all rfl

/-- The client is not to blame for what the inspector finds fault with: the answer is an upstream
error, and names the step that has failed. -/
theorem answersRequest_of_readings_refused :
    ∃ first, create SmallMachine.settings = .ok first ∧ historyOfMinute.method = "GET" ∧
      (∀ e ∈ readingsRefused ++ .request historyOfMinute :: surveyInVain, e.Calm) ∧
      first.Prompt (readingsRefused ++ .request historyOfMinute :: surveyInVain) ∧
      (first.run (readingsRefused ++ .request historyOfMinute :: surveyInVain)).tasks =
        [.ended (.response (.text 502
          "Upstream error: get current values: Validation error: no bus"))] ∧
      first.Traces (readingsRefused ++ .request historyOfMinute :: surveyInVain) ∧
      first.AnswersRequest readingsRefused historyOfMinute surveyInVain ∧
      first.AnswersHistory readingsRefused historyOfMinute surveyInVain 60 := by
  have hnew : create SmallMachine.settings = .ok _ := rfl
  obtain ⟨-, -, htraces, hanswers⟩ := create_answersRequest hnew
    (show historyOfMinute.method = "GET" from rfl) calm_surveyInVain (prompt_surveyInVain hnew)
  exact ⟨_, hnew, rfl, calm_surveyInVain, prompt_surveyInVain hnew, by with_unfolding_all rfl,
    htraces, hanswers, hanswers.history 60 rfl (by with_unfolding_all rfl)⟩

end Daemon

end Telemetry
