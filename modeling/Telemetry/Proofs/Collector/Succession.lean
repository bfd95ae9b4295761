import Telemetry.Proofs.Chronology
import Telemetry.Proofs.Collector.Lane

/-! # The collections of a source follow one another

A round that finds a collection in flight joins it (`round_of_running`), any other starts the next
one (`round_of_free`).  So each collection of a source starts when all before it are over, finds a
provider that can be asked, and tells the sink when it ends: this is one invariant of lanes
(`Sound`), which the end of a collection and a round that reaches the source keep.

The invariant gives for every collection the provider that it was made with (`made`), because what
is known of a collection, its bounds and its account, is known of what `collect` yields.  It also
keeps count of the calls: what the provider has been asked so far is what the attempts of all
collections have asked it, in order (`asked`).

The witness `past` tells the collections that are over from the one in flight.  At a settled state
it is determined by the moment (`sink_eq`, `flight_iff`), and later modules see only that.
-/

namespace Telemetry

namespace Lane

variable {collect : Provider → Nat → Provider × Collection} {l : Lane} {now later : Nat}
  {armed : Option Nat} {due : Collection → Bool} {c : Collection} {q : Provider}

/-! ## Single steps -/

theorem land_of_idle (h : l.flight = none) (due : Collection → Bool) : l.land due = l := by
  obtain ⟨provider, flight, collections, sink⟩ := l
  subst h
  simp [land]

theorem land_of_flight (h : l.flight = some c) (due : Collection → Bool) :
    l.land due = if due c then { l with flight := none, sink := l.sink ++ c.told } else l := by
  obtain ⟨provider, flight, collections, sink⟩ := l
  subst h
  cases hdue : due c <;> simp [land, Option.filter, hdue]

theorem flight_land : (l.land due).flight = some c ↔ l.flight = some c ∧ due c = false := by
  unfold land
  rw [Option.filter_eq_some_iff, Bool.not_eq_true']

/-- What is in flight after settling has not ended: a collection that ends at this moment is
over. -/
theorem lt_ends_of_settle (h : (l.settle now).flight = some c) : now < c.ends :=
  Nat.not_le.mp (of_decide_eq_false (flight_land.mp h).2)

theorem join_of_flight (collect : Provider → Nat → Provider × Collection)
    (h : l.flight = some c) (now : Nat) : l.join collect now = (l, some c) := by
  unfold join
  rw [h]

theorem join_of_idle (collect : Provider → Nat → Provider × Collection) (h : l.flight = none)
    (hp : l.provider = some q) (now : Nat) :
    l.join collect now =
      ({ l with
          provider := some (collect q now).1
          flight := some (collect q now).2
          collections := l.collections ++ [(collect q now).2] }, some (collect q now).2) := by
  unfold join
  rw [h, hp]

/-- What is in flight after a round is what the round is handed, unless it is over at once. -/
theorem handle_of_flight (h : (l.round collect now armed).1.flight = some c) :
    (l.round collect now armed).2 = some c := by
  have hflight : ((l.land fun c => !c.runsAt now armed).join collect now).1.flight = some c :=
    (flight_land.mp h).1
  rw [flight_join] at hflight
  exact hflight

/-- A round during a collection joins it, and starts nothing. -/
theorem round_of_running (collect : Provider → Nat → Provider × Collection)
    (h : l.flight = some c) (hruns : c.runsAt now armed = true) :
    (l.round collect now armed).1.collections = l.collections ∧
      (l.round collect now armed).2 = some c := by
  have hflight : (l.land fun c => !c.runsAt now armed).flight = some c :=
    flight_land.mpr ⟨h, by rw [hruns]; rfl⟩
  have hjoin := join_of_flight collect hflight now
  unfold round
  rw [hjoin]
  exact ⟨rfl, rfl⟩

/-- Any other round starts a collection, of the provider as the last one has left it, and is handed
it. -/
theorem round_of_free (collect : Provider → Nat → Provider × Collection) (hp : l.provider = some q)
    (hfree : ∀ c, l.flight = some c → c.runsAt now armed = false) :
    (l.round collect now armed).1.collections = l.collections ++ [(collect q now).2] ∧
      (l.round collect now armed).2 = some (collect q now).2 := by
  have hflight : (l.land fun c => !c.runsAt now armed).flight = none := by
    cases hflight : (l.land fun c => !c.runsAt now armed).flight with
    | none => rfl
    | some c =>
      obtain ⟨hc, hruns⟩ := flight_land.mp hflight
      rw [hfree c hc] at hruns
      cases hruns
  have hjoin := join_of_idle collect hflight hp now
  unfold round
  rw [hjoin]
  exact ⟨rfl, rfl⟩

/-- A round starts one collection at most, and at its own moment, whatever it finds. -/
theorem collections_round (p : CollectPolicy) (name : String) (l : Lane) (now : Nat)
    (armed : Option Nat) :
    ∃ more, (l.round (p.collect name) now armed).1.collections = l.collections ++ more ∧
      ∀ x ∈ more, x.started = now := by
  show ∃ more, ((l.land _).join (p.collect name) now).1.collections = _ ∧ _
  unfold join
  split
  · exact ⟨[], (List.append_nil _).symm, fun _ h => (by cases h)⟩
  · exact ⟨[], (List.append_nil _).symm, fun _ h => (by cases h)⟩
  · exact ⟨_, rfl, List.forall_mem_singleton.mpr (CollectPolicy.started_collect ..)⟩

/-! ## The invariant -/

/-- What the lane of a source has come to by a moment.  Its collections so far are the collections
`past`, which are over, and the one in flight; all were made with a provider that nobody had asked
before.  Each field is about the collections as a list, in the order in which they have started. -/
structure Sound (p : CollectPolicy) (name : String) (provider : Provider) (now : Nat)
    (past : List Collection) (l : Lane) : Prop where
  collections : l.collections = past ++ l.flight.toList
  ended : ∀ c ∈ past, c.ends ≤ now
  sink : l.sink = past.flatMap Collection.told
  apart : l.collections.Pairwise fun a b => a.ends ≤ b.started
  begun : ∀ c ∈ l.collections, c.started ≤ now
  made : ∀ c ∈ l.collections, ∃ q : Provider, q.Ready c.started ∧ (q.Calm ↔ provider.Calm) ∧
    (p.collect name q c.started).2 = c
  asked : ∃ q, l.provider = some q ∧
    Provider.AskedAt (l.collections.flatMap fun c => c.attempts.map Attempt.started) provider q ∧
    ∀ later, now ≤ later → (∀ c, l.flight = some c → c.ends ≤ later) → q.Ready later

namespace Sound

variable {p : CollectPolicy} {name : String} {provider : Provider} {past : List Collection}

theorem create (hfresh : provider.Fresh) (p : CollectPolicy) (name : String) (now : Nat) :
    Sound p name provider now [] ⟨some provider, none, [], []⟩ where
  collections := rfl
  ended _ h := by cases h
  sink := rfl
  apart := List.Pairwise.nil
  begun _ h := by cases h
  made _ h := by cases h
  asked := ⟨provider, rfl, .refl provider, fun later _ _ => hfresh.ready later⟩

theorem mono (h : l.Sound p name provider now past) (hle : now ≤ later) :
    l.Sound p name provider later past := by
  obtain ⟨q, hq, hasked, hready⟩ := h.asked
  exact { h with
    ended := fun c hc => Nat.le_trans (h.ended c hc) hle
    begun := fun c hc => Nat.le_trans (h.begun c hc) hle
    asked := ⟨q, hq, hasked, fun t ht => hready t (Nat.le_trans hle ht)⟩ }

theorem mem_of_flight (h : l.Sound p name provider now past) (hc : l.flight = some c) :
    c ∈ l.collections := by
  rw [h.collections, hc]
  exact List.mem_append_right _ (List.mem_singleton_self c)

/-- The end of a collection that is due keeps the invariant: it moves to those that are over, and
the sink is told. -/
theorem land (h : l.Sound p name provider now past) (hdue : ∀ c, due c = true → c.ends ≤ now) :
    ∃ past, (l.land due).Sound p name provider now past := by
  cases hflight : l.flight with
  | none =>
    rw [land_of_idle hflight]
    exact ⟨past, h⟩
  | some c =>
    rw [land_of_flight hflight]
    split
    next hc =>
      obtain ⟨q, hq, hasked, hready⟩ := h.asked
      refine ⟨past ++ [c], ?_, ?_, ?_, h.apart, h.begun, h.made, q, hq, hasked,
        fun later hle _ => ?_⟩
      · show l.collections = past ++ [c] ++ []
        rw [h.collections, hflight, List.append_nil]
        rfl
      · exact List.forall_mem_append.mpr ⟨h.ended, List.forall_mem_singleton.mpr (hdue c hc)⟩
      · show l.sink ++ c.told = (past ++ [c]).flatMap Collection.told
        rw [h.sink, List.flatMap_append, List.flatMap_singleton]
      · refine hready later hle fun c' hc' => ?_
        rw [hflight] at hc'
        obtain rfl := Option.some.inj hc'
        exact Nat.le_trans (hdue c hc) hle
    next => exact ⟨past, h⟩

/-- **A round that reaches the source keeps the invariant.**  If it starts a collection, all others
are over, and the provider is ready to be asked. -/
theorem join (h : l.Sound p name provider now past) :
    (l.join (p.collect name) now).1.Sound p name provider now past := by
  cases hflight : l.flight with
  | some c =>
    rw [join_of_flight _ hflight]
    exact h
  | none =>
    obtain ⟨q, hq, hasked, hready⟩ := h.asked
    -- nothing is in flight, so the provider can be asked again
    have hnow := hready now (Nat.le_refl now) fun c hc => by
      rw [hflight] at hc
      cases hc
    obtain ⟨-, hagain⟩ := p.kept_collect name hnow
    have hpast : l.collections = past := by
      rw [h.collections, hflight]
      exact List.append_nil past
    have hstarted := CollectPolicy.started_collect p name q now
    rw [join_of_idle _ hflight hq]
    constructor
    case collections =>
      show l.collections ++ [_] = past ++ [_]
      rw [hpast]
    case ended => exact h.ended
    case sink => exact h.sink
    case apart =>
      refine List.pairwise_append.mpr ⟨h.apart, List.pairwise_singleton _ _, fun a ha b hb => ?_⟩
      rw [List.mem_singleton.mp hb, hstarted]
      exact h.ended a (hpast ▸ ha)
    case begun =>
      refine List.forall_mem_append.mpr ⟨h.begun, List.forall_mem_singleton.mpr ?_⟩
      rw [hstarted]
    case made =>
      refine List.forall_mem_append.mpr ⟨h.made, List.forall_mem_singleton.mpr ⟨q, ?_⟩⟩
      rw [hstarted]
      exact ⟨hnow, hasked.calm, rfl⟩
    case asked =>
      refine ⟨_, rfl, ?_, fun later _ hends => hagain later (hends _ rfl)⟩
      show Provider.AskedAt ((l.collections ++ [_]).flatMap _) provider _
      rw [List.flatMap_append, List.flatMap_singleton]
      exact hasked.trans (CollectPolicy.askedAt_collect p name q now)

theorem settle (h : l.Sound p name provider now past) (hle : now ≤ later) :
    ∃ past, (l.settle later).Sound p name provider later past :=
  (h.mono hle).land fun _ hc => of_decide_eq_true hc

/-- What does not run at a round has ended by then, also where the timers decide at the moment of
its end. -/
theorem landed (h : l.Sound p name provider now past) (hle : now ≤ later) (armed : Option Nat) :
    ∃ past, (l.land fun c => !c.runsAt later armed).Sound p name provider later past := by
  refine (h.mono hle).land fun c hc => ?_
  unfold Collection.runsAt at hc
  simp only [Bool.not_or, Bool.and_eq_true, Bool.not_eq_true', decide_eq_false_iff_not] at hc
  exact Nat.not_lt.mp hc.1

/-- **A round keeps the invariant**, with all that ends before it and at its moment. -/
theorem round (h : l.Sound p name provider now past) (hle : now ≤ later) (armed : Option Nat) :
    ∃ past, (l.round (p.collect name) later armed).1.Sound p name provider later past := by
  obtain ⟨past, hlanded⟩ := h.landed hle armed
  exact hlanded.join.settle (Nat.le_refl later)

/-! ## What it says of collections -/

/-- Every collection of the source keeps within its bounds, as any collection from a provider that
is ready does. -/
theorem kept (h : l.Sound p name provider now past) (hc : c ∈ l.collections) :
    c.source = name ∧ c.Kept p := by
  obtain ⟨q, hready, -, hmade⟩ := h.made c hc
  rw [← hmade]
  exact ⟨CollectPolicy.source_collect .., (p.kept_collect name hready).1⟩

/-- Where nothing panics, every collection of the source accounts for what it came to, also those
after the first: a provider stays calm. -/
theorem accounted (h : l.Sound p name provider now past) (hc : c ∈ l.collections)
    (hclock : p.timeout.clockCanReach = true)
    (hdrawn : ∀ n, n + 1 < p.retry.maxAttempts → p.retry.backoff.drawable n = true)
    (hcalm : provider.Calm) : c.attempts.IsChain (c.limits p).Follows ∧ c.Accounted p := by
  obtain ⟨q, -, hsame, hmade⟩ := h.made c hc
  rw [← hmade]
  exact p.accounted_collect name hclock hdrawn (hsame.mpr hcalm)

/-- Once all that is due has ended, the sink has been told of the collections whose end has come.
They are told in the order of the collections, which is that of their ends. -/
theorem sink_eq (h : l.Sound p name provider now past)
    (hsettled : ∀ c, l.flight = some c → now < c.ends) :
    l.sink = (l.collections.filter fun c => c.ends ≤ now).flatMap Collection.told := by
  have hflight : l.flight.toList.filter (fun c => decide (c.ends ≤ now)) = [] :=
    List.filter_eq_nil_iff.mpr fun c hc hends =>
      absurd (of_decide_eq_true hends) (Nat.not_le.mpr (hsettled c (Option.mem_toList.mp hc)))
  rw [h.sink, h.collections, List.filter_append, hflight, List.append_nil,
    List.filter_eq_self.mpr fun c hc => decide_eq_true (h.ended c hc)]

/-- The collection in flight is the one that is not over, and there is none if all are. -/
theorem flight_iff (h : l.Sound p name provider now past)
    (hsettled : ∀ c, l.flight = some c → now < c.ends) :
    l.flight = some c ↔ c ∈ l.collections ∧ now < c.ends := by
  constructor
  · exact fun hc => ⟨h.mem_of_flight hc, hsettled c hc⟩
  · rintro ⟨hc, hruns⟩
    rw [h.collections] at hc
    rcases List.mem_append.mp hc with hc | hc
    · exact absurd (h.ended c hc) (Nat.not_le.mpr hruns)
    · exact Option.mem_toList.mp hc

end Sound

/-- **In every run of rounds** the collections of a source follow one another, whatever its provider
does. -/
theorem sound_run (p : CollectPolicy) (name : String) {provider : Provider}
    (hfresh : provider.Fresh) {rounds : List (Nat × Option Nat)} (h : HappenedBy now rounds) :
    ∃ past, (run (p.collect name) ⟨some provider, none, [], []⟩ rounds).Sound p name provider now
      past := by
  refine HappenedBy.induction ?_ ?_ h
  · intro now
    exact ⟨[], .create hfresh p name now⟩
  · intro now pre t armed _ hle ih
    obtain ⟨past, hsound⟩ := ih
    obtain ⟨past, hsound⟩ := hsound.round (Nat.le_refl t) armed
    refine ⟨past, ?_⟩
    rw [run, List.foldl_concat]
    exact hsound.mono hle

/-- After rounds, the collection in flight is the one that had not ended at any of them.  This says
it in terms of the rounds alone, without the moment at which one looks. -/
theorem flight_run (p : CollectPolicy) (name : String) {provider : Provider}
    (hfresh : provider.Fresh) {rounds : List (Nat × Option Nat)} (h : HappenedBy now rounds) :
    let l := run (p.collect name) ⟨some provider, none, [], []⟩ rounds
    l.flight = some c ↔ c ∈ l.collections ∧ ∀ r ∈ rounds, r.1 < c.ends := by
  rcases List.eq_nil_or_concat' rounds with rfl | ⟨pre, r, rfl⟩
  · exact ⟨fun hc => (by cases hc), fun hc => absurd hc.1 List.not_mem_nil⟩
  · obtain ⟨hpre, -⟩ := HappenedBy.concat_iff.mp h
    obtain ⟨past, hsound⟩ := sound_run p name hfresh h.upTo
    intro l
    have hsettled : ∀ c, l.flight = some c → r.1 < c.ends := by
      intro c hc
      rw [show l = _ from List.foldl_concat ..] at hc
      exact lt_ends_of_settle hc
    rw [hsound.flight_iff hsettled]
    refine and_congr_right fun _ => ⟨fun hlt => ?_, fun hall => hall r (by simp)⟩
    refine List.forall_mem_append.mpr ⟨fun a ha => ?_, List.forall_mem_singleton.mpr hlt⟩
    exact Nat.lt_of_le_of_lt (hpre.past a ha) hlt

end Lane

end Telemetry
