import Telemetry.Collector.FanOut
import Telemetry.Proofs.Coalesce.CallGroup
import Telemetry.Proofs.Collector.Collection

/-! # What one source sees

Rounds work on all sources at once, through one table and one sink.  What a single source sees of
them is its lane (`FanOut.lane`): its provider, its collections, the one of them that the table
lists, and what the sink was told of it.  On a lane each operation is an operation on one source
alone, as long as the table lists just the collections that run (`Linked`).

There are two operations.  Collections end (`lane_land`): of those that end together at most one is
a certain source's, and the order of the others does not matter to it.  And a round reaches every
source (`Linked.reachAll`): each source is reached once, and reaching it touches no other lane.
`Linked.round` and `Linked.run` put them together, and later modules use these alone: they follow
one source at a time, as if it were the only one.
-/

namespace Telemetry

/-- What one source of many sees.  There is nothing in it of the numbers under which collections are
listed. -/
structure Lane where
  /-- None when the source is not configured. -/
  provider : Option Provider
  /-- The collection in flight. -/
  flight : Option Collection
  /-- The collections so far, in order. -/
  collections : List Collection
  /-- What the sink has been told, and when. -/
  sink : List (Nat × SinkCall)

namespace Lane

/-- The collection in flight ends, if it is due, and the sink is told what it came to. -/
def land (l : Lane) (due : Collection → Bool) : Lane :=
  { l with
    flight := l.flight.filter fun c => !due c
    sink := l.sink ++ (l.flight.filter due).toList.flatMap Collection.told }

/-- The collection in flight ends if its end has come. -/
def settle (l : Lane) (now : Nat) : Lane := l.land fun c => c.ends ≤ now

/-- A round reaches the source: the collection in flight is joined, or one is started.  A source
that is not configured is not collected from. -/
def join (collect : Provider → Nat → Provider × Collection) (now : Nat) (l : Lane) :
    Lane × Option Collection :=
  match l.flight, l.provider with
  | some c, _ => (l, some c)
  | none, none => (l, none)
  | none, some provider =>
    let (provider, c) := collect provider now
    ({ l with
        provider := some provider
        flight := some c
        collections := l.collections ++ [c] }, some c)

/-- A round at a moment, with all that happens at its moment: what does not run any more ends before
it, and what ends at once ends right after it. -/
def round (collect : Provider → Nat → Provider × Collection) (now : Nat) (armed : Option Nat)
    (l : Lane) : Lane × Option Collection :=
  let (l, handle) := (l.land fun c => !c.runsAt now armed).join collect now
  (l.settle now, handle)

/-- Rounds in order. -/
def run (collect : Provider → Nat → Provider × Collection) (l : Lane)
    (rounds : List (Nat × Option Nat)) : Lane :=
  rounds.foldl (fun l r => (l.round collect r.1 r.2).1) l

/-- Whoever reaches a source is handed the collection in flight, whether it was there or has just
been started. -/
theorem flight_join (l : Lane) (collect : Provider → Nat → Provider × Collection) (now : Nat) :
    (l.join collect now).1.flight = (l.join collect now).2 := by
  unfold join
  split
  next h => exact h
  next h _ => exact h
  next => rfl

end Lane

namespace FanOut

variable {s : FanOut} {name source : String} {now : Nat}

/-- What a source sees.  The collections and the sink are those of all sources, with the others left
out. -/
def lane (s : FanOut) (name : String) : Lane where
  provider := s.providers.find? name
  flight := (s.flights.find? name).map Entry.call
  collections := (s.collections.map Entry.call).filter fun c => c.source = name
  sink := s.sink.filter fun t => t.2.source = name

theorem mem_lane {c : Collection} :
    c ∈ (s.lane name).collections ↔ ∃ e ∈ s.collections, e.call.source = name ∧ e.call = c := by
  show c ∈ (s.collections.map Entry.call).filter _ ↔ _
  rw [List.mem_filter, List.mem_map, decide_eq_true_eq]
  constructor
  · rintro ⟨⟨e, he, rfl⟩, hsource⟩
    exact ⟨e, he, hsource, rfl⟩
  · rintro ⟨e, he, hsource, rfl⟩
    exact ⟨⟨e, he, rfl⟩, hsource⟩

/-- The table and the collections that run are in step.  From this it follows that a collection that
ends takes itself out of the table, and nothing else. -/
structure Linked (s : FanOut) : Prop where
  /-- The table lists the one collection of a source that runs. -/
  listed : ∀ name, s.running.filter (fun e => e.call.source = name) = (s.flights.find? name).toList
  /-- What runs tells the sink of its own source only. -/
  own : ∀ e ∈ s.running, ∀ k ∈ e.call.sinkCalls, k.source = e.call.source
  known : ∀ e ∈ s.collections, (s.providers.find? e.call.source).isSome
  runs : s.running.Sublist s.collections

theorem linked_create (policy : CollectPolicy) (providers : SortedMap String Provider) :
    (create policy providers).Linked :=
  ⟨fun _ => rfl, fun _ h => (by cases h), fun _ h => (by cases h), List.Sublist.refl _⟩

theorem lane_create (policy : CollectPolicy) (providers : SortedMap String Provider)
    (name : String) :
    (create policy providers).lane name = ⟨providers.find? name, none, [], []⟩ := rfl

/-- A collection that the table lists runs, and it is one of the source it is listed for, so that
nobody is handed a collection of another source. -/
theorem Linked.mem_running (h : s.Linked) {e : Entry Collection}
    (hfind : s.flights.find? name = some e) : e ∈ s.running ∧ e.call.source = name := by
  have hmem : e ∈ s.running.filter fun e => e.call.source = name := by
    rw [h.listed, hfind]
    exact List.mem_singleton_self e
  exact ⟨List.mem_of_mem_filter hmem, of_decide_eq_true (List.mem_filter.mp hmem).2⟩

theorem Linked.find?_of_mem (h : s.Linked) {e : Entry Collection} (he : e ∈ s.running) :
    s.flights.find? e.call.source = some e := by
  have hmem : e ∈ s.running.filter fun e' => e'.call.source = e.call.source :=
    List.mem_filter.mpr ⟨he, decide_eq_true rfl⟩
  rw [h.listed] at hmem
  exact Option.mem_toList.mp hmem

/-- Only for a configured source a collection is in flight, since nothing is started for any
other. -/
theorem Linked.flight_eq_none (h : s.Linked) (hnone : s.providers.find? name = none) :
    s.flights.find? name = none := by
  cases hfind : s.flights.find? name with
  | none => rfl
  | some e =>
    obtain ⟨he, rfl⟩ := h.mem_running hfind
    have hknown := h.known e (h.runs.subset he)
    rw [hnone] at hknown
    cases hknown

/-! ## The end of collections -/

/-- The collections that end, in the order of their ends.  The sink is told of them in that
order. -/
def ended (s : FanOut) (due : Collection → Bool) : List (Entry Collection) :=
  (s.running.filter fun e => due e.call).mergeSort fun a b => a.call.ends ≤ b.call.ends

theorem foldl_finish (es : List (Entry Collection)) (s : FanOut) :
    es.foldl finish s =
      { s with
        flights := es.foldl (fun g e => g.land e.call.source e.id) s.flights
        sink := s.sink ++ es.flatMap fun e => e.call.told } := by
  induction es generalizing s with
  | nil => rw [List.flatMap_nil, List.append_nil]; rfl
  | cons e rest ih =>
    rw [List.foldl_cons, ih, List.flatMap_cons, ← List.append_assoc]
    rfl

theorem land_eq (s : FanOut) (due : Collection → Bool) :
    s.land due =
      { s with
        flights := (s.ended due).foldl (fun g e => g.land e.call.source e.id) s.flights
        running := s.running.filter fun e => !due e.call
        sink := s.sink ++ (s.ended due).flatMap fun e => e.call.told } := by
  unfold land
  rw [List.partition_eq_filter_filter]
  exact foldl_finish _ _

@[simp] theorem policy_land (s : FanOut) (due : Collection → Bool) :
    (s.land due).policy = s.policy := by rw [land_eq]

@[simp] theorem providers_land (s : FanOut) (due : Collection → Bool) :
    (s.land due).providers = s.providers := by rw [land_eq]

@[simp] theorem collections_land (s : FanOut) (due : Collection → Bool) :
    (s.land due).collections = s.collections := by rw [land_eq]

theorem running_land (s : FanOut) (due : Collection → Bool) :
    (s.land due).running = s.running.filter fun e => !due e.call := by rw [land_eq]

/-- Of the collections that end at most one is a certain source's: the one that the table lists.  So
what one source sees does not depend on how the ends are ordered. -/
theorem Linked.filter_ended (h : s.Linked) (due : Collection → Bool) (name : String) :
    (s.ended due).filter (fun e => e.call.source = name) =
      ((s.flights.find? name).filter fun e => due e.call).toList := by
  have hperm : ((s.ended due).filter fun e => e.call.source = name).Perm
      ((s.flights.find? name).filter fun e => due e.call).toList := by
    rw [Option.toList_filter, ← h.listed, List.filter_comm]
    exact (List.mergeSort_perm _ _).filter _
  -- a list of one element at most has no other order
  cases hfilter : (s.flights.find? name).filter fun e => due e.call with
  | none =>
    rw [hfilter] at hperm
    exact hperm.eq_nil
  | some e =>
    rw [hfilter] at hperm
    exact List.perm_singleton.mp hperm

theorem find?_flights_land (h : s.Linked) (due : Collection → Bool) (name : String) :
    (s.land due).flights.find? name = (s.flights.find? name).filter fun e => !due e.call := by
  rw [land_eq]
  refine Option.ext fun e => ?_
  rw [CallGroup.find?_landAll, Option.filter_eq_some_iff]
  refine and_congr_right fun hfind => ?_
  have hended := h.filter_ended due name
  rw [hfind] at hended
  cases hdue : due e.call with
  | true =>
    -- it is among those that end, and takes itself out of the table
    have hmem : e ∈ (s.ended due).filter fun e => e.call.source = name := by
      rw [hended, Option.filter_some, if_pos hdue]
      exact List.mem_singleton_self e
    obtain ⟨he, hsource⟩ := List.mem_filter.mp hmem
    exact ⟨fun hstays => absurd ⟨of_decide_eq_true hsource, rfl⟩ (hstays e he),
      fun h => (by cases h)⟩
  | false =>
    refine ⟨fun _ => rfl, fun _ w hw ⟨hsource, _⟩ => ?_⟩
    have hmem : w ∈ (s.ended due).filter fun e => e.call.source = name :=
      List.mem_filter.mpr ⟨hw, decide_eq_true hsource⟩
    rw [hended, Option.filter_some, if_neg (by rw [hdue]; exact Bool.false_ne_true)] at hmem
    cases hmem

/-- What the sink hears of one source when several collections end: what the source's own
collections tell it. -/
theorem filter_told (name : String) {es : List (Entry Collection)}
    (hown : ∀ e ∈ es, ∀ k ∈ e.call.sinkCalls, k.source = e.call.source) :
    (es.flatMap fun e => e.call.told).filter (fun t => t.2.source = name) =
      (es.filter fun e => e.call.source = name).flatMap fun e => e.call.told := by
  induction es with
  | nil => rfl
  | cons e rest ih =>
    obtain ⟨he, hrest⟩ := List.forall_mem_cons.mp hown
    have hsource : ∀ t ∈ e.call.told, t.2.source = e.call.source := List.forall_mem_map.mpr he
    rw [List.flatMap_cons, List.filter_append, ih hrest]
    by_cases hname : e.call.source = name
    · rw [List.filter_cons_of_pos (by simpa using hname), List.flatMap_cons,
        List.filter_eq_self.mpr fun t ht => decide_eq_true ((hsource t ht).trans hname)]
    · rw [List.filter_cons_of_neg (by simpa using hname), List.filter_eq_nil_iff.mpr fun t ht heq =>
        hname ((hsource t ht).symm.trans (of_decide_eq_true heq)), List.nil_append]

theorem Linked.land (h : s.Linked) (due : Collection → Bool) : (s.land due).Linked where
  listed name := by
    rw [running_land, List.filter_comm, h.listed, find?_flights_land h, Option.toList_filter]
  own e he := by
    rw [running_land] at he
    exact h.own e (List.mem_of_mem_filter he)
  known e he := by
    rw [collections_land] at he
    rw [providers_land]
    exact h.known e he
  runs := by
    rw [running_land, collections_land]
    exact List.filter_sublist.trans h.runs

/-- **On a lane, the end of collections is the end of its own.**  What ends on other lanes leaves no
trace on this one. -/
theorem lane_land (h : s.Linked) (due : Collection → Bool) (name : String) :
    (s.land due).lane name = (s.lane name).land due := by
  have hflight : ((s.land due).flights.find? name).map Entry.call =
      ((s.flights.find? name).map Entry.call).filter fun c => !due c := by
    rw [find?_flights_land h, Option.filter_map]
    rfl
  have hsink : (s.land due).sink.filter (fun t => t.2.source = name) =
      s.sink.filter (fun t => t.2.source = name) ++
        (((s.flights.find? name).map Entry.call).filter due).toList.flatMap Collection.told := by
    have hown : ∀ e ∈ s.ended due, ∀ k ∈ e.call.sinkCalls, k.source = e.call.source := by
      intro e he
      exact h.own e (List.mem_of_mem_filter ((List.mergeSort_perm _ _).subset he))
    rw [land_eq]
    show (s.sink ++ _).filter _ = _
    rw [List.filter_append, filter_told name hown, h.filter_ended, Option.filter_map,
      Option.toList_map, List.flatMap_map]
    rfl
  unfold lane Lane.land
  rw [hflight, hsink, providers_land, collections_land]

/-! ## Rounds -/

/-- A collection in flight is joined, and nothing changes. -/
theorem collectSource_of_flight {e : Entry Collection} (h : s.flights.find? source = some e)
    (now : Nat) : s.collectSource now source = (s, e) := by
  unfold collectSource
  rw [h]

/-- Without a collection in flight one is started, under the next number, and the provider is as the
collection leaves it. -/
theorem collectSource_of_absent {provider : Provider} (h : s.flights.find? source = none)
    (hp : s.providers.find? source = some provider) (now : Nat) :
    let made := s.policy.collect source provider now
    let e : Entry Collection := ⟨s.flights.nextId, made.2⟩
    s.collectSource now source =
      ({ s with
          providers := s.providers.insert source made.1
          flights := s.flights.launch source made.2
          running := s.running ++ [e]
          collections := s.collections ++ [e] }, e) := by
  unfold collectSource attempt
  rw [h, hp]

/-- A source is configured or not, whatever happens. -/
def SameSources (s s' : FanOut) : Prop :=
  ∀ name, (s'.providers.find? name).isSome = (s.providers.find? name).isSome

theorem Linked.collectSource (h : s.Linked) (hknown : (s.providers.find? source).isSome)
    (now : Nat) :
    (s.collectSource now source).1.Linked ∧ SameSources s (s.collectSource now source).1 := by
  cases hfind : s.flights.find? source with
  | some e =>
    rw [collectSource_of_flight hfind]
    exact ⟨h, fun _ => rfl⟩
  | none =>
    obtain ⟨provider, hp⟩ := Option.isSome_iff_exists.mp hknown
    -- to start a collection puts the provider back under its own name, as it is after its calls
    have hsame : SameSources s (s.collectSource now source).1 := by
      intro name
      rw [collectSource_of_absent hfind hp]
      show ((s.providers.insert source _).find? name).isSome = _
      rw [SortedMap.find?_insert]
      split
      next heq =>
        obtain rfl := Std.LawfulEqCmp.eq_of_compare heq
        rw [hp]
        rfl
      next => rfl
    refine ⟨?_, hsame⟩
    have hmade := CollectPolicy.source_collect s.policy source provider now
    constructor
    case listed =>
      intro name
      rw [collectSource_of_absent hfind hp]
      show (s.running ++ [_]).filter _ = ((s.flights.launch source _).find? name).toList
      rw [List.filter_append, h.listed, CallGroup.find?_launch]
      by_cases hname : name = source
      · subst hname
        rw [hfind, if_pos Std.ReflCmp.compare_self, List.filter_cons_of_pos (by simp)]
        rfl
      · rw [if_neg fun heq => hname (Std.LawfulEqCmp.eq_of_compare heq),
          List.filter_cons_of_neg (by simpa [hmade] using Ne.symm hname)]
        exact List.append_nil _
    case own =>
      rw [collectSource_of_absent hfind hp]
      refine List.forall_mem_append.mpr ⟨h.own, List.forall_mem_singleton.mpr ?_⟩
      rw [hmade]
      exact Collection.own_ofRun
    case known =>
      intro e he
      rw [hsame]
      rw [collectSource_of_absent hfind hp] at he
      rcases List.mem_append.mp he with he | he
      · exact h.known e he
      · rw [List.mem_singleton.mp he, hmade]
        exact hknown
    case runs =>
      rw [collectSource_of_absent hfind hp]
      exact h.runs.append_right _

@[simp] theorem policy_collectSource (s : FanOut) (now : Nat) (source : String) :
    (s.collectSource now source).1.policy = s.policy := by
  unfold collectSource
  cases s.flights.find? source <;> rfl

/-- On the source's own lane it is a round that reaches the source, and hands out the same
collection. -/
theorem lane_collectSource (hknown : (s.providers.find? source).isSome) (now : Nat) :
    let joined := (s.lane source).join (s.policy.collect source) now
    (s.collectSource now source).1.lane source = joined.1 ∧
      some (s.collectSource now source).2.call = joined.2 := by
  obtain ⟨provider, hp⟩ := Option.isSome_iff_exists.mp hknown
  cases hfind : s.flights.find? source with
  | some e =>
    rw [collectSource_of_flight hfind]
    unfold lane Lane.join
    rw [hfind]
    exact ⟨rfl, rfl⟩
  | none =>
    have hmade := CollectPolicy.source_collect s.policy source provider now
    rw [collectSource_of_absent hfind hp]
    unfold lane Lane.join
    rw [hfind, hp]
    simp only [SortedMap.find?_insert, CallGroup.find?_launch, if_pos Std.ReflCmp.compare_self,
      List.map_append, List.filter_append, List.map_cons, List.map_nil]
    rw [List.filter_cons_of_pos (by simp)]
    exact ⟨rfl, rfl⟩

/-- No other lane is touched: neither its provider nor its collections are looked at. -/
theorem lane_collectSource_of_ne (hknown : (s.providers.find? source).isSome)
    (hne : name ≠ source) (now : Nat) :
    (s.collectSource now source).1.lane name = s.lane name := by
  obtain ⟨provider, hp⟩ := Option.isSome_iff_exists.mp hknown
  have hcompare : ¬ compare name source = .eq := fun heq => hne (Std.LawfulEqCmp.eq_of_compare heq)
  cases hfind : s.flights.find? source with
  | some e => rw [collectSource_of_flight hfind]
  | none =>
    have hmade := CollectPolicy.source_collect s.policy source provider now
    rw [collectSource_of_absent hfind hp]
    unfold lane
    simp only [SortedMap.find?_insert, CallGroup.find?_launch, if_neg hcompare,
      List.map_append, List.filter_append, List.map_cons, List.map_nil]
    rw [List.filter_cons_of_neg (by simpa [hmade] using Ne.symm hne)]
    simp only [List.filter_nil, List.append_nil]

/-- What becomes of a state when a round reaches some sources: their lanes have been reached, and
all others are as before, as are their handles. -/
structure Reached (now : Nat) (names : List String) (s : FanOut) (r : Round) (s' : FanOut)
    (r' : Round) : Prop where
  linked : s'.Linked
  policy : s'.policy = s.policy
  sources : SameSources s s'
  lane : ∀ name ∈ names,
    s'.lane name = ((s.lane name).join (s.policy.collect name) now).1 ∧
      (r'.find? name).map Entry.call = ((s.lane name).join (s.policy.collect name) now).2
  others : ∀ name, name ∉ names → s'.lane name = s.lane name ∧ r'.find? name = r.find? name

/-- **A round reaches every source once**, and each on its own lane, in whatever order. -/
theorem Linked.reachAll (h : s.Linked) {names : List String} (hnodup : names.Nodup)
    (hknown : ∀ name ∈ names, (s.providers.find? name).isSome) (now : Nat) (r : Round) :
    Reached now names s r (names.foldl (reach now) (s, r)).1
      (names.foldl (reach now) (s, r)).2 := by
  induction names generalizing s r with
  | nil =>
    exact ⟨h, rfl, fun _ => rfl, fun _ hn => absurd hn List.not_mem_nil, fun _ _ => ⟨rfl, rfl⟩⟩
  | cons source rest ih =>
    obtain ⟨hfresh, hnodup⟩ := List.nodup_cons.mp hnodup
    obtain ⟨hsource, hrest⟩ := List.forall_mem_cons.mp hknown
    obtain ⟨hlinked, hsame⟩ := h.collectSource hsource now
    have hlater := ih hlinked hnodup (fun name hn => (hsame name).trans (hrest name hn))
      (r.insert source (s.collectSource now source).2)
    have hown := lane_collectSource hsource now
    rw [List.foldl_cons]
    constructor
    case linked => exact hlater.linked
    case policy => exact hlater.policy.trans (policy_collectSource s now source)
    case sources => exact fun name => (hlater.sources name).trans (hsame name)
    case lane =>
      refine List.forall_mem_cons.mpr ⟨?_, fun name hn => ?_⟩
      -- the sources that are reached later leave this one alone
      · obtain ⟨hlane, hfind⟩ := hlater.others source hfresh
        refine ⟨hlane.trans hown.1, ?_⟩
        rw [show ((rest.foldl (reach now) (reach now (s, r) source)).2.find? source) = _ from hfind,
          SortedMap.find?_insert, if_pos Std.ReflCmp.compare_self]
        exact hown.2
      · have hne : name ≠ source := fun heq => hfresh (heq ▸ hn)
        have hlane := hlater.lane name hn
        rw [policy_collectSource, lane_collectSource_of_ne hsource hne] at hlane
        exact hlane
    case others =>
      intro name hn
      rw [List.mem_cons, not_or] at hn
      obtain ⟨hne, hn⟩ := hn
      obtain ⟨hlane, hfind⟩ := hlater.others name hn
      refine ⟨hlane.trans (lane_collectSource_of_ne hsource hne now), hfind.trans ?_⟩
      rw [SortedMap.find?_insert, if_neg fun heq => hne (Std.LawfulEqCmp.eq_of_compare heq)]

/-- A step works on every lane as an operation of the lane's own, and hands out what that yields.
This is the form in which a round of many sources is used. -/
structure OnLanes (op : String → Lane → Lane × Option Collection) (s s' : FanOut) (r : Round) :
    Prop where
  linked : s'.Linked
  policy : s'.policy = s.policy
  sources : SameSources s s'
  lane : ∀ name, s'.lane name = (op name (s.lane name)).1 ∧
    (r.find? name).map Entry.call = (op name (s.lane name)).2
  /-- What is handed out for a source is one of its collections. -/
  handed : ∀ name e, r.find? name = some e → e.call ∈ (s'.lane name).collections

theorem Linked.dispatchAll (h : s.Linked) (now : Nat) :
    OnLanes (fun name => Lane.join (s.policy.collect name) now) s (s.dispatchAll now).1
      (s.dispatchAll now).2 := by
  have hreached := h.reachAll s.providers.nodup_keys
    (fun name hn => SortedMap.mem_keys.mp hn) now .empty
  have hlane : ∀ name,
      (s.dispatchAll now).1.lane name = ((s.lane name).join (s.policy.collect name) now).1 ∧
        ((s.dispatchAll now).2.find? name).map Entry.call =
          ((s.lane name).join (s.policy.collect name) now).2 := by
    intro name
    by_cases hn : name ∈ s.providers.keys
    · exact hreached.lane name hn
    obtain ⟨hsame, hfind⟩ := hreached.others name hn
    have hnone : s.providers.find? name = none :=
      Option.not_isSome_iff_eq_none.mp fun hsome => hn (SortedMap.mem_keys.mpr hsome)
    have hjoin : (s.lane name).join (s.policy.collect name) now = (s.lane name, none) := by
      unfold lane Lane.join
      rw [h.flight_eq_none hnone, hnone]
      rfl
    rw [hjoin]
    exact ⟨hsame, congrArg (Option.map Entry.call) hfind⟩
  refine ⟨hreached.linked, hreached.policy, hreached.sources, hlane, fun name e he => ?_⟩
  -- what is handed out is what the table lists from then on
  have hflight : some e.call = ((s.dispatchAll now).1.flights.find? name).map Entry.call := by
    calc some e.call
        = ((s.dispatchAll now).2.find? name).map Entry.call := by rw [he]; rfl
      _ = ((s.lane name).join (s.policy.collect name) now).1.flight := by
          rw [(hlane name).2, Lane.flight_join]
      _ = ((s.dispatchAll now).1.lane name).flight := by rw [(hlane name).1]
  obtain ⟨e', he', hcall⟩ := Option.map_eq_some_iff.mp hflight.symm
  obtain ⟨hrun, hsource⟩ := hreached.linked.mem_running he'
  rw [← hcall]
  exact mem_lane.mpr ⟨e', hreached.linked.runs.subset hrun, hsource, rfl⟩

/-- **On every lane, a round is a round of the lane's own**, with the same handle. -/
theorem Linked.round (h : s.Linked) (now : Nat) (armed : Option Nat) :
    OnLanes (fun name => Lane.round (s.policy.collect name) now armed) s (s.round now armed).1
      (s.round now armed).2 := by
  have hdispatched := (h.land fun c => !c.runsAt now armed).dispatchAll now
  show OnLanes _ s (((s.land _).dispatchAll now).1.settle now) ((s.land _).dispatchAll now).2
  constructor
  case linked => exact hdispatched.linked.land _
  case policy => exact (policy_land _ _).trans (hdispatched.policy.trans (policy_land _ _))
  case sources =>
    intro name
    have hsame := hdispatched.sources name
    rw [providers_land] at hsame
    unfold settle
    rw [providers_land]
    exact hsame
  case lane =>
    intro name
    obtain ⟨hlane, hhandle⟩ := hdispatched.lane name
    rw [lane_land h, policy_land] at hlane hhandle
    unfold settle
    rw [lane_land hdispatched.linked, hlane]
    exact ⟨rfl, hhandle⟩
  case handed =>
    intro name e he
    unfold settle
    rw [lane_land hdispatched.linked]
    exact hdispatched.handed name e he

/-- What a source sees of many rounds is a run of its own.  The policy stays the same, and so does
the way in which the source is collected from. -/
theorem Linked.run (h : s.Linked) (rounds : List (Nat × Option Nat)) :
    (s.run rounds).Linked ∧ (s.run rounds).policy = s.policy ∧
      ∀ name, (s.run rounds).lane name = (s.lane name).run (s.policy.collect name) rounds := by
  induction rounds generalizing s with
  | nil => exact ⟨h, rfl, fun _ => rfl⟩
  | cons r rest ih =>
    have hround := h.round r.1 r.2
    obtain ⟨hlinked, hpolicy, hlane⟩ := ih hround.linked
    refine ⟨hlinked, hpolicy.trans hround.policy, fun name => (hlane name).trans ?_⟩
    rw [(hround.lane name).1, hround.policy]
    rfl

end FanOut

end Telemetry
