import Telemetry.Coalesce.CallSession

/-! # What the table of a call group lists

At every moment up to which everything has happened, the table lists exactly the calls that run,
under their keys and numbers (`Consistent.listed`).  A call that ends takes itself out and nothing
else (`find?_land`), because it asks for its own number, and the table never lists two calls with
one number.

The invariant speaks of four things at once: the numbers, the order of the calls for one key, the
calls that still run, and the table.  Letting time pass (`Consistent.settle`) and every event
(`Consistent.apply`) keep it.  The order in which several calls land at one moment is left open; it
makes no difference, since what is found in the table afterwards depends only on which calls have
landed (`find?_landAll`), and a table is determined by what is found in it (`ext_find?`).
-/

namespace Telemetry

namespace CallGroup

variable {κ φ ω : Type} [Ord κ]

theorem isInFlight_iff {g : CallGroup κ φ} {k : κ} :
    g.isInFlight k = true ↔ ∃ e, g.find? k = some e := Option.isSome_iff_exists

theorem nextId_landAll (works : List ω) (key : ω → κ) (id : ω → Nat) (g : CallGroup κ φ) :
    (works.foldl (fun g w => g.land (key w) (id w)) g).nextId = g.nextId := by
  induction works generalizing g with
  | nil => rfl
  | cons w rest ih =>
    rw [List.foldl_cons, ih]
    unfold land
    split <;> rfl

variable [Std.TransOrd κ] [Std.LawfulEqOrd κ]

theorem find?_launch (g : CallGroup κ φ) (k k' : κ) (call : φ) :
    (g.launch k call).find? k' =
      if compare k' k = .eq then some ⟨g.nextId, call⟩ else g.find? k' :=
  SortedMap.find?_insert g.flights k k' _

/-- A landing takes out one flight and nothing else: whoever has taken the place of the flight in
the meantime has another number, and stays. -/
theorem find?_land (g : CallGroup κ φ) (k k' : κ) (id : Nat) (e : Entry φ) :
    (g.land k id).find? k' = some e ↔ g.find? k' = some e ∧ ¬ (k = k' ∧ id = e.id) := by
  unfold land
  split
  next hlisted =>
    obtain ⟨own, hown, hid⟩ := Option.map_eq_some_iff.mp hlisted
    have herase : ({ g with flights := g.flights.erase k } : CallGroup κ φ).find? k' =
        if compare k' k = .eq then none else g.find? k' := SortedMap.find?_erase g.flights k k'
    rw [herase]
    by_cases hk : compare k' k = .eq
    · -- under its own key nothing is left, and what was listed had the number
      obtain rfl := Std.LawfulEqCmp.eq_of_compare hk
      rw [if_pos hk, hown]
      constructor
      · intro h
        cases h
      · rintro ⟨h, hother⟩
        obtain rfl := Option.some.inj h
        exact absurd ⟨rfl, hid.symm⟩ hother
    · have hne : k ≠ k' := fun h => hk (h ▸ Std.ReflCmp.compare_self)
      rw [if_neg hk]
      exact ⟨fun h => ⟨h, fun hsame => hne hsame.1⟩, And.left⟩
  next hother =>
    refine ⟨fun h => ⟨h, ?_⟩, And.left⟩
    rintro ⟨rfl, rfl⟩
    rw [h] at hother
    exact hother rfl

/-- What is left when several calls have landed, in whatever order.  A flight stays when none of
them is its own. -/
theorem find?_landAll (works : List ω) (key : ω → κ) (id : ω → Nat) (g : CallGroup κ φ) (k : κ)
    (e : Entry φ) :
    (works.foldl (fun g w => g.land (key w) (id w)) g).find? k = some e ↔
      g.find? k = some e ∧ ∀ w ∈ works, ¬ (key w = k ∧ id w = e.id) := by
  induction works generalizing g with
  | nil => simp
  | cons w rest ih =>
    rw [List.foldl_cons, ih, find?_land, List.forall_mem_cons, and_assoc]

/-- Two tables in which the same is found and which number alike are the same.  So the invariant
determines the table, and two ways of coming to it need not be compared step by step. -/
theorem ext_find? {g g' : CallGroup κ φ} (h : ∀ k, g.find? k = g'.find? k)
    (hnext : g.nextId = g'.nextId) : g = g' := by
  have hflights : g.flights = g'.flights := SortedMap.ext_find? h
  cases g
  cases g'
  cases hflights
  cases hnext
  rfl

end CallGroup

namespace Flight

variable {α : Type} {f : Flight α} {now later e : Nat}

theorem endedBy_eq_some : f.endedBy now = some e ↔ f.ends = some e ∧ e ≤ now := by
  unfold endedBy
  rw [Option.filter_eq_some_iff]
  simp

theorem endedBy_mono (h : f.endedBy now = some e) (hle : now ≤ later) :
    f.endedBy later = some e := by
  rw [endedBy_eq_some] at h ⊢
  exact ⟨h.1, Nat.le_trans h.2 hle⟩

/-- What still runs later has been running all along, since the end of a flight is fixed when it
starts. -/
theorem endedBy_eq_none_of_le (h : f.endedBy later = none) (hle : now ≤ later) :
    f.endedBy now = none := by
  cases hnow : f.endedBy now with
  | none => rfl
  | some e =>
    rw [endedBy_mono hnow hle] at h
    cases h

end Flight

/-- Settling twice is settling once, at the later moment.  A caller who waits is handed the moment
of the end with the outcome, and not that of the settling. -/
theorem Caller.settle_settle {α : Type} (c : Caller α) {t u : Nat} (hle : t ≤ u) :
    (c.settle t).settle u = c.settle u := by
  cases c with
  | done | dropped => rfl
  | waiting f joined =>
    cases ht : f.endedBy t with
    | none => simp [settle, ht]
    | some e => simp [settle, ht, Flight.endedBy_mono ht hle]

theorem GroupAnswer.settle_settle {α : Type} (a : GroupAnswer α) {t u : Nat} (hle : t ≤ u) :
    (a.mapCaller (Caller.settle t)).mapCaller (Caller.settle u) =
      a.mapCaller (Caller.settle u) := by
  cases a with
  | caller c => exact congrArg GroupAnswer.caller (c.settle_settle hle)
  | isInFlight | count | nothing => rfl

/-- The first of two calls is over when the second starts.  It may end just at that moment. -/
def Work.Before {κ α : Type} (a b : Work κ α) : Prop :=
  ∃ e, a.flight.ends = some e ∧ e ≤ b.flight.started

namespace CallSession

variable {κ α : Type} [Ord κ]

/-- A session at a moment up to which nothing has been missed: the calls are numbered as they came,
those of one key do not overlap, whatever does not run any more is over, and the table lists just
what runs.  A call that does not run any more need not have been awaited by anybody.  That the table
lists just what runs is what makes a call group a group: whether a key is in flight can be read off
the calls, without a look at the table. -/
structure Consistent (now : Nat) (s : CallSession κ α) : Prop where
  numbered : ∀ i (w : Work κ α), s.works[i]? = some w → w.id = i
  next : s.group.nextId = s.works.length
  started : ∀ w ∈ s.works, w.flight.started ≤ now
  apart : s.works.Pairwise fun a b => a.key = b.key → a.Before b
  runs : s.running.Sublist s.works
  finished : ∀ w ∈ s.works, w ∉ s.running → ∃ e, w.flight.endedBy now = some e
  listed : ∀ k e, s.group.find? k = some e ↔ ⟨k, e.id, e.call⟩ ∈ s.running

/-- Nothing is due: what runs has not ended. -/
def Settled (now : Nat) (s : CallSession κ α) : Prop :=
  ∀ w ∈ s.running, w.flight.endedBy now = none

theorem consistent_empty (now : Nat) : (empty : CallSession κ α).Consistent now where
  numbered _ _ h := by cases h
  next := rfl
  started _ h := by cases h
  apart := List.Pairwise.nil
  runs := List.Sublist.refl _
  finished _ h := by cases h
  listed _ _ := ⟨fun h => (by cases h), fun h => (by cases h)⟩

/-- The calls that still run once all that is due has happened: those whose end has not come. -/
theorem running_settle (s : CallSession κ α) (now : Nat) :
    (s.settle now).running = s.running.filter fun w => (w.flight.endedBy now).isNone := by
  unfold settle
  rw [List.partition_eq_filter_filter]
  refine List.filter_congr fun w _ => ?_
  show (!(w.flight.endedBy now).isSome) = (w.flight.endedBy now).isNone
  cases w.flight.endedBy now <;> rfl

/-- The table once all that is due has happened: the calls that have ended have landed, one after
the other. -/
theorem group_settle (s : CallSession κ α) (now : Nat) :
    (s.settle now).group = (s.running.filter fun w => (w.flight.endedBy now).isSome).foldl
      (fun g w => g.land w.key w.id) s.group := by
  unfold settle
  rw [List.partition_eq_filter_filter]

theorem settled_settle (s : CallSession κ α) (now : Nat) : (s.settle now).Settled now := by
  intro w hw
  rw [running_settle] at hw
  exact Option.isNone_iff_eq_none.mp (List.mem_filter.mp hw).2

namespace Consistent

variable {now later : Nat} {s s' : CallSession κ α} {w w' : Work κ α}

/-- A number is that of one call only, for it is the place of the call in the record. -/
theorem eq_of_id (h : s.Consistent now) (hw : w ∈ s.works) (hw' : w' ∈ s.works)
    (hid : w.id = w'.id) : w = w' := by
  obtain ⟨i, hi⟩ := List.getElem?_of_mem hw
  obtain ⟨j, hj⟩ := List.getElem?_of_mem hw'
  rw [h.numbered i w hi, h.numbered j w' hj] at hid
  rw [hid, hj] at hi
  exact (Option.some.inj hi).symm

theorem id_lt (h : s.Consistent now) (hw : w ∈ s.works) : w.id < s.works.length := by
  obtain ⟨i, hi⟩ := List.getElem?_of_mem hw
  rw [h.numbered i w hi]
  exact (List.getElem?_eq_some_iff.mp hi).1

/-- A call runs until it ends, and no longer, though nobody may wait for it any more. -/
theorem mem_running_iff (h : s.Consistent now) (hs : s.Settled now) :
    w ∈ s.running ↔ w ∈ s.works ∧ w.flight.endedBy now = none := by
  constructor
  · intro hw
    exact ⟨h.runs.subset hw, hs w hw⟩
  · rintro ⟨hw, hgoes⟩
    by_cases hrun : w ∈ s.running
    · exact hrun
    · obtain ⟨e, he⟩ := h.finished w hw hrun
      rw [hgoes] at he
      cases he

/-- One call for a key runs at most: the table has one place for a key, and lists all that runs. -/
theorem eq_of_key (h : s.Consistent now) (hw : w ∈ s.running) (hw' : w' ∈ s.running)
    (hkey : w.key = w'.key) : w = w' := by
  have hfind := (h.listed w.key ⟨w.id, w.flight⟩).mpr hw
  have hfind' := (h.listed w'.key ⟨w'.id, w'.flight⟩).mpr hw'
  rw [hkey, hfind'] at hfind
  have hsame : w'.id = w.id := congrArg Entry.id (Option.some.inj hfind)
  exact h.eq_of_id (h.runs.subset hw) (h.runs.subset hw') hsame.symm

/-- The calls that run have different keys.  This is said of the list, in which the same call does
not occur twice either. -/
theorem keys_apart (h : s.Consistent now) :
    s.running.Pairwise fun a b => a.key ≠ b.key := by
  have hids : s.works.Pairwise fun a b => a.id ≠ b.id := by
    rw [List.pairwise_iff_getElem]
    intro i j hi hj hlt
    rw [h.numbered i _ (List.getElem?_eq_getElem hi), h.numbered j _ (List.getElem?_eq_getElem hj)]
    exact Nat.ne_of_lt hlt
  refine (hids.sublist h.runs).imp_of_mem fun {a b} ha hb hid hkey => hid ?_
  rw [h.eq_of_key ha hb hkey]

/-- A key without a flight: its calls are over, so that a new one keeps its distance from all of
them. -/
theorem over_of_absent (h : s.Consistent now) {k : κ} (habsent : s.group.find? k = none)
    (hw : w ∈ s.works) (hkey : w.key = k) : ∃ e, w.flight.endedBy now = some e := by
  refine h.finished w hw fun hrun => ?_
  have hfind := (h.listed w.key ⟨w.id, w.flight⟩).mpr hrun
  rw [hkey, habsent] at hfind
  cases hfind

variable [Std.TransOrd κ] [Std.LawfulEqOrd κ]

/-- Letting time pass keeps a session consistent.  What ends is taken out of the table and of the
calls that run alike. -/
theorem settle (h : s.Consistent now) (hle : now ≤ later) :
    (s.settle later).Consistent later where
  numbered := h.numbered
  next := by rw [group_settle, CallGroup.nextId_landAll, h.next]; rfl
  started w hw := Nat.le_trans (h.started w hw) hle
  apart := h.apart
  runs := by
    rw [running_settle]
    exact List.filter_sublist.trans h.runs
  finished := by
    intro w hw hnot
    rw [running_settle, List.mem_filter, Option.isNone_iff_eq_none, not_and] at hnot
    by_cases hrun : w ∈ s.running
    · exact Option.ne_none_iff_exists'.mp (hnot hrun)
    · obtain ⟨e, he⟩ := h.finished w hw hrun
      exact ⟨e, Flight.endedBy_mono he hle⟩
  listed := by
    intro k e
    rw [running_settle, List.mem_filter, Option.isNone_iff_eq_none]
    rw [group_settle, CallGroup.find?_landAll, h.listed k e]
    refine and_congr_right fun hrun => ?_
    constructor
    · intro hstays
      cases hend : e.call.endedBy later with
      | none => rfl
      | some u =>
        refine absurd ⟨rfl, rfl⟩ (hstays ⟨k, e.id, e.call⟩ (List.mem_filter.mpr ⟨hrun, ?_⟩))
        show (e.call.endedBy later).isSome = true
        rw [hend]
        rfl
    · rintro hgoes w hw ⟨-, hid⟩
      -- the number is that of the call which still runs
      obtain ⟨hw, hended⟩ := List.mem_filter.mp hw
      obtain rfl := h.eq_of_id (h.runs.subset hw) (h.runs.subset hrun) hid
      rw [hgoes] at hended
      cases hended

/-- A call keeps a session consistent: it joins and changes nothing, or it starts a flight for a key
that has none, with a number that no other has. -/
theorem call (h : s.Consistent now) (k : κ) (work : Call α) :
    (s.call now k work).Consistent now := by
  unfold CallSession.call
  cases hfind : s.group.find? k with
  | some e => exact ⟨h.numbered, h.next, h.started, h.apart, h.runs, h.finished, h.listed⟩
  | none =>
    constructor
    · intro i w hw
      rcases Nat.lt_trichotomy i s.works.length with hlt | rfl | hgt
      · rw [List.getElem?_append_left hlt] at hw
        exact h.numbered i w hw
      · rw [List.getElem?_concat_length] at hw
        obtain rfl := Option.some.inj hw
        exact h.next
      · rw [List.getElem?_eq_none (by rw [List.length_append, List.length_singleton]; omega)] at hw
        cases hw
    · show s.group.nextId + 1 = _
      rw [h.next, List.length_append, List.length_singleton]
    · intro w hw
      rcases List.mem_append.mp hw with hw | hw
      · exact h.started w hw
      · rw [List.mem_singleton.mp hw]
        exact Nat.le_refl now
    · refine List.pairwise_append.mpr ⟨h.apart, List.pairwise_singleton _ _, ?_⟩
      intro w hw w' hw' hkey
      rw [List.mem_singleton.mp hw'] at hkey ⊢
      -- the table lists no call for the key, so the earlier ones are over
      obtain ⟨e, he⟩ := h.over_of_absent hfind hw hkey
      exact ⟨e, Flight.endedBy_eq_some.mp he⟩
    · exact h.runs.append_right _
    · -- the new call runs, even if it is over at once
      intro w hw hnot
      rcases List.mem_append.mp hw with hw | hw
      · exact h.finished w hw fun hrun => hnot (List.mem_append_left _ hrun)
      · exact absurd (List.mem_append_right _ hw) hnot
    · intro k' e
      show (s.group.launch k _).find? k' = some e ↔ _
      rw [CallGroup.find?_launch, List.mem_append, List.mem_singleton]
      by_cases hk : compare k' k = .eq
      · obtain rfl := Std.LawfulEqCmp.eq_of_compare hk
        rw [if_pos hk, ← h.listed, hfind]
        constructor
        · intro he
          obtain rfl := Option.some.inj he
          exact .inr rfl
        · rintro (he | he)
          · cases he
          · injection he with _ hid hcall
            cases e
            cases hid
            cases hcall
            rfl
      · rw [if_neg hk, h.listed]
        refine ⟨.inl, ?_⟩
        rintro (he | he)
        · exact he
        · injection he with hkey
          exact absurd (hkey ▸ Std.ReflCmp.compare_self) hk

/-- What happens keeps a session consistent: only a call that starts changes more than the
answers. -/
theorem apply (h : s.Consistent now) (e : GroupEvent κ α) : (s.apply now e).Consistent now := by
  cases e with
  | run k work => exact h.call k work
  | isInFlight | count | drop =>
    exact ⟨h.numbered, h.next, h.started, h.apart, h.runs, h.finished, h.listed⟩

/-- The table follows from the calls: two consistent sessions with the same calls, and the same of
them still running, have the same table. -/
theorem group_eq (h : s.Consistent now) (h' : s'.Consistent later)
    (hruns : s.running = s'.running) (hworks : s.works = s'.works) : s.group = s'.group := by
  refine CallGroup.ext_find? (fun k => Option.ext fun e => ?_) ?_
  · rw [h.listed, h'.listed, hruns]
  · rw [h.next, h'.next, hworks]

/-- Settling at a moment in between makes no difference.  Hence one may look at a session at any
moment without disturbing what is seen later. -/
theorem settle_settle (h : s.Consistent now) {t u : Nat} (hnow : now ≤ t) (hle : t ≤ u) :
    (s.settle t).settle u = s.settle u := by
  have hruns : ((s.settle t).settle u).running = (s.settle u).running := by
    rw [running_settle, running_settle, running_settle, List.filter_filter]
    refine List.filter_congr fun w _ => ?_
    cases hu : w.flight.endedBy u with
    | none => rw [Flight.endedBy_eq_none_of_le hu hle]; rfl
    | some e => rfl
  -- nothing is said about the order of landings: the table follows from what still runs
  have hgroup := group_eq ((h.settle hnow).settle hle) (h.settle (Nat.le_trans hnow hle))
    hruns rfl
  have hanswers : ((s.settle t).settle u).answers = (s.settle u).answers := by
    show (s.answers.map _).map _ = s.answers.map _
    rw [List.map_map]
    exact List.map_congr_left fun a _ => a.settle_settle hle
  calc (s.settle t).settle u
      = ⟨((s.settle t).settle u).group, ((s.settle t).settle u).running, s.works,
          ((s.settle t).settle u).answers⟩ := rfl
    _ = s.settle u := by rw [hgroup, hruns, hanswers]; rfl

end Consistent

end CallSession

end Telemetry
