import Mathlib.Data.List.Induction
import Telemetry.Collector.Loop
import Telemetry.Proofs.Collector.Exposition
import Telemetry.Proofs.Model.Snapshot

/-! # What an export says of the reports

A series is found by its labels written one after the other, so two identities can share one: they
clash (`Clash`).  An export shows every reported identity with its own last value if and only if no
two of them clash; two that do are one series, which goes under the labels that came first and holds
the value that came last (`Exports`).

What the sink was told is a list of calls, and everything is stated about that list: the values of
one identity (`valuesOf`), those under one key (`valuesUnder`), and the failures of a source
(`failuresOf`).  One induction along the list says what a series holds (`find?_series_after`); the
rest compares the two ways of looking at the values, which agree for an identity that no other
clashes with (`Alone.valuesUnder_eq`).

The order in which identities take their turns is of no account as long as none clash
(`after_congr`), and the smallest clash is one of two sensors whose ids and names are written alike
one after the other (`unfaithful_of_shifted_labels`).
-/

namespace Telemetry

/-- Two identities that differ and are written alike.  Nothing separates one label from the next, so
that a character may stand at the end of one or at the beginning of the other. -/
def SeriesLabels.Clash (a b : SeriesLabels) : Prop := a.key = b.key ∧ a ≠ b

/-! ## What was told -/

namespace SinkCall

/-- The values that were reported, in order. -/
def values (calls : List SinkCall) : List SeriesValue := calls.filterMap value?

/-- Whether a value was reported of an identity. -/
def Reported (calls : List SinkCall) (l : SeriesLabels) : Prop := ∃ v ∈ values calls, v.labels = l

/-- The values that were reported of one identity. -/
def valuesOf (calls : List SinkCall) (l : SeriesLabels) : List SeriesValue :=
  (values calls).filter fun v => v.labels = l

/-- The values that were reported under one key, of whatever identities these were. -/
def valuesUnder (calls : List SinkCall) (key : String) : List SeriesValue :=
  (values calls).filter fun v => v.labels.key = key

/-- The number of failures that were recorded of a source. -/
def failuresOf (calls : List SinkCall) (source : String) : Nat := calls.count (.failure source)

theorem valuesUnder_concat (calls : List SinkCall) (c : SinkCall) (key : String) :
    valuesUnder (calls ++ [c]) key =
      valuesUnder calls key ++ c.value?.toList.filter fun v => v.labels.key = key := by
  unfold valuesUnder values
  rw [List.filterMap_append, List.filter_append]
  cases c <;> rfl

theorem failuresOf_concat (calls : List SinkCall) (c : SinkCall) (source : String) :
    failuresOf (calls ++ [c]) source =
      failuresOf calls source + if c = .failure source then 1 else 0 := by
  unfold failuresOf
  rw [List.count_append, List.count_singleton]
  simp only [beq_iff_eq]

end SinkCall

open SinkCall

namespace Metrics

/-- What a sink that counts failures holds after all it was told, beginning with nothing. -/
def after (calls : List SinkCall) : Metrics := calls.foldl (take true) empty

theorem after_concat (calls : List SinkCall) (c : SinkCall) :
    after (calls ++ [c]) = (after calls).take true c :=
  List.foldl_concat ..

/-- A report is seen under its key, with the labels that were there.  The labels of the report
itself are kept only if it is the first under the key. -/
theorem find?_report (m : Metrics) (v : SeriesValue) (key : String) :
    (m.report v).series.find? key =
      if v.labels.key = key then
        some ⟨((m.series.find? key).map SeriesValue.labels).getD v.labels, v.value⟩
      else m.series.find? key := by
  unfold report
  rw [SortedMap.find?_insert]
  by_cases hkey : v.labels.key = key
  · subst hkey
    rw [if_pos Std.ReflCmp.compare_self, if_pos rfl]
    cases m.series.find? v.labels.key <;> rfl
  · rw [if_neg fun heq => hkey (Std.LawfulEqCmp.eq_of_compare heq).symm, if_neg hkey]

/-- A series has the labels that came first under its key and the value that came last.  Both are
taken from the values under the key, so that nothing else has to be known of the state. -/
theorem find?_series_after (calls : List SinkCall) (key : String) :
    (after calls).series.find? key =
      (valuesUnder calls key).head?.bind fun first =>
        (valuesUnder calls key).getLast?.map fun last => ⟨first.labels, last.value⟩ := by
  induction calls using List.reverseRecOn with
  | nil => rfl
  | append_singleton calls c ih =>
    rw [after_concat, valuesUnder_concat]
    cases c with
    | failure source =>
      rw [SinkCall.value?, Option.toList_none, List.filter_nil, List.append_nil]
      exact ih
    | report v =>
      rw [SinkCall.value?, Option.toList_some]
      show ((after calls).report v).series.find? key = _
      rw [find?_report, ih]
      by_cases hkey : v.labels.key = key
      · -- the value is the last one from now on, and the first one if there was none
        rw [if_pos hkey, List.filter_cons_of_pos (by simpa using hkey), List.filter_nil]
        cases hearlier : valuesUnder calls key with
        | nil => rfl
        | cons first rest =>
          rw [List.getLast?_concat, List.getLast?_cons, List.cons_append, List.head?_cons,
            List.head?_cons]
          rfl
      · rw [if_neg hkey, List.filter_cons_of_neg (by simpa using hkey), List.filter_nil,
          List.append_nil]

/-- The counter of a source is there from its first failure on, and a source without failures has
none. -/
theorem find?_failures_after (calls : List SinkCall) (source : String) :
    (after calls).failures.find? source =
      if failuresOf calls source = 0 then none else some (failuresOf calls source) := by
  induction calls using List.reverseRecOn with
  | nil => rfl
  | append_singleton calls c ih =>
    rw [after_concat, failuresOf_concat]
    cases c with
    | report v =>
      have hother : ¬ SinkCall.report v = .failure source := nofun
      rw [if_neg hother]
      exact ih
    | failure failed =>
      show ((after calls).failures.insert failed _).find? source = _
      rw [SortedMap.find?_insert]
      by_cases hsource : failed = source
      · subst hsource
        rw [if_pos Std.ReflCmp.compare_self, if_pos rfl, if_neg (Nat.succ_ne_zero _), ih]
        split
        next hzero => rw [hzero]; rfl
        next => rfl
      · rw [if_neg fun heq => hsource (Std.LawfulEqCmp.eq_of_compare heq).symm,
          if_neg fun heq => hsource (SinkCall.failure.inj heq), ih, Nat.add_zero]

end Metrics

/-! ## The samples of an identity -/

theorem SeriesLabels.eq_of_pairs {a b : SeriesLabels}
    (h : a.pairs.map Prod.snd = b.pairs.map Prod.snd) : a = b := by
  simp only [pairs, List.map_cons, List.map_nil, List.cons.injEq, and_true] at h
  obtain ⟨hid, hname, htype, hsource, hsensor, hsensorName, hsensorType⟩ := h
  exact SeriesLabels.ext hsource hid hname htype hsensor hsensorName hsensorType

namespace Exposition

namespace Point

/-- Whether a sample shows the value of an identity, every label under its own name.  The names of
the labels are those of the exported text, in the order in which it lists them. -/
def ShowsValueOf (s : Point) (l : SeriesLabels) : Prop :=
  s.name = "sensor_value" ∧
    s.labels = [("hardware_id", l.hardwareId), ("hardware_name", l.hardwareName),
      ("hardware_type", l.hardwareType), ("host", l.source), ("sensor_id", l.sensorId),
      ("sensor_name", l.sensorName), ("sensor_type", l.sensorType)]

/-- Whether a sample shows the failures of a source. -/
def ShowsFailuresOf (s : Point) (source : String) : Prop :=
  s.name = "sensor_collect_failures_total" ∧ s.labels = [("host", source)]

instance (s : Point) (l : SeriesLabels) : Decidable (s.ShowsValueOf l) :=
  inferInstanceAs (Decidable (_ ∧ _))

instance (s : Point) (source : String) : Decidable (s.ShowsFailuresOf source) :=
  inferInstanceAs (Decidable (_ ∧ _))

@[simp] theorem showsValueOf_ofValue {v : SeriesValue} {l : SeriesLabels} :
    (ofValue v).ShowsValueOf l ↔ v.labels = l :=
  ⟨fun h => SeriesLabels.eq_of_pairs (congrArg _ h.2),
    fun h => ⟨rfl, congrArg SeriesLabels.pairs h⟩⟩

@[simp] theorem not_showsValueOf_ofFailures {e : String × Nat} {l : SeriesLabels} :
    ¬ (ofFailures e).ShowsValueOf l := by
  rintro ⟨hname, -⟩
  exact absurd (show "sensor_collect_failures_total" = "sensor_value" from hname) (by decide)

@[simp] theorem showsFailuresOf_ofFailures {e : String × Nat} {source : String} :
    (ofFailures e).ShowsFailuresOf source ↔ e.1 = source := by
  simp [ShowsFailuresOf, ofFailures]

@[simp] theorem not_showsFailuresOf_ofValue {v : SeriesValue} {source : String} :
    ¬ (ofValue v).ShowsFailuresOf source := by
  rintro ⟨hname, -⟩
  exact absurd (show "sensor_value" = "sensor_collect_failures_total" from hname) (by decide)

end Point

end Exposition

open Exposition

namespace Metrics

/-- The values of an identity in an export are those of its series: no sample of a failure is taken
for one. -/
theorem filter_showsValueOf (m : Metrics) (l : SeriesLabels) :
    m.samples.filter (·.ShowsValueOf l) =
      (m.sortedSeries.filter fun v => v.labels = l).map .ofValue := by
  unfold samples
  rw [List.filter_append, List.filter_map, List.filter_map]
  simp [Function.comp_def]

/-- The failures of a source in an export are those of its counter. -/
theorem filter_showsFailuresOf (m : Metrics) (source : String) :
    m.samples.filter (·.ShowsFailuresOf source) =
      (m.failures.find? source).toList.map fun count => .ofFailures (source, count) := by
  have hcounter : m.failures.entries.filter (fun e => e.1 = source) =
      (m.failures.find? source).toList.map fun count => (source, count) := by
    rw [SortedMap.find?, ← SortedMap.filter_of_findIn source m.failures.ascending, List.map_map]
    refine (List.map_id' _).symm.trans (List.map_congr_left fun e he => ?_)
    rw [Function.comp_apply, ← of_decide_eq_true (List.mem_filter.mp he).2]
  unfold samples
  rw [List.filter_append, List.filter_map, List.filter_map]
  simp [Function.comp_def, hcounter]

/-- Every series is found under the key of its labels, which were reported.  The invariant is read
off the values under the key, of which the first gave the labels. -/
theorem reported_of_find?_series {calls : List SinkCall} {key : String} {v : SeriesValue}
    (h : (after calls).series.find? key = some v) :
    Reported calls v.labels ∧ v.labels.key = key := by
  rw [find?_series_after] at h
  obtain ⟨first, hfirst, h⟩ := Option.bind_eq_some_iff.mp h
  obtain ⟨last, -, rfl⟩ := Option.map_eq_some_iff.mp h
  obtain ⟨hmem, hkey⟩ := List.mem_filter.mp (List.mem_of_head? hfirst)
  exact ⟨⟨first, hmem, rfl⟩, of_decide_eq_true hkey⟩

theorem filter_sortedSeries (calls : List SinkCall) (l : SeriesLabels) :
    ((after calls).sortedSeries.filter fun v => v.labels = l) =
      ((after calls).series.find? l.key).toList.filter fun v => v.labels = l := by
  have hpairs (v : SeriesValue) :
      v.labels.pairs.map Prod.snd = l.pairs.map Prod.snd ↔ v.labels = l :=
    ⟨SeriesLabels.eq_of_pairs, fun h => congrArg (·.pairs.map Prod.snd) h⟩
  have hsorted : ((after calls).sortedSeries.filter fun v =>
      v.labels.pairs.map Prod.snd = l.pairs.map Prod.snd) = (after calls).series.values.filter
      fun v => v.labels.pairs.map Prod.snd = l.pairs.map Prod.snd := filter_sortOn _ _
  simp only [hpairs] at hsorted
  rw [hsorted,
    ← SortedMap.filter_values (fun k v h => (reported_of_find?_series h).2) l.key,
    List.filter_filter]
  refine List.filter_congr fun v _ => ?_
  by_cases hv : v.labels = l <;> simp [hv]

/-- An identity has a sample if it came first under its key, and the sample shows the value that
came last under the key.  This is the whole truth about an identity, clash or not. -/
theorem filter_showsValueOf_after (calls : List SinkCall) (l : SeriesLabels) :
    (after calls).samples.filter (·.ShowsValueOf l) =
      if (valuesUnder calls l.key).head?.map SeriesValue.labels = some l then
        (valuesUnder calls l.key).getLast?.toList.map fun last => .ofValue ⟨l, last.value⟩
      else [] := by
  rw [filter_showsValueOf, filter_sortedSeries, find?_series_after]
  cases valuesUnder calls l.key with
  | nil => rfl
  | cons first rest =>
    rw [List.head?_cons, Option.bind_some, Option.map_some, List.getLast?_cons, Option.map_some,
      Option.toList_some, Option.toList_some]
    by_cases hfirst : first.labels = l
    · subst hfirst
      simp
    · simp [hfirst]

end Metrics

/-! ## Identities without a clash -/

namespace SinkCall

/-- No reported identity clashes with the given one, which need not have been reported itself. -/
def Alone (calls : List SinkCall) (l : SeriesLabels) : Prop :=
  ∀ l', Reported calls l' → ¬ l'.Clash l

/-- No two reported identities clash. -/
def NoClash (calls : List SinkCall) : Prop := ∀ l, Reported calls l → Alone calls l

variable {calls calls' : List SinkCall} {l : SeriesLabels}

theorem mem_valuesOf {v : SeriesValue} :
    v ∈ valuesOf calls l ↔ v ∈ values calls ∧ v.labels = l := by
  unfold valuesOf
  rw [List.mem_filter, decide_eq_true_eq]

theorem reported_iff : Reported calls l ↔ (valuesOf calls l).getLast? ≠ none := by
  rw [ne_eq, List.getLast?_eq_none_iff]
  constructor
  · rintro ⟨v, hv⟩
    exact List.ne_nil_of_mem (mem_valuesOf.mpr hv)
  · intro h
    obtain ⟨v, hv⟩ := List.exists_mem_of_ne_nil _ h
    exact ⟨v, mem_valuesOf.mp hv⟩

theorem Alone.valuesUnder_eq (h : Alone calls l) : valuesUnder calls l.key = valuesOf calls l := by
  refine List.filter_congr fun v hv => decide_eq_decide.mpr ?_
  refine ⟨fun hkey => ?_, fun heq => congrArg SeriesLabels.key heq⟩
  by_contra hne
  exact h v.labels ⟨v, hv, rfl⟩ ⟨hkey, hne⟩

/-- Where the same was reported last of every identity, the same identities clash.  Whether
identities clash depends on which were reported, and not on when. -/
theorem NoClash.congr (h : NoClash calls)
    (hlast : ∀ l, (valuesOf calls' l).getLast? = (valuesOf calls l).getLast?) :
    NoClash calls' := by
  have hreported (l : SeriesLabels) : Reported calls' l ↔ Reported calls l := by
    rw [reported_iff, reported_iff, hlast]
  intro l hl l' hl'
  exact h l ((hreported l).mp hl) l' ((hreported l').mp hl')

end SinkCall

namespace Metrics

variable {calls calls' : List SinkCall} {l : SeriesLabels}

/-- An identity that is alone has the value that was reported last of it, as if each had a series of
its own. -/
theorem find?_series_of_alone (h : Alone calls l) :
    (after calls).series.find? l.key = (valuesOf calls l).getLast? := by
  rw [find?_series_after, h.valuesUnder_eq]
  cases hvalues : valuesOf calls l with
  | nil => rfl
  | cons first rest =>
    have hlabels {v : SeriesValue} (hv : v ∈ first :: rest) : v.labels = l :=
      (mem_valuesOf.mp (hvalues ▸ hv)).2
    rw [List.head?_cons, Option.bind_some, hlabels (List.mem_cons_self ..)]
    cases hlast : (first :: rest).getLast? with
    | none => rfl
    | some last =>
      rw [Option.map_some, ← hlabels (List.mem_of_getLast? hlast)]

/-- The export shows it. -/
theorem filter_showsValueOf_of_alone (h : Alone calls l) :
    (after calls).samples.filter (·.ShowsValueOf l) =
      (valuesOf calls l).getLast?.toList.map .ofValue := by
  rw [filter_showsValueOf, filter_sortedSeries, find?_series_of_alone h]
  congr 1
  refine List.filter_eq_self.mpr fun v hv => ?_
  exact decide_eq_true (mem_valuesOf.mp (List.mem_of_getLast? (Option.mem_toList.mp hv))).2

theorem find?_series_iff (h : NoClash calls) {key : String} {v : SeriesValue} :
    (after calls).series.find? key = some v ↔
      v.labels.key = key ∧ (valuesOf calls v.labels).getLast? = some v := by
  constructor
  · intro hfind
    obtain ⟨hreported, rfl⟩ := reported_of_find?_series hfind
    rw [find?_series_of_alone (h v.labels hreported)] at hfind
    exact ⟨rfl, hfind⟩
  · rintro ⟨rfl, hlast⟩
    have hreported : Reported calls v.labels := reported_iff.mpr (by rw [hlast]; nofun)
    rw [find?_series_of_alone (h v.labels hreported), hlast]

/-- Without a clash the last value of every identity and the failures of every source are all that
counts, in whatever order they came.  Two such sinks hold the same metrics, and so they export the
same text. -/
theorem after_congr (h : NoClash calls)
    (hlast : ∀ l, (valuesOf calls' l).getLast? = (valuesOf calls l).getLast?)
    (hfailures : ∀ source, failuresOf calls' source = failuresOf calls source) :
    after calls' = after calls := by
  have hseries : (after calls').series = (after calls).series := by
    refine SortedMap.ext_find? fun key => Option.ext fun v => ?_
    rw [find?_series_iff h, find?_series_iff (h.congr hlast), hlast]
  have hcounters : (after calls').failures = (after calls).failures := by
    refine SortedMap.ext_find? fun source => ?_
    rw [find?_failures_after, find?_failures_after, hfailures]
  calc after calls' = ⟨(after calls').series, (after calls').failures⟩ := rfl
    _ = ⟨(after calls).series, (after calls).failures⟩ := by rw [hseries, hcounters]
    _ = after calls := rfl

/-! ## The export -/

/-- What an export after some calls says, as the samples that are read from its text.  It is said of
the text, through the reader, and not of the metrics behind it. -/
structure Exports (calls : List SinkCall) (text : String) (samples : List Point) : Prop where
  read : Exposition.read text = some samples
  /-- An identity that no other clashes with has one sample if it was reported, with the value
  that was reported last of it, and none if it was not. -/
  own : ∀ l, Alone calls l →
    samples.filter (·.ShowsValueOf l) = (valuesOf calls l).getLast?.toList.map .ofValue
  /-- Of identities that clash the first one has the sample, with the last value of any. -/
  shared : ∀ l, samples.filter (·.ShowsValueOf l) =
    if (valuesUnder calls l.key).head?.map SeriesValue.labels = some l then
      (valuesUnder calls l.key).getLast?.toList.map fun last => .ofValue ⟨l, last.value⟩
    else []
  /-- That every identity shows its own last value is to say that no two clash. -/
  faithful : NoClash calls ↔ ∀ l,
    samples.filter (·.ShowsValueOf l) = (valuesOf calls l).getLast?.toList.map .ofValue
  /-- A source has one sample of its failures if there were any. -/
  failures : ∀ source, samples.filter (·.ShowsFailuresOf source) =
    if failuresOf calls source = 0 then [] else [.ofFailures (source, failuresOf calls source)]
  /-- There is no other sample. -/
  only : ∀ s ∈ samples, (∃ l, Reported calls l ∧ s.ShowsValueOf l) ∨
    ∃ source, .failure source ∈ calls ∧ s.ShowsFailuresOf source
  /-- Without a clash the order in which identities and sources take their turns is of no
  account. -/
  ordered : NoClash calls → ∀ calls',
    (∀ l, (valuesOf calls' l).getLast? = (valuesOf calls l).getLast?) →
    (∀ source, failuresOf calls' source = failuresOf calls source) →
    (after calls').exposition = text

/-- An identity that was not reported has no sample, also where another one has its key.  The sample
under that key goes under the labels that were reported. -/
theorem filter_showsValueOf_of_not_reported (h : ¬ Reported calls l) :
    (after calls).samples.filter (·.ShowsValueOf l) =
      (valuesOf calls l).getLast?.toList.map .ofValue := by
  have hhead : ¬ (valuesUnder calls l.key).head?.map SeriesValue.labels = some l := by
    intro hfirst
    obtain ⟨v, hv, hlabels⟩ := Option.map_eq_some_iff.mp hfirst
    exact h ⟨v, (List.mem_filter.mp (List.mem_of_head? hv)).1, hlabels⟩
  rw [filter_showsValueOf_after, if_neg hhead, not_not.mp (mt reported_iff.mpr h)]
  rfl

/-- A reported identity that another one clashes with is missing, or the other one is: one series
cannot go under two labels. -/
theorem noClash_of_faithful (h : ∀ l, (after calls).samples.filter (·.ShowsValueOf l) =
    (valuesOf calls l).getLast?.toList.map .ofValue) : NoClash calls := by
  have hfirst {l : SeriesLabels} (hl : Reported calls l) :
      (valuesUnder calls l.key).head?.map SeriesValue.labels = some l := by
    by_contra hne
    have hshown := h l
    rw [filter_showsValueOf_after, if_neg hne] at hshown
    refine reported_iff.mp hl ?_
    rw [← Option.toList_eq_nil_iff]
    exact List.map_eq_nil_iff.mp hshown.symm
  rintro l hl l' hl' ⟨hkey, hne⟩
  have hfirst' := hfirst hl'
  rw [hkey, hfirst hl] at hfirst'
  exact hne (Option.some.inj hfirst').symm

/-- Every sample goes back to a call, of a value or of a failure. -/
theorem shows_of_mem_samples {s : Point} (h : s ∈ (after calls).samples) :
    (∃ l, Reported calls l ∧ s.ShowsValueOf l) ∨
      ∃ source, .failure source ∈ calls ∧ s.ShowsFailuresOf source := by
  unfold samples at h
  rcases List.mem_append.mp h with h | h
  · obtain ⟨e, he, rfl⟩ := List.mem_map.mp h
    have hfound := SortedMap.mem_entries.mp he
    rw [find?_failures_after] at hfound
    refine .inr ⟨e.1, ?_, Point.showsFailuresOf_ofFailures.mpr rfl⟩
    by_contra hnone
    rw [if_pos (show failuresOf calls e.1 = 0 from List.count_eq_zero.mpr hnone)] at hfound
    cases hfound
  · obtain ⟨v, hv, rfl⟩ := List.mem_map.mp h
    obtain ⟨e, he, rfl⟩ := List.mem_map.mp ((sortOn_perm _ _).mem_iff.mp hv)
    exact .inl ⟨e.2.labels, (reported_of_find?_series (SortedMap.mem_entries.mp he)).1,
      Point.showsValueOf_ofValue.mpr rfl⟩

/-- **The export of a sink** after any sequence of reports and failures, from any number of sources.
What the text shows is read off it by a reader of the format: a series holds the value that was last
reported under its labels, and the failures of a source are counted.  Every identity shows its own
last value exactly when no two that were reported are written alike, label after label. -/
theorem exposition_exports (calls : List SinkCall) :
    ∃ samples, Exports calls (after calls).exposition samples := by
  refine ⟨(after calls).samples, ?_⟩
  constructor
  case read => exact read_exposition _
  case own => exact fun l h => filter_showsValueOf_of_alone h
  case shared => exact fun l => filter_showsValueOf_after calls l
  case faithful =>
    refine ⟨fun h l => ?_, noClash_of_faithful⟩
    by_cases hl : Reported calls l
    · exact filter_showsValueOf_of_alone (h l hl)
    · exact filter_showsValueOf_of_not_reported hl
  case failures =>
    intro source
    rw [filter_showsFailuresOf, find?_failures_after]
    split <;> rfl
  case only => exact fun s h => shows_of_mem_samples h
  case ordered =>
    intro h calls' hlast hfailures
    rw [after_congr h hlast hfailures]

/-- Not every identity shows its own last value: two sensors whose ids and names are written
alike one after the other have one sample, the first one's labels with the second one's value. -/
theorem unfaithful_of_shifted_labels :
    let first : SeriesLabels :=
      ⟨"alpha", "/cpu/0", "CPU", "cpu", "/cpu/0/load/1", "1 Load", "load"⟩
    let second : SeriesLabels :=
      ⟨"alpha", "/cpu/0", "CPU", "cpu", "/cpu/0/load/11", " Load", "load"⟩
    let calls : List SinkCall := [.report ⟨first, 40⟩, .report ⟨second, 70⟩]
    let samples : List Point := [.ofValue ⟨first, 70⟩]
    first ≠ second ∧ Exposition.read (after calls).exposition = some samples ∧
      ¬ ∀ l, samples.filter (·.ShowsValueOf l) =
        (valuesOf calls l).getLast?.toList.map .ofValue := by
  intro first second calls samples
  refine ⟨by decide, ?_, fun h => ?_⟩
  · rw [read_exposition]
    decide +kernel
  · -- the second sensor was reported and has no sample
    exact absurd (h second) (by decide)

end Metrics

namespace Collector

/-- What a collector that counts failures exports is what its sink was told, in the order in which
it was told. -/
theorem metrics_eq_after {c : Collector} (h : c.countsFailures = true) :
    c.metrics = .after (c.fanOut.sink.map Prod.snd) := by
  unfold metrics Metrics.after
  rw [h, List.foldl_map]

end Collector

end Telemetry
