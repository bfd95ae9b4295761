import Mathlib.Data.List.Dedup
import Telemetry.CommandLine.Program
import Telemetry.Proofs.Daemon.Events

/-! # Valid configurations can be set up

The parts of the two programs refuse what they cannot work with: empty spans, no attempts, no
sources, a window beyond the reach of a delta.  What a configuration has to fulfil is said field by
field (`Valid`); from that follows which parts can be set up (`SetsUp`).  Only the window of the
retention is refused by its part alone.

The validation makes its checks one after the other and stops at the first flaw, so a configuration
passes exactly when it passes every check (`validate_eq_ok_iff`).  The other direction reads the
refusals of the parts backwards: each of them is about a field of the configuration that one of the
checks looks at (`RefusedEarly`), but for the length of the window, which only a delta can tell.

The hosts of the collector are a list and its providers a map.  A host that is named twice is
therefore one source, and the map has the hosts for its keys without their repetitions
(`SortedMap.keys_ofList_perm`).
-/

namespace Telemetry

/-! ## Checks one after the other -/

namespace Config

theorem bind_eq_ok_iff {first second : Except Flaw Unit} :
    (first >>= fun _ => second) = .ok () ↔ first = .ok () ∧ second = .ok () := by
  cases first with
  | error flaw => exact iff_of_false (fun h => by cases h) (fun h => by cases h.1)
  | ok u => exact ⟨fun h => ⟨rfl, h⟩, fun h => h.2⟩

theorem firstZero_eq_ok_iff {checks : List (String × Nat)} :
    firstZero checks = .ok () ↔ ∀ check ∈ checks, 0 < check.2 := by
  have hfind : checks.find? (fun check => check.2 = 0) = none ↔ ∀ check ∈ checks, 0 < check.2 := by
    simp [List.find?_eq_none, Nat.pos_iff_ne_zero]
  rw [← hfind]
  unfold firstZero
  cases checks.find? fun check => check.2 = 0 <;> simp

end Config

/-- What the daemon asks of its configuration: no span is zero, and there is an address to listen
on. -/
structure DaemonConfig.Valid (c : DaemonConfig) : Prop where
  requestTimeout : 0 < c.requestTimeoutSecs.toNat
  pollInterval : 0 < c.pollIntervalMs.toNat
  retentionInterval : 0 < c.retentionIntervalSecs.toNat
  retentionWindow : 0 < c.retentionWindowSecs.toNat
  cacheRetention : 0 < c.cacheRetentionMs.toNat
  fetchTimeout : 0 < c.fetchTimeoutSecs.toNat
  listen : Text.allBlank c.listen = false

theorem DaemonConfig.validate_eq_ok_iff {c : DaemonConfig} : c.validate = .ok () ↔ c.Valid := by
  unfold validate
  rw [Config.bind_eq_ok_iff, Config.firstZero_eq_ok_iff]
  constructor
  · rintro ⟨hpos, hlisten⟩
    simp only [List.forall_mem_cons] at hpos
    obtain ⟨h₁, h₂, h₃, h₄, h₅, h₆, -⟩ := hpos
    refine ⟨h₁, h₂, h₃, h₄, h₅, h₆, ?_⟩
    cases hblank : Text.allBlank c.listen with
    | false => rfl
    | true => simp [hblank] at hlisten
  · intro h
    simp [h.requestTimeout, h.pollInterval, h.retentionInterval, h.retentionWindow,
      h.cacheRetention, h.fetchTimeout, h.listen]

/-- What the collector asks of its configuration.  A cache need not be configured, but one that is
must keep what it holds for some time. -/
structure CollectorConfig.Valid (c : CollectorConfig) : Prop where
  hosts : c.hosts ≠ []
  named : ∀ host ∈ c.hosts, Text.allBlank host = false
  interval : 0 < c.intervalMs.toNat
  timeout : 0 < c.timeoutSecs.toNat
  attempts : 0 < c.attempts.toNat
  requestTimeout : 0 < c.requestTimeoutSecs.toNat
  cacheRetention : c.cacheRetentionMs ≠ some 0
  backoff : c.baseMs ≤ c.maxMs

theorem CollectorConfig.validate_eq_ok_iff {c : CollectorConfig} :
    c.validate = .ok () ↔ c.Valid := by
  -- the checks in order, each of which passes or ends the validation
  have hchecks : c.validate =
      ((if c.hosts = [] then .error .noHosts else .ok ()) >>= fun _ =>
        (c.hosts.find? Text.allBlank).elim (.ok ()) (fun host => .error (.emptyHost host))
          >>= fun _ =>
        Config.firstZero [
          ("collect.interval_ms", c.intervalMs.toNat),
          ("collect.timeout_secs", c.timeoutSecs.toNat),
          ("collect.attempts", c.attempts.toNat),
          ("provider.request_timeout_secs", c.requestTimeoutSecs.toNat)] >>= fun _ =>
        (if c.cacheRetentionMs = some 0 then .error .zeroCacheRetention else .ok ()) >>= fun _ =>
        if c.maxMs < c.baseMs then .error .baseAboveMax else .ok ()) := by
    unfold validate
    cases hhosts : c.hosts with
    | nil => rfl
    | cons host rest =>
      cases (host :: rest).find? Text.allBlank <;> by_cases hcache : c.cacheRetentionMs = some 0 <;>
        simp only [hcache] <;> rfl
  have hif {p : Prop} [Decidable p] {flaw : Config.Flaw} :
      (if p then Except.error flaw else .ok ()) = .ok () ↔ ¬ p := by
    split <;> simp [*]
  have hnamed : (c.hosts.find? Text.allBlank).elim (Except.ok ())
      (fun host => .error (Config.Flaw.emptyHost host)) = .ok () ↔
        ∀ host ∈ c.hosts, Text.allBlank host = false := by
    have hnone : c.hosts.find? Text.allBlank = none ↔
        ∀ host ∈ c.hosts, Text.allBlank host = false := by simp
    rw [← hnone]
    cases c.hosts.find? Text.allBlank <;> simp
  rw [hchecks]
  simp only [Config.bind_eq_ok_iff, hif, hnamed, Config.firstZero_eq_ok_iff, List.forall_mem_cons]
  constructor
  · rintro ⟨h₁, h₂, ⟨h₃, h₄, h₅, h₆, -⟩, h₇, h₈⟩
    exact ⟨h₁, h₂, h₃, h₄, h₅, h₆, h₇, UInt64.not_lt.mp h₈⟩
  · rintro ⟨h₁, h₂, h₃, h₄, h₅, h₆, h₇, h₈⟩
    exact ⟨h₁, h₂, ⟨h₃, h₄, h₅, h₆, by simp⟩, h₇, UInt64.not_lt.mpr h₈⟩

/-! ## Entries under their keys -/

namespace SortedMap

variable {κ ν : Type} [Ord κ] [Std.TransOrd κ] [Std.LawfulEqOrd κ]

theorem mem_keys_foldl_insert {l : List (κ × ν)} {m : SortedMap κ ν} {k : κ} :
    k ∈ (l.foldl (fun m e => m.insert e.1 e.2) m).keys ↔ k ∈ m.keys ∨ k ∈ l.map Prod.fst := by
  induction l generalizing m with
  | nil => simp
  | cons e rest ih =>
    have hinsert : k ∈ (m.insert e.1 e.2).keys ↔ k = e.1 ∨ k ∈ m.keys := by
      have heq : k = e.1 ↔ compare k e.1 = .eq := Std.LawfulEqOrd.compare_eq_iff_eq.symm
      rw [mem_keys, mem_keys, find?_insert, heq]
      by_cases hk : compare k e.1 = .eq <;> simp [hk]
    rw [List.foldl_cons, ih, hinsert, List.map_cons, List.mem_cons]
    tauto

/-- A map that is built from entries has one of each key: a later entry takes the place of an
earlier one. -/
theorem keys_ofList_perm [DecidableEq κ] (l : List (κ × ν)) :
    (ofList l).keys.Perm (l.map Prod.fst).dedup := by
  refine (List.perm_ext_iff_of_nodup (nodup_keys _) (List.nodup_dedup _)).mpr fun k => ?_
  rw [List.mem_dedup]
  exact mem_keys_foldl_insert.trans (by simp [keys, empty])

end SortedMap

/-! ## Spans from numbers -/

namespace Span

theorem isZero_ofSeconds {n : Nat} (h : 0 < n) : (ofSeconds n).isZero = false := by
  unfold isZero ofSeconds
  simp only [decide_eq_false_iff_not]
  omega

theorem isZero_ofMillis {n : Nat} (h : 0 < n) : (ofMillis n).isZero = false := by
  unfold isZero ofMillis
  simp only [decide_eq_false_iff_not]
  omega

theorem isZero_eq_false_iff {s : Span} : s.isZero = false ↔ 0 < s.nanos := by
  rw [isZero, decide_eq_false_iff_not, Nat.pos_iff_ne_zero]

end Span

/-- The largest whole number of seconds that a delta holds, which counts milliseconds in a signed
word. -/
def Delta.maxSeconds : Nat := (maxMillis / 1000).toNat

theorem Delta.ofSeconds_fits_iff {n : Nat} :
    ((Span.ofSeconds n).nanos : Int) ≤ maxMillis * 1000000 ↔ n ≤ maxSeconds := by
  unfold Span.ofSeconds maxSeconds maxMillis
  dsimp only
  omega

/-! ## Parts that are set up -/

theorem CacheSettings.create_eq_ok {retention limit : Span} (hretention : retention.isZero = false)
    (hlimit : limit.isZero = false) :
    ∃ s, create retention limit = .ok s ∧ s.retention = retention ∧ s.fetchTimeout = limit := by
  rw [Span.isZero_eq_false_iff] at hretention hlimit
  refine ⟨⟨retention, limit, hretention, hlimit⟩, ?_, rfl, rfl⟩
  unfold create
  rw [dif_pos hretention, dif_pos hlimit]

theorem Retention.create_eq_ok {interval window : Span} (hinterval : interval.isZero = false)
    (hwindow : window.isZero = false) (hfits : (window.nanos : Int) ≤ Delta.maxMillis * 1000000) :
    ∃ r, create interval window = .ok r ∧ r.interval = interval ∧ r.window = ⟨window.nanos⟩ := by
  rw [Span.isZero_eq_false_iff] at hinterval hwindow
  unfold create
  rw [dif_neg (Nat.ne_of_gt hinterval), dif_neg (Nat.ne_of_gt hwindow)]
  split
  next delta hdelta =>
    obtain rfl := Option.some.inj (hdelta.symm.trans (Delta.ofSpan?_of_le hfits))
    exact ⟨_, rfl, rfl, rfl⟩
  next hnone => cases hnone.symm.trans (Delta.ofSpan?_of_le hfits)

theorem Retention.create_eq_error {interval window : Span} (hinterval : interval.isZero = false)
    (hwindow : window.isZero = false)
    (hlarge : ¬ (window.nanos : Int) ≤ Delta.maxMillis * 1000000) :
    create interval window =
      .error (.construction ("retention window " ++ window.text ++ " is too large")) := by
  rw [Span.isZero_eq_false_iff] at hinterval hwindow
  unfold create
  rw [dif_neg (Nat.ne_of_gt hinterval), dif_neg (Nat.ne_of_gt hwindow)]
  split
  next delta hdelta => cases hdelta.symm.trans (Delta.ofSpan?_of_not_le hlarge)
  next => rfl

/-- A daemon with a valid configuration: its two caches can be set up, its retention exactly when a
delta reaches as far as the window, and so can the daemon. -/
structure DaemonConfig.SetsUp (c : DaemonConfig) : Prop where
  caches : ∃ s, CacheSettings.create c.cacheRetention c.fetchTimeout = .ok s ∧
    s.retention = c.cacheRetention ∧ s.fetchTimeout = c.fetchTimeout
  retention : c.retentionWindowSecs.toNat ≤ Delta.maxSeconds →
    ∃ r, Retention.create c.retentionInterval c.retentionWindow = .ok r ∧
      r.interval = c.retentionInterval ∧ r.window = ⟨c.retentionWindow.nanos⟩
  tooLarge : Delta.maxSeconds < c.retentionWindowSecs.toNat →
    Retention.create c.retentionInterval c.retentionWindow =
      .error (.construction ("retention window " ++ c.retentionWindow.text ++ " is too large"))
  daemon : ∀ clock, (∃ d, Daemon.create (CommandLine.DaemonProgram.settings c clock) = .ok d) ↔
    c.retentionWindowSecs.toNat ≤ Delta.maxSeconds

theorem DaemonConfig.Valid.setsUp {c : DaemonConfig} (h : c.Valid) : c.SetsUp := by
  have hinterval : c.retentionInterval.isZero = false := Span.isZero_ofSeconds h.retentionInterval
  have hwindow : c.retentionWindow.isZero = false := Span.isZero_ofSeconds h.retentionWindow
  have hretention : c.cacheRetention.isZero = false := Span.isZero_ofMillis h.cacheRetention
  have hlimit : c.fetchTimeout.isZero = false := Span.isZero_ofSeconds h.fetchTimeout
  have hcaches := CacheSettings.create_eq_ok hretention hlimit
  have hfits (hle : c.retentionWindowSecs.toNat ≤ Delta.maxSeconds) :=
    Retention.create_eq_ok hinterval hwindow (Delta.ofSeconds_fits_iff.mpr hle)
  have hlarge (hlt : Delta.maxSeconds < c.retentionWindowSecs.toNat) :=
    Retention.create_eq_error hinterval hwindow
      (mt Delta.ofSeconds_fits_iff.mp (Nat.not_le.mpr hlt))
  refine ⟨hcaches, hfits, hlarge, fun clock => ⟨?_, fun hle => ?_⟩⟩
  · rintro ⟨d, hd⟩
    obtain ⟨-, r, -, -, hr, -, -⟩ := Daemon.create_eq_ok hd
    refine Nat.not_lt.mp fun hlt => ?_
    cases hr.symm.trans (hlarge hlt)
  · obtain ⟨r, hr, -⟩ := hfits hle
    obtain ⟨s, hs, -⟩ := hcaches
    have hlisting : (some (c.cacheRetention, c.fetchTimeout)).mapM
        (fun spans => CacheSettings.create spans.1 spans.2) = .ok (some s) := by
      rw [Option.mapM_some]
      dsimp only
      rw [hs]
      rfl
    unfold Daemon.create CommandLine.DaemonProgram.settings
    dsimp only
    rw [hlisting, hr, hs]
    exact ⟨_, rfl⟩

/-- A collector with a valid configuration: every host has its provider, with a cache in front when
one is configured, and the collector can be set up over any providers of the hosts, which are kept
under one entry for each host. -/
structure CollectorConfig.SetsUp (c : CollectorConfig) : Prop where
  provider : ∀ address, ∃ p, HttpProvider.create address c.requestTimeout = .ok p ∧
    p.requestTimeout = c.requestTimeout
  cache : ∀ retention, c.cacheRetention = some retention →
    ∃ s, CacheSettings.create retention c.requestTimeout = .ok s ∧
      s.retention = retention ∧ s.fetchTimeout = c.requestTimeout
  sources : ∀ providers : List (String × Provider), providers.map Prod.fst = c.hosts →
    (SortedMap.ofList providers).keys.Perm c.hosts.dedup
  collector : ∀ providers : List (String × Provider), providers.map Prod.fst = c.hosts →
    ∀ jitter countsFailures, ∃ k, Collector.create (.ofList providers) c.interval c.timeout
        c.attempts.toNat c.backoff jitter countsFailures = .ok k ∧
      k.fanOut.providers = .ofList providers ∧ k.interval = c.interval ∧
      k.fanOut.policy.timeout = c.timeout ∧ k.fanOut.policy.retry.maxAttempts = c.attempts.toNat ∧
      k.fanOut.policy.retry.backoff = c.backoff

theorem CollectorConfig.Valid.setsUp {c : CollectorConfig} (h : c.Valid) : c.SetsUp := by
  have hrequest : c.requestTimeout.isZero = false := Span.isZero_ofSeconds h.requestTimeout
  refine ⟨fun address => ?_, fun retention hretention => ?_, fun providers hproviders => ?_,
    fun providers hproviders jitter countsFailures => ?_⟩
  · unfold HttpProvider.create
    rw [hrequest, if_neg Bool.false_ne_true]
    exact ⟨_, rfl, rfl⟩
  · obtain ⟨n, hn, rfl⟩ := Option.map_eq_some_iff.mp hretention
    have hpos : 0 < n.toNat := by
      refine Nat.pos_of_ne_zero fun hzero => h.cacheRetention ?_
      rw [hn, UInt64.toNat_inj.mp (hzero.trans UInt64.toNat_zero.symm)]
    exact CacheSettings.create_eq_ok (Span.isZero_ofMillis hpos) hrequest
  · exact hproviders ▸ SortedMap.keys_ofList_perm providers
  · have hsize : (SortedMap.ofList providers).size ≠ 0 := by
      have hperm := (SortedMap.keys_ofList_perm providers).length_eq
      rw [SortedMap.size_eq, hperm, hproviders]
      simpa using h.hosts
    exact ⟨_, Collector.create_eq _ _ _ hsize (Span.isZero_ofMillis h.interval)
      (Span.isZero_ofSeconds h.timeout) h.attempts, rfl, rfl, rfl, rfl, rfl⟩

/-! ## What is refused -/

/-- A configuration of the daemon that a part refuses has a flaw, unless the part is the retention
and refuses only the length of its window. -/
structure DaemonConfig.RefusedEarly (c : DaemonConfig) : Prop where
  caches : ∀ e, CacheSettings.create c.cacheRetention c.fetchTimeout = .error e →
    ∃ flaw, c.validate = .error flaw
  retention : ∀ e, Retention.create c.retentionInterval c.retentionWindow = .error e →
    (∃ flaw, c.validate = .error flaw) ∨
      e = .construction ("retention window " ++ c.retentionWindow.text ++ " is too large") ∧
        Delta.maxSeconds < c.retentionWindowSecs.toNat

/-- A configuration of the collector that a part refuses has a flaw: nothing is refused here that
has passed the validation. -/
structure CollectorConfig.RefusedEarly (c : CollectorConfig) : Prop where
  provider : ∀ address e, HttpProvider.create address c.requestTimeout = .error e →
    ∃ flaw, c.validate = .error flaw
  cache : ∀ retention e, c.cacheRetention = some retention →
    CacheSettings.create retention c.requestTimeout = .error e → ∃ flaw, c.validate = .error flaw
  collector : ∀ providers : List (String × Provider), providers.map Prod.fst = c.hosts →
    ∀ jitter countsFailures e, Collector.create (.ofList providers) c.interval c.timeout
      c.attempts.toNat c.backoff jitter countsFailures = .error e →
        ∃ flaw, c.validate = .error flaw

theorem DaemonConfig.refusedEarly (c : DaemonConfig) : c.RefusedEarly := by
  cases hvalidate : c.validate with
  | error flaw => exact ⟨fun _ _ => ⟨flaw, hvalidate⟩, fun _ _ => .inl ⟨flaw, hvalidate⟩⟩
  | ok u =>
    have h := (validate_eq_ok_iff.mp hvalidate).setsUp
    refine ⟨fun e he => ?_, fun e he => .inr ?_⟩
    · obtain ⟨s, hs, -⟩ := h.caches
      cases he.symm.trans hs
    · rcases Nat.lt_or_ge Delta.maxSeconds c.retentionWindowSecs.toNat with hlt | hle
      · exact ⟨Except.error.inj (he.symm.trans (h.tooLarge hlt)), hlt⟩
      · obtain ⟨r, hr, -⟩ := h.retention hle
        cases he.symm.trans hr

theorem CollectorConfig.refusedEarly (c : CollectorConfig) : c.RefusedEarly := by
  cases hvalidate : c.validate with
  | error flaw =>
    exact ⟨fun _ _ _ => ⟨flaw, hvalidate⟩, fun _ _ _ _ => ⟨flaw, hvalidate⟩,
      fun _ _ _ _ _ _ => ⟨flaw, hvalidate⟩⟩
  | ok u =>
    have h := (validate_eq_ok_iff.mp hvalidate).setsUp
    refine ⟨fun address e he => ?_, fun retention e hretention he => ?_,
      fun providers hproviders jitter countsFailures e he => ?_⟩
    · obtain ⟨p, hp, -⟩ := h.provider address
      cases he.symm.trans hp
    · obtain ⟨s, hs, -⟩ := h.cache retention hretention
      cases he.symm.trans hs
    · obtain ⟨k, hk, -⟩ := h.collector providers hproviders jitter countsFailures
      cases he.symm.trans hk

/-- **Validation covers construction**: with a configuration that is valid every part of a program
can be set up, but for a retention whose window is too large for a delta; and a configuration that
any part refuses for another reason has been refused before.  The spans of a configuration are
numbers of seconds or milliseconds that are not zero, and to be more than nothing is all that most
of the parts ask of them. -/
theorem validate_coversConstruction :
    (∀ c : DaemonConfig, (c.validate = .ok () → c.SetsUp) ∧ c.RefusedEarly) ∧
      ∀ c : CollectorConfig, (c.validate = .ok () → c.SetsUp) ∧ c.RefusedEarly :=
  ⟨fun c => ⟨fun h => (DaemonConfig.validate_eq_ok_iff.mp h).setsUp, c.refusedEarly⟩,
    fun c => ⟨fun h => (CollectorConfig.validate_eq_ok_iff.mp h).setsUp, c.refusedEarly⟩⟩

/-- A window of three hundred million years passes the validation of the daemon and is refused by
its retention; a host that the collector names twice is one source. -/
theorem coversConstruction_of_long_window :
    let long : DaemonConfig :=
      { DaemonConfig.standard with retentionWindowSecs := 9223372036854776 }
    let twice : CollectorConfig := { CollectorConfig.standard with hosts := ["a", "b", "a"] }
    long.validate = .ok () ∧ Delta.maxSeconds < long.retentionWindowSecs.toNat ∧
      (∃ message, Retention.create long.retentionInterval long.retentionWindow =
        .error (.construction message)) ∧
      twice.validate = .ok () ∧
      ∀ p, (SortedMap.ofList [("a", p), ("b", p), ("a", p)] : SortedMap String Provider).keys.Perm
        ["b", "a"] := by
  intro long twice
  have hlong : long.validate = .ok () := by decide +kernel
  have hlarge : Delta.maxSeconds < long.retentionWindowSecs.toNat := by decide
  have htwice : twice.validate = .ok () := by decide +kernel
  have hdaemon := (validate_coversConstruction.1 long).1 hlong
  have hcollector := (validate_coversConstruction.2 twice).1 htwice
  exact ⟨hlong, hlarge, ⟨_, hdaemon.tooLarge hlarge⟩, htwice, fun p => hcollector.sources _ rfl⟩

end Telemetry
