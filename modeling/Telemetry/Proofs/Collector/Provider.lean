import Telemetry.Collector.Provider
import Telemetry.Proofs.Coalesce.CachedSource
import Telemetry.Proofs.Retry.Attempts

/-! # Asking a provider

A provider can be asked again at any moment after the last one (`Ready`); with a cache in front that
is the invariant of the cache.  What asking it at some moments does to it (`AskedAt`) composes, so
that runs of attempts and sequences of such runs need no argument of their own: a call is made at
every one of the moments, or, behind a cache, at some of them.

Two kinds of providers are told apart.  One without a cache makes a call for every attempt, and
panics when its call does.  Behind a cache an attempt may be served without a call, a panic comes as
a failure, and the attempt may outlast what the cache allows a call; but in both kinds no attempt
ends before it starts (`Ready.ask`), which is all that the theory of retries asks for (`orderly`).
-/

namespace Telemetry.Provider

/-- A provider nobody has asked yet: its script stands at the first call, and its cache is empty. -/
inductive Fresh : Provider → Prop
  | ofScript (script : Script Snapshot) : Fresh (.ofScript script)
  | cached (settings : CacheSettings) (script : Script Snapshot) :
      Fresh (.cached (.create settings script))

/-- A provider without a cache. -/
def Uncached : Provider → Prop
  | direct .. => True
  | cached _ => False

/-- A provider whose attempts do not panic: a panic behind a cache reaches the caller
as a failure. -/
def Calm : Provider → Prop
  | direct script _ => script.Calm
  | cached _ => True

/-- What a provider has been asked so far has happened by a moment.  Without a cache nothing of it
is remembered. -/
def Ready (now : Nat) : Provider → Prop
  | direct .. => True
  | cached source => ∃ settings script ended, source.Consistent settings script now ended

variable {p q r : Provider} {now later : Nat}

theorem Fresh.ready (h : p.Fresh) (now : Nat) : p.Ready now := by
  cases h with
  | ofScript => trivial
  | cached settings script =>
    exact ⟨settings, script, [], CachedSource.consistent_create settings script now⟩

theorem Fresh.calls_eq (h : p.Fresh) : p.calls = [] := by
  cases h <;> rfl

theorem Ready.mono (h : p.Ready now) (hle : now ≤ later) : p.Ready later := by
  cases p with
  | direct => trivial
  | cached source =>
    obtain ⟨settings, script, ended, hc⟩ := h
    exact ⟨settings, script, ended, hc.mono hle⟩

/-- A provider can be asked again later, and no attempt ends before it starts.  The cache is brought
to the later moment first, and consistent again after the attempt. -/
theorem Ready.ask (h : p.Ready now) (hle : now ≤ later) :
    (p.ask now).1.Ready later ∧ ∀ e, (p.ask now).2.ends = some e → now ≤ e := by
  cases p with
  | direct script calls =>
    refine ⟨trivial, fun e he => ?_⟩
    obtain ⟨d, -, rfl⟩ := Option.map_eq_some_iff.mp he
    exact Nat.le_add_right now d
  | cached source =>
    obtain ⟨settings, script, ended, hc⟩ := h
    obtain ⟨ended, hc, hs⟩ := hc.settle (Nat.le_refl now)
    refine ⟨⟨settings, script, ended, (hc.get hs).mono hle⟩, ?_⟩
    show ∀ e, (answerCourse now ((source.settle now).get now).2).ends = some e → now ≤ e
    rcases hc.get_cases hs with
      ⟨f, v, -, -, -, hget⟩ | ⟨-, ⟨f, -, hrun, hget⟩ | ⟨-, -, hget⟩⟩ <;> rw [hget] <;> rintro e ⟨⟩
    · exact Nat.le_refl now
    · exact Nat.le_of_lt hrun.2
    · exact Nat.le_add_right now _

theorem orderly : Orderly (fun (p : Provider) _ now => p.ask now) Ready where
  keeps _ h hle := (h.ask hle).1
  forward _ h he := (h.ask (Nat.le_refl _)).2 _ he

/-- An attempt of a provider whose calls do not panic does not panic, with a cache or without. -/
theorem Calm.ending_ne (h : p.Calm) (now : Nat) (message : String) :
    (p.ask now).2.ending ≠ .panic message := by
  cases p with
  | direct script calls => exact h _ message
  | cached source =>
    show (answerCourse now ((source.settle now).get now).2).ending ≠ _
    cases ((source.settle now).get now).2 with
    | atOnce v => intro hpanic; cases hpanic
    | pending f own =>
      show Ending.ofResult f.outcome ≠ _
      cases f.outcome <;> intro hpanic <;> cases hpanic

/-- What being asked at some moments makes of a provider.  Its kind stays the same, and its calls
only grow. -/
structure AskedAt (moments : List Nat) (p q : Provider) : Prop where
  /-- The calls made are among the moments; without a cache they are all of them. -/
  calls : ∃ made, q.calls = p.calls ++ made ∧ made.Sublist moments ∧ (p.Uncached → made = moments)
  uncached : q.Uncached ↔ p.Uncached
  calm : q.Calm ↔ p.Calm

theorem AskedAt.refl (p : Provider) : AskedAt [] p p :=
  ⟨⟨[], (List.append_nil _).symm, List.Sublist.refl _, fun _ => rfl⟩, Iff.rfl, Iff.rfl⟩

theorem AskedAt.trans {moments moments' : List Nat} (h : AskedAt moments p q)
    (h' : AskedAt moments' q r) : AskedAt (moments ++ moments') p r := by
  obtain ⟨made, hq, hsub, hall⟩ := h.calls
  obtain ⟨made', hr, hsub', hall'⟩ := h'.calls
  refine ⟨⟨made ++ made', ?_, hsub.append hsub', fun hp => ?_⟩, h'.uncached.trans h.uncached,
    h'.calm.trans h.calm⟩
  · rw [hr, hq, List.append_assoc]
  · rw [hall hp, hall' (h.uncached.mpr hp)]

theorem askedAt_ask (p : Provider) (now : Nat) : AskedAt [now] p (p.ask now).1 := by
  cases p with
  | direct script calls =>
    exact ⟨⟨[now], rfl, List.Sublist.refl _, fun _ => rfl⟩, Iff.rfl, Iff.rfl⟩
  | cached source =>
    refine ⟨?_, Iff.rfl, Iff.rfl⟩
    show ∃ made, ((source.settle now).get now).1.fetches.map Fetch.started =
      (source.settle now).fetches.map Fetch.started ++ made ∧ _
    -- a call is started only where the cache has nothing to give
    unfold CachedSource.get
    cases (source.settle now).cache.lookup now with
    | fresh | inFlight =>
      exact ⟨[], (List.append_nil _).symm, List.nil_sublist _, False.elim⟩
    | absent => exact ⟨[now], List.map_append, List.Sublist.refl _, False.elim⟩

/-- Attempts in a row ask a provider at the moments at which they start, by induction along the
row. -/
theorem askedAt_of_asked {attempts : List (Attempt Snapshot)}
    (h : Asked (fun (p : Provider) _ now => p.ask now) p attempts q) :
    AskedAt (attempts.map Attempt.started) p q := by
  induction h with
  | nil p => exact .refl p
  | @cons p _ a rest _ _ ih => exact (askedAt_ask p a.started).trans ih

/-- Attempts of a provider whose calls do not panic do not panic, any number of them. -/
theorem Calm.ending_ne_of_asked {attempts : List (Attempt Snapshot)} (hcalm : p.Calm)
    (h : Asked (fun (p : Provider) _ now => p.ask now) p attempts q) (message : String) :
    ∀ a ∈ attempts, a.course.ending ≠ .panic message := by
  induction h with
  | nil => intro a ha; cases ha
  | @cons p _ a rest hcourse _ ih =>
    refine List.forall_mem_cons.mpr ⟨?_, ih ((askedAt_ask p a.started).calm.mpr hcalm)⟩
    rw [← hcourse]
    exact hcalm.ending_ne a.started message

end Telemetry.Provider
