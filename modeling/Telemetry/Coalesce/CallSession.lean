import Telemetry.Coalesce.CallGroup

/-! # Callers of a call group

A session follows a call group and everybody who calls it.  A call runs on its
own, whoever waits for it, and takes its flight out of the table when it ends.
What is due at the moment of an event happens before it, and what it makes
possible at that moment right after it.
-/

namespace Telemetry

/-- A call in flight: when it started, when it ends, if ever, and its outcome. -/
structure Flight (α : Type) where
  started : Nat
  ends : Option Nat
  outcome : Result α

namespace Flight

variable {α : Type}

/-- The flight of a call that starts now. -/
def ofCall (c : Call α) (now : Nat) : Flight α :=
  ⟨now, c.delay.map (now + ·), c.ending.shared⟩

/-- The end of a flight that has come by a moment. -/
def endedBy (f : Flight α) (now : Nat) : Option Nat := f.ends.filter (· ≤ now)

end Flight

/-- A call that a group has started, with the key and the number of its flight. -/
structure Work (κ α : Type) where
  key : κ
  id : Nat
  flight : Flight α

/-- Somebody who called a group. -/
inductive Caller (α : Type) where
  | done (at_ : Nat) (result : Result α) (joined : Bool)
  | waiting (f : Flight α) (joined : Bool)
  | dropped

/-- What happens to a call group. -/
inductive GroupEvent (κ α : Type) where
  | run (key : κ) (work : Call α)
  | isInFlight (key : κ)
  | count
  /-- The caller of an earlier event is dropped. -/
  | drop (event : Nat)

/-- What an event is answered with. -/
inductive GroupAnswer (α : Type) where
  | caller (c : Caller α)
  | isInFlight (b : Bool)
  | count (n : Nat)
  | nothing

/-- A call group, its calls and its callers. -/
structure CallSession (κ α : Type) [Ord κ] where
  group : CallGroup κ (Flight α)
  /-- The calls that still run. -/
  running : List (Work κ α)
  /-- The calls started so far, in order. -/
  works : List (Work κ α)
  /-- The answers to the events so far, in order. -/
  answers : List (GroupAnswer α)

namespace Caller

variable {α : Type}

/-- Hands a waiting caller the outcome of a call that has ended. -/
def settle (now : Nat) : Caller α → Caller α
  | waiting f joined =>
    match f.endedBy now with
    | some e => done e f.outcome joined
    | none => waiting f joined
  | c => c

/-- The caller is dropped. -/
def drop : Caller α → Caller α
  | waiting .. => dropped
  | c => c

end Caller

namespace GroupAnswer

variable {α : Type}

/-- Changes the caller that an answer shows. -/
def mapCaller (f : Caller α → Caller α) : GroupAnswer α → GroupAnswer α
  | caller c => caller (f c)
  | a => a

end GroupAnswer

namespace CallSession

variable {κ α : Type} [Ord κ]

/-- A group nobody has called yet. -/
def empty : CallSession κ α := ⟨.empty, [], [], []⟩

/-- Everything due up to a moment happens. -/
def settle (s : CallSession κ α) (now : Nat) : CallSession κ α :=
  let (ended, running) := s.running.partition fun w => (w.flight.endedBy now).isSome
  { s with
    group := ended.foldl (fun g w => g.land w.key w.id) s.group
    running := running
    answers := s.answers.map (GroupAnswer.mapCaller (Caller.settle now)) }

variable [Std.TransOrd κ] [Std.LawfulEqOrd κ]

/-- Somebody calls: the call in flight for the key is joined, or the call `work`
is started. -/
def call (s : CallSession κ α) (now : Nat) (key : κ) (work : Call α) : CallSession κ α :=
  match s.group.find? key with
  | some e => { s with answers := s.answers ++ [.caller (.waiting e.call true)] }
  | none =>
    let w : Work κ α := ⟨key, s.group.nextId, .ofCall work now⟩
    { group := s.group.launch key w.flight
      running := s.running ++ [w]
      works := s.works ++ [w]
      answers := s.answers ++ [.caller (.waiting w.flight false)] }

/-- An event takes place. -/
def apply (s : CallSession κ α) (now : Nat) : GroupEvent κ α → CallSession κ α
  | .run key work => s.call now key work
  | .isInFlight key => { s with answers := s.answers ++ [.isInFlight (s.group.isInFlight key)] }
  | .count => { s with answers := s.answers ++ [.count s.group.inFlightCount] }
  | .drop i =>
    { s with answers := s.answers.modify i (GroupAnswer.mapCaller Caller.drop) ++ [.nothing] }

/-- An event with all that happens at its moment. -/
def step (s : CallSession κ α) (e : Nat × GroupEvent κ α) : CallSession κ α :=
  ((s.settle e.1).apply e.1 e.2).settle e.1

/-- The events in order. -/
def run (s : CallSession κ α) (events : List (Nat × GroupEvent κ α)) : CallSession κ α :=
  events.foldl step s

/-- The last end of a call that still runs. -/
def lastEnd (s : CallSession κ α) : Nat :=
  (s.running.filterMap fun w => w.flight.ends).foldl max 0

/-- Lets every call end that ever does. -/
def finish (s : CallSession κ α) : CallSession κ α := s.settle s.lastEnd

end CallSession

end Telemetry
