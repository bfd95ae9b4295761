import Telemetry.Time.Span

/-! # Signed differences between instants

A delta is what is added to or taken from an instant.  Deltas reach as far as a
64-bit count of milliseconds does.
-/

namespace Telemetry

/-- A signed length of time in nanoseconds. -/
@[ext] structure Delta where
  nanos : Int
deriving DecidableEq, Repr

namespace Delta

/-- The longest delta in either direction, in milliseconds. -/
def maxMillis : Int := 9223372036854775807

/-- A number of seconds, when it is in reach. -/
def ofSeconds? (n : Int) : Option Delta :=
  if -(maxMillis / 1000) ≤ n ∧ n ≤ maxMillis / 1000 then some ⟨n * 1000000000⟩ else none

/-- A span as a delta, when it is in reach. -/
def ofSpan? (s : Span) : Option Delta :=
  if (s.nanos : Int) ≤ maxMillis * 1000000 then some ⟨s.nanos⟩ else none

theorem ofSpan?_of_le {s : Span} (h : (s.nanos : Int) ≤ maxMillis * 1000000) :
    ofSpan? s = some ⟨s.nanos⟩ := if_pos h

theorem ofSpan?_of_not_le {s : Span} (h : ¬ (s.nanos : Int) ≤ maxMillis * 1000000) :
    ofSpan? s = none := if_neg h

theorem nanos_of_ofSpan? {s : Span} {d : Delta} (h : ofSpan? s = some d) :
    d.nanos = s.nanos := by
  unfold ofSpan? at h
  split at h
  · rw [← Option.some.inj h]
  · cases h

/-- The delta in the other direction. -/
def neg (d : Delta) : Delta := ⟨-d.nanos⟩

/-- The whole seconds, toward zero. -/
def seconds (d : Delta) : Int := d.nanos.tdiv 1000000000

/-- The nanoseconds beyond the whole seconds, with the sign of the delta. -/
def subsecond (d : Delta) : Int := d.nanos.tmod 1000000000

/-- The text of a delta, such as `PT60S`, `-PT0.005S` or `P0D`. -/
def text (d : Delta) : String :=
  let n := d.nanos.natAbs
  String.ofList <|
    (if d.nanos < 0 then ['-'] else []) ++ 'P' ::
      if n = 0 then ['0', 'D']
      else 'T' :: Digits.ofNat (n / 1000000000) ++ fractionText 9 (n % 1000000000) ++ ['S']

end Delta

end Telemetry
