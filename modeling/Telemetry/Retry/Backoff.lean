import Telemetry.Number.Binary64

/-! # Exponential backoff

The delay before another attempt grows by a factor with every attempt, up to a
cap, and is then moved by a random jitter of at most a share of itself.  The
jitter is an argument here: whoever draws it takes it from `jitterRange`.
-/

namespace Telemetry

/-- How long to wait between attempts. -/
structure Backoff where
  baseMillis : Nat
  factor : Float
  jitterShare : Float
  maxMillis : Nat

namespace Backoff

/-- A tenth of a second, doubled with every attempt up to two seconds, with a
jitter of a fifth. -/
def standard : Backoff := ⟨100, 2.0, 0.20, 2000⟩

/-- A power by repeated squaring; `r` holds what is done already. -/
def powFrom (r a : Float) (n : Nat) : Float :=
  let r := if n % 2 = 1 then r * a else r
  if h : n / 2 = 0 then r else powFrom r (a * a) (n / 2)
termination_by n
decreasing_by omega

/-- A whole power of a floating-point number. -/
def pow (a : Float) (n : Nat) : Float := powFrom 1.0 a n

/-- The smaller of two numbers; one that is undefined does not count. -/
def lesser (a b : Float) : Float :=
  if a.isNaN then b else if b.isNaN then a else if b < a then b else a

/-- A number, or zero when it is negative or undefined. -/
def nonNegative (a : Float) : Float :=
  if a.isNaN then 0.0 else if a < 0.0 then 0.0 else a

/-- The largest attempt number that the growth still counts. -/
def maxExponent : Nat := 2147483647

/-- The delay after an attempt before jitter, in milliseconds. -/
def plain (b : Backoff) (attempt : Nat) : Float :=
  lesser (Float.ofNat b.baseMillis * pow b.factor (min attempt maxExponent))
    (Float.ofNat b.maxMillis)

/-- The jitter lies between this number and its negative; there is none when it
is not positive. -/
def jitterRange (b : Backoff) (attempt : Nat) : Float :=
  let range := b.plain attempt * b.jitterShare.abs
  if 0.0 < range then range else 0.0

/-- The largest share of its range that a draw can reach: one minus 2⁻⁵². -/
def largestDraw : Float := 0.9999999999999998

/-- Whether a jitter can be drawn: the width of the range over the largest draw
has to be finite. -/
def drawable (b : Backoff) (attempt : Nat) : Bool :=
  let range := b.jitterRange attempt
  (Binary64.ofFloat ((range + range) / largestDraw)).isFinite

/-- The delay after an attempt for a given jitter, in whole milliseconds. -/
def millis (b : Backoff) (attempt : Nat) (jitter : Float) : Nat :=
  ((Binary64.ofFloat (nonNegative (b.plain attempt + jitter))).truncate 0 (UInt64.size - 1)).toNat

/-- The shortest and the longest delay that a jitter can lead to. -/
def bounds (b : Backoff) (attempt : Nat) : Nat × Nat :=
  (b.millis attempt (-(b.jitterRange attempt)), b.millis attempt (b.jitterRange attempt))

end Backoff

end Telemetry
