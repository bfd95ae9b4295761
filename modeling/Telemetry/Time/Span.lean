import Telemetry.Number.Digits

/-! # Spans of time

A span is a non-negative length of time in whole nanoseconds: timeouts,
intervals, retention times.  Its text names the largest unit that leaves a whole
part and shows the rest as a decimal fraction without trailing zeros.
-/

namespace Telemetry

/-- The decimal digits of a fraction without trailing zeros, behind a point;
nothing when the fraction is zero. -/
def fractionText (width n : Nat) : List Char :=
  let ds := ((Digits.fixed 10 width n).reverse.dropWhile (· = '0')).reverse
  if ds.isEmpty then [] else '.' :: ds

/-- A non-negative length of time. -/
@[ext] structure Span where
  nanos : Nat
deriving DecidableEq, Repr

namespace Span

instance : Inhabited Span := ⟨⟨0⟩⟩

/-- A number of seconds. -/
def ofSeconds (n : Nat) : Span := ⟨n * 1000000000⟩

/-- A number of milliseconds. -/
def ofMillis (n : Nat) : Span := ⟨n * 1000000⟩

/-- Whether the span is empty. -/
def isZero (s : Span) : Bool := s.nanos = 0

/-- The whole seconds. -/
def seconds (s : Span) : Nat := s.nanos / 1000000000

/-- The milliseconds, a started one counting as whole: timers fire on whole
milliseconds and never early. -/
def ceilMillis (s : Span) : Nat := (s.nanos + 999999) / 1000000

/-- What the clock can still count from now, in seconds. -/
def clockLimit : Nat := 9223372036854774808

/-- Whether the clock can name the moment this span from now. -/
def clockCanReach (s : Span) : Bool := s.seconds < clockLimit

/-- The wait that stands for a span beyond the clock: thirty years. -/
def farAway : Nat := 946080000000

/-- The milliseconds until a limit of this length strikes. -/
def limitMillis (s : Span) : Nat := if s.clockCanReach then s.ceilMillis else farAway

/-- The text of a span, such as `1.5s`, `50ms` or `0ns`. -/
def text (s : Span) : String :=
  let n := s.nanos
  String.ofList <|
    if 1000000000 ≤ n then
      Digits.ofNat (n / 1000000000) ++ fractionText 9 (n % 1000000000) ++ ['s']
    else if 1000000 ≤ n then
      Digits.ofNat (n / 1000000) ++ fractionText 6 (n % 1000000) ++ ['m', 's']
    else if 1000 ≤ n then
      Digits.ofNat (n / 1000) ++ fractionText 3 (n % 1000) ++ ['µ', 's']
    else Digits.ofNat n ++ ['n', 's']

end Span

end Telemetry
