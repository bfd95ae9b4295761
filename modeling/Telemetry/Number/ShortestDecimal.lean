import Telemetry.Number.Digits

/-! # Whole numbers in floating point, written with the fewest digits

A gauge holds its value in binary floating point with 53 significant bits.  A
whole number is first rounded to such a number, ties to the even neighbour, and
is then written by the fewest leading digits that still read back as the same
floating-point number, filled up with zeros and never with an exponent.
-/

namespace Telemetry.ShortestDecimal

/-- A whole number with 53 significant bits: `mantissa · 2 ^ shift`. -/
structure Rounded where
  mantissa : Nat
  shift : Nat
deriving DecidableEq, Repr

/-- The nearest number with 53 significant bits, ties to an even mantissa. -/
def Rounded.ofNat (n : Nat) : Rounded :=
  let shift := n.log2 + 1 - 53
  let unit := 1 <<< shift
  let low := n / unit
  let rest := n % unit
  let mantissa :=
    if 2 * rest < unit then low
    else if unit < 2 * rest then low + 1
    else if low % 2 = 0 then low else low + 1
  if mantissa = 1 <<< 53 then ⟨1 <<< 52, shift + 1⟩ else ⟨mantissa, shift⟩

/-- The number itself. -/
def Rounded.toNat (r : Rounded) : Nat := r.mantissa <<< r.shift

/-- Whether a whole number reads back as the given one: it lies within half a
unit of it (a quarter below a power of two), ends included for even mantissas. -/
def Rounded.readsBack (r : Rounded) (candidate : Nat) : Bool :=
  let c := 4 * candidate
  let high := (4 * r.mantissa + 2) <<< r.shift
  let low :=
    if r.mantissa = 1 <<< 52 then (4 * r.mantissa - 1) <<< r.shift
    else (4 * r.mantissa - 2) <<< r.shift
  if r.mantissa % 2 = 0 then low ≤ c && c ≤ high else low < c && c < high

/-- The best multiple of `10 ^ zeros` that reads back, if there is one: of the
two neighbours of the number on that grid the nearer that does. -/
def Rounded.onGrid? (r : Rounded) (zeros : Nat) : Option Nat :=
  let unit := Nat.pow 10 zeros
  let below := r.toNat / unit * unit
  let above := if below = r.toNat then below else below + unit
  let nearer := if r.toNat - below ≤ above - r.toNat then below else above
  let farther := if nearer = below then above else below
  if r.readsBack nearer then some nearer
  else if r.readsBack farther then some farther
  else none

/-- Tries grids from coarse to fine; the finest holds the number itself. -/
def Rounded.shortest (r : Rounded) : (zeros : Nat) → Nat
  | 0 => r.toNat
  | zeros + 1 => (r.onGrid? (zeros + 1)).getD (r.shortest zeros)

/-- The digits of a whole number that passed through floating point. -/
def digits (n : Nat) : List Char :=
  let r := Rounded.ofNat n
  if r.shift = 0 then Digits.ofNat n else Digits.ofNat (r.shortest (Digits.ofNat n).length)

/-- The text of a whole number that passed through floating point. -/
def text (n : Int) : String :=
  String.ofList (if n < 0 then '-' :: digits n.natAbs else digits n.natAbs)

end Telemetry.ShortestDecimal
