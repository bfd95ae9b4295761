import Telemetry.Number.Digits

/-! # Binary floating point, taken apart

A `Float` is decoded into a sign, a whole mantissa and a power of two, and all
that this library derives from floats (rounding to whole numbers, texts) is
computed on those exact numbers.
-/

namespace Telemetry

/-- What a floating-point number stands for. -/
inductive Binary64 where
  | nan
  | infinite (negative : Bool)
  /-- The number `± mantissa · 2 ^ exponent`. -/
  | finite (negative : Bool) (mantissa : Nat) (exponent : Int)
deriving DecidableEq, Repr

namespace Binary64

/-- Takes the sixty-four bits of a number apart. -/
def ofBits (bits : Nat) : Binary64 :=
  let negative : Bool := (bits >>> 63) % 2 = 1
  let biased : Nat := (bits >>> 52) % 2048
  let fraction : Nat := bits % (1 <<< 52)
  if biased = 2047 then
    if fraction = 0 then .infinite negative else .nan
  else if biased = 0 then .finite negative fraction (-1074)
  else .finite negative ((1 <<< 52) + fraction) ((biased : Int) - 1075)

/-- What a `Float` stands for. -/
def ofFloat (x : Float) : Binary64 := ofBits x.toBits.toNat

/-- The nearest whole number to `mantissa · 2 ^ exponent`; a half is rounded up. -/
def roundMagnitude (mantissa : Nat) : (exponent : Int) → Nat
  | .ofNat e => mantissa <<< e
  | .negSucc e => (mantissa + (1 <<< e)) >>> (e + 1)

/-- The nearest whole number, halves away from zero; no number counts as zero,
and an infinity is beyond every bound. -/
def round (low high : Int) : Binary64 → Int
  | .nan => 0
  | .infinite true => low
  | .infinite false => high
  | .finite true m e => max low (min high (-(roundMagnitude m e : Int)))
  | .finite false m e => max low (min high (roundMagnitude m e : Int))

/-- The whole part, toward zero, between two bounds; no number counts as zero. -/
def truncate (low high : Int) : Binary64 → Int
  | .nan => 0
  | .infinite true => low
  | .infinite false => high
  | .finite negative m e =>
    let magnitude : Int := match e with
      | .ofNat e => ((m <<< e : Nat) : Int)
      | .negSucc e => ((m >>> (e + 1) : Nat) : Int)
    max low (min high (if negative then -magnitude else magnitude))

/-- Whether the number is neither infinite nor undefined. -/
def isFinite : Binary64 → Bool
  | .finite .. => true
  | _ => false

end Binary64

/-- The nearest 64-bit whole number to a reading: halves go away from zero, what
is out of range goes to the nearer end, and no number counts as zero. -/
def roundToInt64 (x : Float) : Int64 :=
  Int64.ofInt ((Binary64.ofFloat x).round Int64.minValue.toInt Int64.maxValue.toInt)

/-- The bits of the double that is the same number as the single with these bits. -/
def widenBits (bits : Nat) : Nat :=
  let sign := (bits >>> 31) <<< 63
  let biased := (bits >>> 23) % 256
  let fraction := bits % (1 <<< 23)
  if biased = 255 then sign + (2047 <<< 52) + (fraction <<< 29)
  else if biased ≠ 0 then sign + ((biased + 896) <<< 52) + (fraction <<< 29)
  else if fraction = 0 then sign
  else
    -- too small for a normal single, but far within the normal doubles
    let place := fraction.log2
    sign + ((place + 874) <<< 52) + ((fraction <<< (52 - place)) - (1 <<< 52))

/-- A number of single precision as one of double precision; nothing is lost. -/
def widen (x : Float32) : Float := Float.ofBits (widenBits x.toBits.toNat).toUInt64

/-- The bits of a number as sixteen hexadecimal digits. -/
def bitText (x : Float) : String :=
  String.ofList (Digits.fixed 16 16 x.toBits.toNat)

end Telemetry
