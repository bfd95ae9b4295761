/-! # How alike two texts are

Two texts are alike when many of their characters match: equal characters whose
places lie less than about half the longer text apart.  The measure is the mean
of the share of matching characters in either text and the share of matches that
stand in the same order in both.
-/

namespace Telemetry.Text

/-- A character, and whether it has found its match. -/
abbrev Marked := Char × Bool

/-- Marks the first free character equal to `c` among those whose places count
from `place` and lie between two bounds. -/
def claim (c : Char) (low high : Nat) : (place : Nat) → List Marked → Option (List Marked)
  | _, [] => none
  | place, (d, taken) :: rest =>
    if low ≤ place && place < high && c = d && !taken then some ((d, true) :: rest)
    else (claim c low high (place + 1) rest).map ((d, taken) :: ·)

/-- The characters of the first text that find a match in the second, and the
second text with its matches marked. -/
def matchUp (reach : Nat) : (place : Nat) → List Char → List Marked → List Char × List Marked
  | _, [], marked => ([], marked)
  | place, c :: rest, marked =>
    match claim c (place - reach) (place + reach + 1) 0 marked with
    | some marked =>
      let (found, marked) := matchUp reach (place + 1) rest marked
      (c :: found, marked)
    | none => matchUp reach (place + 1) rest marked

/-- The likeness of two texts, from zero to one. -/
def similarity (a b : String) : Float :=
  let a := a.toList
  let b := b.toList
  if a.isEmpty && b.isEmpty then 1.0
  else
    let reach := max a.length b.length / 2 - 1
    let (fromA, marked) := matchUp reach 0 a (b.map (·, false))
    let fromB := (marked.filter Prod.snd).map Prod.fst
    let found := fromA.length
    let swaps := ((fromA.zip fromB).countP fun p => p.1 ≠ p.2) / 2
    if found = 0 then 0.0
    else
      (Float.ofNat found / Float.ofNat a.length + Float.ofNat found / Float.ofNat b.length +
        Float.ofNat (found - swaps) / Float.ofNat found) / 3.0

end Telemetry.Text
