/-! # Blank characters

The characters with the Unicode property White_Space.  They are what trimming
removes and what the lenient readers of this library skip.
-/

namespace Telemetry.Text

/-- The Unicode property White_Space. -/
def isBlank (c : Char) : Bool :=
  let n := c.toNat
  (9 ≤ n && n ≤ 13) || n == 0x20 || n == 0x85 || n == 0xa0 || n == 0x1680 ||
    (0x2000 ≤ n && n ≤ 0x200a) || n == 0x2028 || n == 0x2029 || n == 0x202f ||
    n == 0x205f || n == 0x3000

/-- Drops blanks in front. -/
def trimStart (s : List Char) : List Char := s.dropWhile isBlank

/-- Drops blanks at the end. -/
def trimEnd (s : List Char) : List Char := (s.reverse.dropWhile isBlank).reverse

/-- Drops blanks on both sides. -/
def trim (s : List Char) : List Char := trimEnd (trimStart s)

/-- Whether a text holds blanks only. -/
def allBlank (s : String) : Bool := s.toList.all isBlank

end Telemetry.Text
