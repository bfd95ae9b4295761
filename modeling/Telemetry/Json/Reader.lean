import Telemetry.Json.Basic
import Telemetry.Number.Digits

/-! # Reading JSON

A reader for JSON texts over lists of characters.  Every step consumes what it
recognizes and returns the rest.  The recursion is bounded by a count that the
length of the text covers, so `read` never runs out of it on its own input.
-/

namespace Telemetry.Json

/-- Drops the white space of JSON. -/
def skipSpace (s : List Char) : List Char :=
  s.dropWhile fun c => c = ' ' || c = '\t' || c = '\n' || c = '\r'

/-! ## Strings -/

/-- The code of a four-digit hexadecimal escape. -/
def hexCode? (a b c d : Char) : Option Nat := do
  let a ← Digits.hex? a
  let b ← Digits.hex? b
  let c ← Digits.hex? c
  let d ← Digits.hex? d
  return ((a * 16 + b) * 16 + c) * 16 + d

/-- The code that a one-character escape stands for. -/
def escapeCode? : Char → Option Nat
  | '"' => some 0x22
  | '\\' => some 0x5c
  | '/' => some 0x2f
  | 'b' => some 0x08
  | 'f' => some 0x0c
  | 'n' => some 0x0a
  | 'r' => some 0x0d
  | 't' => some 0x09
  | _ => none

/-- The codes of a string literal after its opening quote, and what follows the
closing one.  Escaped surrogates are codes of their own. -/
def codes : List Char → Option (List Nat × List Char)
  | [] => none
  | '"' :: rest => some ([], rest)
  | '\\' :: 'u' :: a :: b :: c :: d :: rest => do
    let code ← hexCode? a b c d
    let (cs, rest) ← codes rest
    return (code :: cs, rest)
  | '\\' :: e :: rest => do
    let code ← escapeCode? e
    let (cs, rest) ← codes rest
    return (code :: cs, rest)
  | c :: rest =>
    if c.toNat < 0x20 || c = '\\' then none
    else (codes rest).map fun (cs, rest) => (c.toNat :: cs, rest)

/-- Whether a code is the first half of a surrogate pair. -/
def isHighSurrogate (n : Nat) : Bool := 0xd800 ≤ n && n < 0xdc00

/-- Whether a code is the second half of a surrogate pair. -/
def isLowSurrogate (n : Nat) : Bool := 0xdc00 ≤ n && n < 0xe000

/-- The characters of a sequence of codes; a pair of surrogates is one
character, and a surrogate alone is none. -/
def charsOf : List Nat → Option (List Char)
  | [] => some []
  | n :: rest =>
    if isHighSurrogate n then
      match rest with
      | m :: rest =>
        if isLowSurrogate m then
          (charsOf rest).map fun cs =>
            Char.ofNat (0x10000 + (n - 0xd800) * 0x400 + (m - 0xdc00)) :: cs
        else none
      | [] => none
    else if isLowSurrogate n then none
    else (charsOf rest).map (Char.ofNat n :: ·)

/-- A string literal after its opening quote. -/
def literal (s : List Char) : Option (Option String × List Char) :=
  (codes s).map fun (cs, rest) => ((charsOf cs).map String.ofList, rest)

/-! ## Numbers -/

/-- The digits in front. -/
def digitRun (s : List Char) : List Char × List Char := s.span Digits.isDecimal

/-- The whole part of a number: a zero, or digits that do not start with one. -/
def wholePart : List Char → Option (List Char × List Char)
  | '0' :: rest => some (['0'], rest)
  | s =>
    let (ds, rest) := digitRun s
    if ds.isEmpty then none else some (ds, rest)

/-- The digits behind a point, if there is a point. -/
def fractionPart : List Char → Option (Option (List Char) × List Char)
  | '.' :: rest =>
    let (ds, rest) := digitRun rest
    if ds.isEmpty then none else some (some ds, rest)
  | s => some (none, s)

/-- An exponent after its letter. -/
def exponentDigits (s : List Char) : Option (Int × List Char) :=
  let (negative, s) := match s with
    | '-' :: rest => (true, rest)
    | '+' :: rest => (false, rest)
    | s => (false, s)
  let (ds, rest) := digitRun s
  if ds.isEmpty then none
  else some (if negative then -(Digits.value ds : Int) else Digits.value ds, rest)

/-- The exponent, if there is one. -/
def exponentPart : List Char → Option (Option Int × List Char)
  | 'e' :: rest | 'E' :: rest => (exponentDigits rest).map fun (e, rest) => (some e, rest)
  | s => some (none, s)

/-- A number without its sign. -/
def unsigned (negative : Bool) (s : List Char) : Option (Json × List Char) := do
  let (whole, s) ← wholePart s
  let (fraction, s) ← fractionPart s
  let (exponent, s) ← exponentPart s
  match fraction, exponent with
  | none, none => return (.integer negative (Digits.value whole), s)
  | _, _ =>
    let places := fraction.getD []
    return (.decimal negative (Digits.value (whole ++ places))
      (exponent.getD 0 - (places.length : Int)), s)

/-- A number. -/
def number : List Char → Option (Json × List Char)
  | '-' :: rest => unsigned true rest
  | s => unsigned false s

/-! ## Values -/

mutual

/-- A value in front, after white space. -/
def value : Nat → List Char → Option (Json × List Char)
  | 0, _ => none
  | fuel + 1, s =>
    match skipSpace s with
    | 'n' :: 'u' :: 'l' :: 'l' :: rest => some (.null, rest)
    | 't' :: 'r' :: 'u' :: 'e' :: rest => some (.bool true, rest)
    | 'f' :: 'a' :: 'l' :: 's' :: 'e' :: rest => some (.bool false, rest)
    | '"' :: rest => (literal rest).map fun (s, rest) => (.string s, rest)
    | '[' :: rest =>
      match skipSpace rest with
      | ']' :: rest => some (.array [], rest)
      | rest => (items fuel rest).map fun (vs, rest) => (.array vs, rest)
    | '\x7b' :: rest =>
      match skipSpace rest with
      | '\x7d' :: rest => some (.object [], rest)
      | rest => (members fuel rest).map fun (ms, rest) => (.object ms, rest)
    | s => number s

/-- The items of an array up to its closing bracket, at least one. -/
def items : Nat → List Char → Option (List Json × List Char)
  | 0, _ => none
  | fuel + 1, s =>
    match value fuel s with
    | none => none
    | some (v, s) =>
      match skipSpace s with
      | ',' :: rest => (items fuel rest).map fun (vs, rest) => (v :: vs, rest)
      | ']' :: rest => some ([v], rest)
      | _ => none

/-- The members of an object up to its closing brace, at least one. -/
def members : Nat → List Char → Option (List (Option String × Json) × List Char)
  | 0, _ => none
  | fuel + 1, s =>
    match skipSpace s with
    | '"' :: rest =>
      match literal rest with
      | none => none
      | some (name, rest) =>
        match skipSpace rest with
        | ':' :: rest =>
          match value fuel rest with
          | none => none
          | some (v, rest) =>
            match skipSpace rest with
            | ',' :: rest =>
              (members fuel rest).map fun (ms, rest) => ((name, v) :: ms, rest)
            | '\x7d' :: rest => some ([(name, v)], rest)
            | _ => none
        | _ => none
    | _ => none

end

/-- The value of a whole text; only white space may follow it. -/
def readChars (s : List Char) : Option Json :=
  match value (2 * s.length + 2) s with
  | some (j, rest) => if (skipSpace rest).isEmpty then some j else none
  | none => none

/-- The value of a whole text. -/
def read (s : String) : Option Json := readChars s.toList

end Telemetry.Json
