import Telemetry.Number.Digits
import Telemetry.Time.Calendar
import Telemetry.Toml.Basic

/-! # Reading TOML

A reader for TOML 1.0 over lists of characters.  Every step consumes what it
recognizes and returns the rest; `none` means that the text is no document.
-/

namespace Telemetry.Toml

/-! ## Characters -/

/-- Space and tab. -/
def isSpace (c : Char) : Bool := c = ' ' || c = '\t'

/-- Drops spaces and tabs. -/
def skipSpace (s : List Char) : List Char := s.dropWhile isSpace

/-- What a comment may hold, and a string as it is. -/
def isTextChar (c : Char) : Bool := c = '\t' || (0x20 ≤ c.toNat && c.toNat ≠ 0x7f)

/-- What a key without quotes may hold. -/
def isBareChar (c : Char) : Bool :=
  ('a' ≤ c && c ≤ 'z') || ('A' ≤ c && c ≤ 'Z') || ('0' ≤ c && c ≤ '9') || c = '_' || c = '-'

/-- The rest after a line end. -/
def newline? : List Char → Option (List Char)
  | '\n' :: rest => some rest
  | '\r' :: '\n' :: rest => some rest
  | _ => none

/-- Drops a comment. -/
def skipComment : List Char → List Char
  | '#' :: rest => rest.dropWhile isTextChar
  | s => s

/-- Drops spaces, comments and line ends. -/
def skipBlank : Nat → List Char → List Char
  | 0, s => s
  | fuel + 1, s =>
    let s := skipComment (skipSpace s)
    match newline? s with
    | some rest => skipBlank fuel rest
    | none => s

/-! ## Strings -/

/-- The number that hexadecimal digits write. -/
def hexValue? (ds : List Char) : Option Nat :=
  ds.foldlM (fun n c => (Digits.hex? c).map (16 * n + ·)) 0

/-- The character with a code. -/
def scalar? (n : Nat) : Option Char :=
  if n < 0xd800 || (0xe000 ≤ n && n < 0x110000) then some (Char.ofNat n) else none

/-- The character that a one-letter escape stands for. -/
def escape? : Char → Option Char
  | 'b' => some '\x08'
  | 't' => some '\t'
  | 'n' => some '\n'
  | 'f' => some '\x0c'
  | 'r' => some '\r'
  | '"' => some '"'
  | '\\' => some '\\'
  | _ => none

/-- Puts a character in front of what was read after it. -/
def prepend (c : Option Char) (rest : Option (List Char × List Char)) :
    Option (List Char × List Char) := do
  let c ← c
  let (text, rest) ← rest
  return (c :: text, rest)

/-- A string on one line with escapes, after its opening quote. -/
def basicText : List Char → Option (List Char × List Char)
  | '"' :: rest => some ([], rest)
  | '\\' :: 'u' :: a :: b :: c :: d :: rest =>
    prepend ((hexValue? [a, b, c, d]).bind scalar?) (basicText rest)
  | '\\' :: 'U' :: a :: b :: c :: d :: e :: f :: g :: h :: rest =>
    prepend ((hexValue? [a, b, c, d, e, f, g, h]).bind scalar?) (basicText rest)
  | '\\' :: e :: rest => prepend (escape? e) (basicText rest)
  | c :: rest => if isTextChar c then prepend (some c) (basicText rest) else none
  | [] => none

/-- A string on one line without escapes, after its opening quote. -/
def literalText : List Char → Option (List Char × List Char)
  | '\x27' :: rest => some ([], rest)
  | c :: rest => if isTextChar c then prepend (some c) (literalText rest) else none
  | [] => none

/-- A string over several lines with escapes, after its opening quotes.  A
backslash at the end of a line drops all blanks and line ends that follow;
`dropping` is set while that goes on. -/
def basicLines : (dropping : Bool) → List Char → Option (List Char × List Char)
  | _, '"' :: '"' :: '"' :: '"' :: '"' :: rest => some (['"', '"'], rest)
  | _, '"' :: '"' :: '"' :: '"' :: rest => some (['"'], rest)
  | _, '"' :: '"' :: '"' :: rest => some ([], rest)
  | _, '\\' :: 'u' :: a :: b :: c :: d :: rest =>
    prepend ((hexValue? [a, b, c, d]).bind scalar?) (basicLines false rest)
  | _, '\\' :: 'U' :: a :: b :: c :: d :: e :: f :: g :: h :: rest =>
    prepend ((hexValue? [a, b, c, d, e, f, g, h]).bind scalar?) (basicLines false rest)
  | _, '\\' :: e :: rest =>
    if isSpace e || e = '\n' || e = '\r' then
      if (newline? (skipSpace (e :: rest))).isSome then basicLines true rest else none
    else prepend (escape? e) (basicLines false rest)
  | dropping, '\r' :: '\n' :: rest =>
    if dropping then basicLines true rest else prepend (some '\n') (basicLines false rest)
  | dropping, c :: rest =>
    if dropping && (isSpace c || c = '\n') then basicLines true rest
    else if c = '\n' || isTextChar c then prepend (some c) (basicLines false rest)
    else none
  | _, [] => none

/-- A string over several lines without escapes, after its opening quotes. -/
def literalLines : List Char → Option (List Char × List Char)
  | '\x27' :: '\x27' :: '\x27' :: '\x27' :: '\x27' :: rest => some (['\x27', '\x27'], rest)
  | '\x27' :: '\x27' :: '\x27' :: '\x27' :: rest => some (['\x27'], rest)
  | '\x27' :: '\x27' :: '\x27' :: rest => some ([], rest)
  | '\r' :: '\n' :: rest => prepend (some '\n') (literalLines rest)
  | c :: rest =>
    if c = '\n' || isTextChar c then prepend (some c) (literalLines rest) else none
  | [] => none

/-- Drops one line end, if there is one. -/
def skipNewline (s : List Char) : List Char := (newline? s).getD s

/-- A string of any kind. -/
def stringValue : List Char → Option (List Char × List Char)
  | '"' :: '"' :: '"' :: rest =>
    basicLines false (skipNewline rest)
  | '\x27' :: '\x27' :: '\x27' :: rest => literalLines (skipNewline rest)
  | '"' :: rest => basicText rest
  | '\x27' :: rest => literalText rest
  | _ => none

/-! ## Keys -/

/-- One part of a key. -/
def simpleKey (s : List Char) : Option (String × List Char) :=
  match s with
  | '"' :: rest => (basicText rest).map fun (t, rest) => (String.ofList t, rest)
  | '\x27' :: rest => (literalText rest).map fun (t, rest) => (String.ofList t, rest)
  | _ =>
    let name := s.takeWhile isBareChar
    if name.isEmpty then none else some (String.ofList name, s.drop name.length)

/-- The number of parts that a dotted key may not reach. -/
def maxDepth : Nat := 80

/-- A key with its parts before the last one; blanks may surround every part. -/
def dottedKey : Nat → List Char → Option (List String × String × List Char)
  | 0, _ => none
  | fuel + 1, s => do
    let (part, s) ← simpleKey (skipSpace s)
    match skipSpace s with
    | '.' :: rest =>
      let (path, key, rest) ← dottedKey fuel rest
      return (part :: path, key, rest)
    | s => return ([], part, s)

/-- A key of a permitted number of parts. -/
def key (s : List Char) : Option (List String × String × List Char) := dottedKey (maxDepth - 1) s

/-! ## Numbers and dates -/

/-- The digits after the first, with single underscores between them. -/
def moreDigits (isDigit : Char → Bool) : List Char → List Char × List Char
  | '_' :: c :: rest =>
    if isDigit c then
      let (ds, rest) := moreDigits isDigit rest
      (c :: ds, rest)
    else ([], '_' :: c :: rest)
  | c :: rest =>
    if isDigit c then
      let (ds, rest) := moreDigits isDigit rest
      (c :: ds, rest)
    else ([], c :: rest)
  | [] => ([], [])

/-- Digits with single underscores between them. -/
def digitGroup (isDigit : Char → Bool) : List Char → Option (List Char × List Char)
  | c :: rest =>
    if isDigit c then
      let (ds, rest) := moreDigits isDigit rest
      some (c :: ds, rest)
    else none
  | [] => none

/-- Digits of a decimal number that does not start with a spare zero. -/
def decimalGroup : List Char → Option (List Char × List Char)
  | '0' :: rest => some (['0'], rest)
  | s => digitGroup Digits.isDecimal s

/-- The value of a digit group in a base. -/
def groupValue (base : Nat) (ds : List Char) : Nat :=
  ds.foldl (fun n c => base * n + (Digits.hex? c).getD 0) 0

/-- An integer in the range of 64 bits with sign. -/
def integer? (n : Int) : Option Toml :=
  if Int64.minValue.toInt ≤ n ∧ n ≤ Int64.maxValue.toInt then some (.integer n) else none

/-- A sign in front; the flag says whether it is a minus. -/
def sign : List Char → Bool × List Char
  | '-' :: rest => (true, rest)
  | '+' :: rest => (false, rest)
  | s => (false, s)

/-- The fraction and the exponent of a decimal number, at least one of them:
the digits behind the point and the power of ten. -/
def decimalTail (s : List Char) : Option (List Char × Int × List Char) := do
  let (places, hasPlaces, s) ← match s with
    | '.' :: rest => (digitGroup Digits.isDecimal rest).map fun (ds, rest) => (ds, true, rest)
    | s => some ([], false, s)
  match s with
  | 'e' :: rest | 'E' :: rest =>
    let (negative, rest) := sign rest
    let (ds, rest) ← digitGroup Digits.isDecimal rest
    let e : Int := Digits.value ds
    return (places, if negative then -e else e, rest)
  | s => if hasPlaces then return (places, 0, s) else none

/-- Whether a decimal number is too large for floating point: it rounds to a
power of two beyond the largest exponent. -/
def overflows (mantissa : Nat) (exponent : Int) : Bool :=
  let digits := (Digits.ofNat mantissa).length
  if mantissa = 0 then false
  else if exponent + digits < 300 then false
  else if 400 < exponent + digits then true
  else
    let bound := (1 <<< 1024) - (1 <<< 970)
    match exponent with
    | .ofNat e => bound ≤ mantissa * Nat.pow 10 e
    | .negSucc e => bound * Nat.pow 10 (e + 1) ≤ mantissa

/-- A decimal number. -/
def decimal (s : List Char) : Option (Toml × List Char) := do
  let (negative, s) := sign s
  match s with
  | 'i' :: 'n' :: 'f' :: rest | 'n' :: 'a' :: 'n' :: rest => return (.float, rest)
  | s =>
    let (whole, s) ← decimalGroup s
    match decimalTail s with
    | some (places, exponent, rest) =>
      let mantissa := Digits.value (whole ++ places)
      guard (negative || !overflows mantissa (exponent - places.length))
      return (.float, rest)
    | none =>
      let n : Int := Digits.value whole
      let v ← integer? (if negative then -n else n)
      return (v, s)

/-- A number in any notation. -/
def numberValue (s : List Char) : Option (Toml × List Char) :=
  let inBase (base : Nat) (isDigit : Char → Bool) (s : List Char) := do
    let (ds, rest) ← digitGroup isDigit s
    let v ← integer? (groupValue base ds)
    return (v, rest)
  match s with
  | '0' :: 'x' :: rest => inBase 16 (fun c => (Digits.hex? c).isSome) rest
  | '0' :: 'o' :: rest => inBase 8 (fun c => '0' ≤ c && c ≤ '7') rest
  | '0' :: 'b' :: rest => inBase 2 (fun c => c = '0' || c = '1') rest
  | s => decimal s

/-- A number of exactly `width` digits within bounds. -/
def fixedNumber (width low high : Nat) (s : List Char) : Option (Nat × List Char) :=
  let ds := s.take width
  if ds.length = width ∧ ds.all Digits.isDecimal then
    let n := Digits.value ds
    if low ≤ n ∧ n ≤ high then some (n, s.drop width) else none
  else none

/-- A given character. -/
def expect (c : Char) : List Char → Option (List Char)
  | d :: rest => if d = c then some rest else none
  | [] => none

/-- A time of day. -/
def timeOfDay (s : List Char) : Option (List Char) := do
  let (_, s) ← fixedNumber 2 0 23 s
  let s ← expect ':' s
  let (_, s) ← fixedNumber 2 0 59 s
  let s ← expect ':' s
  let (_, s) ← fixedNumber 2 0 60 s
  match s with
  | '.' :: rest =>
    let ds := rest.takeWhile Digits.isDecimal
    if ds.isEmpty then none else some (rest.drop ds.length)
  | s => some s

/-- An offset from universal time, if there is one. -/
def zoneOffset (s : List Char) : Option (List Char) :=
  match s with
  | 'Z' :: rest | 'z' :: rest => some rest
  | '+' :: rest | '-' :: rest => do
    let (_, s) ← fixedNumber 2 0 23 rest
    let s ← expect ':' s
    let (_, s) ← fixedNumber 2 0 59 s
    return s
  | s => some s

/-- A calendar date. -/
def calendarDate (s : List Char) : Option (List Char) := do
  let (year, s) ← fixedNumber 4 0 9999 s
  let s ← expect '-' s
  let (month, s) ← fixedNumber 2 1 12 s
  let s ← expect '-' s
  let (_, s) ← fixedNumber 2 1 (Date.daysInMonth year month) s
  return s

/-- A date, a time of day, or both. -/
def dateOrTime (s : List Char) : Option (List Char) :=
  match calendarDate s with
  | some s =>
    let withTime := match s with
      | 'T' :: rest | 't' :: rest | ' ' :: rest => (timeOfDay rest).bind zoneOffset
      | _ => none
    some (withTime.getD s)
  | none => timeOfDay s

/-- A number, a date or a time. -/
def numberOrDate (s : List Char) : Option (Toml × List Char) :=
  match dateOrTime s with
  | some rest => some (.dateTime, rest)
  | none => numberValue s

/-! ## Values -/

mutual

/-- A value; arrays and inline tables may be nested `depth` deep in it. -/
def value : (fuel depth : Nat) → List Char → Option (Toml × List Char)
  | 0, _, _ => none
  | fuel + 1, depth, s =>
    match s with
    | '"' :: _ | '\x27' :: _ =>
      (stringValue s).map fun (t, rest) => (.string (String.ofList t), rest)
    | 't' :: 'r' :: 'u' :: 'e' :: rest => some (.boolean true, rest)
    | 'f' :: 'a' :: 'l' :: 's' :: 'e' :: rest => some (.boolean false, rest)
    | '[' :: rest =>
      match depth with
      | 0 => none
      | depth + 1 => (items fuel depth rest).map fun (vs, rest) => (.array vs, rest)
    | '\x7b' :: rest =>
      match depth with
      | 0 => none
      | depth + 1 =>
        match skipSpace rest with
        | '\x7d' :: rest => some (.table [], rest)
        | s =>
          match pairs fuel depth s with
          | none => none
          | some (ps, rest) => (inlineTable ps).map fun t => (t, rest)
    | s => numberOrDate s

/-- The items of an array up to its closing bracket. -/
def items : (fuel depth : Nat) → List Char → Option (List Toml × List Char)
  | 0, _, _ => none
  | fuel + 1, depth, s =>
    match skipBlank s.length s with
    | ']' :: rest => some ([], rest)
    | s =>
      match value fuel depth s with
      | none => none
      | some (v, s) =>
        match skipBlank s.length s with
        | ',' :: rest => (items fuel depth rest).map fun (vs, rest) => (v :: vs, rest)
        | ']' :: rest => some ([v], rest)
        | _ => none

/-- The pairs of an inline table up to its closing brace, at least one. -/
def pairs : (fuel depth : Nat) → List Char →
    Option (List (List String × String × Toml) × List Char)
  | 0, _, _ => none
  | fuel + 1, depth, s =>
    match key s with
    | some (path, name, '=' :: rest) =>
      match value fuel depth (skipSpace rest) with
      | none => none
      | some (v, s) =>
        match skipSpace s with
        | ',' :: rest =>
          (pairs fuel depth rest).map fun (ps, rest) => ((path, name, v) :: ps, rest)
        | '\x7d' :: rest => some ([(path, name, v)], rest)
        | _ => none
    | _ => none

end

/-! ## Documents -/

/-- The end of a line: a comment may stand there. -/
def lineEnd (s : List Char) : Option (List Char) :=
  match skipComment (skipSpace s) with
  | [] => some []
  | s => newline? s

/-- A statement, without the end of its line. -/
def statement (s : List Char) : Option (Statement × List Char) :=
  match s with
  | '[' :: '[' :: rest =>
    match key rest with
    | some (path, name, ']' :: ']' :: rest) => some (.elementHeader path name, rest)
    | _ => none
  | '[' :: rest =>
    match key rest with
    | some (path, name, ']' :: rest) => some (.header path name, rest)
    | _ => none
  | s =>
    match key s with
    | some (path, name, '=' :: rest) =>
      let s := skipSpace rest
      (value (2 * s.length + 2) (maxDepth - 1) s).map fun (v, rest) => (.pair path name v, rest)
    | _ => none

/-- The statements of a document, line by line. -/
def statements : Nat → List Char → Option (List Statement)
  | 0, _ => some []
  | fuel + 1, s =>
    match skipSpace s with
    | [] => some []
    | s =>
      match lineEnd s with
      | some rest => statements fuel rest
      | none => do
        let (first, rest) ← statement s
        let rest ← lineEnd rest
        let others ← statements fuel rest
        return first :: others

/-- Drops a byte order mark. -/
def skipMark : List Char → List Char
  | '\ufeff' :: rest => rest
  | s => s

/-- The document that a text holds. -/
def read (text : String) : Option Toml :=
  let s := skipMark text.toList
  (statements (s.length + 1) s).bind ofStatements

end Telemetry.Toml
