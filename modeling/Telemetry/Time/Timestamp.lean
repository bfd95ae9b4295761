import Telemetry.Text.Blank
import Telemetry.Time.Calendar
import Telemetry.Time.Instant

/-! # The text of an instant

An instant is written in UTC with the fewest of 0, 3, 6 or 9 fraction digits
that lose nothing, and a leap second as second 60.  Reading is lenient: blanks
may stand before numbers and separators, the fraction may have any length, the
zone may be `Z`, `UTC` or an offset of hours and minutes, and a year with a sign
may have any number of digits.
-/

namespace Telemetry

/-- The broken-down parts of an instant. -/
structure CivilTime where
  date : Date
  hour : Nat
  minute : Nat
  second : Nat
  /-- Nanoseconds; beyond a full second in a leap second. -/
  nanos : Nat
deriving DecidableEq, Repr

namespace CivilTime

/-- The parts of an instant in UTC. -/
def ofInstant (t : Instant) : CivilTime :=
  let rest := (t.seconds % 86400).toNat
  ⟨Date.ofDays (t.seconds / 86400), rest / 3600, rest / 60 % 60, rest % 60, t.nanos⟩

/-- The instant with these parts, at an offset in seconds from UTC.  The local
time as well as the instant have to be in range. -/
def toInstant? (c : CivilTime) (offset : Int) : Option Instant := do
  guard c.date.isValid
  let localSeconds : Int := c.date.toDays * 86400 + c.hour * 3600 + c.minute * 60 + c.second
  let _ ← Instant.ofParts? localSeconds c.nanos
  Instant.ofParts? (localSeconds - offset) c.nanos

end CivilTime

namespace Timestamp

/-! ## Writing -/

/-- A year: four digits, or a sign and at least four digits outside 0 to 9999. -/
def yearText (year : Int) : List Char :=
  if 0 ≤ year ∧ year ≤ 9999 then Digits.padded 4 year.natAbs
  else (if year < 0 then '-' else '+') :: Digits.padded 4 year.natAbs

/-- The fraction of a second in 0, 3, 6 or 9 digits. -/
def fraction (nanos : Nat) : List Char :=
  if nanos = 0 then []
  else if nanos % 1000000 = 0 then '.' :: Digits.fixed 10 3 (nanos / 1000000)
  else if nanos % 1000 = 0 then '.' :: Digits.fixed 10 6 (nanos / 1000)
  else '.' :: Digits.fixed 10 9 nanos

/-- The date part. -/
def dateText (d : Date) : List Char :=
  yearText d.year ++ '-' :: Digits.fixed 10 2 d.month ++ '-' :: Digits.fixed 10 2 d.day

/-- The time of day, with second 60 in a leap second. -/
def clockText (c : CivilTime) : List Char :=
  let leap := decide (1000000000 ≤ c.nanos)
  let second := if leap then c.second + 1 else c.second
  let nanos := if leap then c.nanos - 1000000000 else c.nanos
  Digits.fixed 10 2 c.hour ++ ':' :: Digits.fixed 10 2 c.minute ++
    ':' :: Digits.fixed 10 2 second ++ fraction nanos

/-- The written form of an instant, such as `2024-03-01T10:00:00.500Z`. -/
def write (t : Instant) : List Char :=
  let c := CivilTime.ofInstant t
  dateText c.date ++ 'T' :: clockText c ++ ['Z']

/-- The form of an instant in messages, such as `2024-03-01 10:00:00.500 UTC`. -/
def display (t : Instant) : String :=
  let c := CivilTime.ofInstant t
  String.ofList (dateText c.date ++ ' ' :: clockText c ++ [' ', 'U', 'T', 'C'])

/-! ## Reading -/

/-- A run of one to `most` digits in front. -/
def number (most : Nat) (s : List Char) : Option (Nat × List Char) :=
  let ds := (s.take most).takeWhile Digits.isDecimal
  if ds.isEmpty then none else some (Digits.value ds, s.drop ds.length)

/-- A number of one or two digits after blanks, within bounds. -/
def field (low high : Nat) (s : List Char) : Option (Nat × List Char) := do
  let (n, s) ← number 2 (Text.trimStart s)
  guard (low ≤ n && n ≤ high)
  return (n, s)

/-- A separator after blanks. -/
def separator (c : Char) (s : List Char) : Option (List Char) :=
  match Text.trimStart s with
  | [] => none
  | d :: rest => if d = c then some rest else none

/-- A year: up to four digits, or a sign and any number of digits. -/
def year (s : List Char) : Option (Int × List Char) :=
  match Text.trimStart s with
  | '-' :: rest => (number rest.length rest).map fun (n, s) => (-(n : Int), s)
  | '+' :: rest => (number rest.length rest).map fun (n, s) => ((n : Int), s)
  | s => (number 4 s).map fun (n, s) => ((n : Int), s)

/-- A fraction of a second in nanoseconds: its digits are filled up with zeros to
nine, those beyond the ninth are dropped, and without a point there is none. -/
def nanos (s : List Char) : Option (Nat × List Char) :=
  match s with
  | '.' :: rest =>
    let ds := rest.takeWhile Digits.isDecimal
    if ds.isEmpty then none
    else some (Digits.value ((ds ++ List.replicate 9 '0').take 9), rest.drop ds.length)
  | _ => some (0, s)

/-- Whether a text starts with `UTC` in any case. -/
def startsWithUtc : List Char → Bool
  | u :: t :: c :: _ =>
    (u = 'U' || u = 'u') && (t = 'T' || t = 't') && (c = 'C' || c = 'c')
  | _ => false

/-- The hours and minutes of an offset, in seconds; any colons and blanks may
stand between them. -/
def offset (s : List Char) : Option (Nat × List Char) :=
  match s with
  | h₁ :: h₂ :: rest => do
    let h₁ ← Digits.decimal? h₁
    let h₂ ← Digits.decimal? h₂
    match rest.dropWhile fun c => c = ':' || Text.isBlank c with
    | m₁ :: m₂ :: rest =>
      let m₁ ← Digits.decimal? m₁
      let m₂ ← Digits.decimal? m₂
      guard (m₁ ≤ 5)
      return ((h₁ * 10 + h₂) * 3600 + (m₁ * 10 + m₂) * 60, rest)
    | _ => none
  | _ => none

/-- A time zone as seconds east of UTC. -/
def zone (s : List Char) : Option (Int × List Char) :=
  if startsWithUtc s then some (0, s.drop 3)
  else match s with
    | 'Z' :: rest | 'z' :: rest => some (0, rest)
    | '+' :: rest => (offset rest).map fun (n, s) => ((n : Int), s)
    | '-' :: rest | '\u2212' :: rest => (offset rest).map fun (n, s) => (-(n : Int), s)
    | _ => none

/-- The sign between date and time. -/
def dateEnd : List Char → Option (List Char)
  | 'T' :: rest | 't' :: rest | ' ' :: rest => some rest
  | _ => none

/-- The parts of a written instant and its offset from UTC. -/
def civil (s : List Char) : Option (CivilTime × Int × List Char) := do
  let (year, s) ← year s
  let s ← separator '-' s
  let (month, s) ← field 1 12 s
  let s ← separator '-' s
  let (day, s) ← field 1 31 s
  let s ← dateEnd s
  let (hour, s) ← field 0 23 s
  let s ← separator ':' s
  let (minute, s) ← field 0 59 s
  let s ← separator ':' s
  let (second, s) ← field 0 60 s
  let (nanos, s) ← nanos s
  let (offset, s) ← zone (Text.trimStart s)
  guard (-86400 < offset ∧ offset < 86400)
  let leap := decide (second = 60)
  let time : CivilTime :=
    ⟨⟨year, month, day⟩, hour, minute, if leap then 59 else second,
      if leap then nanos + 1000000000 else nanos⟩
  return (time, offset, s)

/-- The instant that a text names; nothing but blanks may follow it. -/
def read (s : List Char) : Option Instant := do
  let (time, offset, rest) ← civil s
  guard (Text.trimStart rest).isEmpty
  time.toInstant? offset

end Timestamp

end Telemetry
