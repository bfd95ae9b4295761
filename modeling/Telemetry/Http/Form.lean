import Telemetry.Number.Digits

/-! # Form-encoded queries

A query is a list of names with values, joined by `&`.  In either a plus sign
stands for a blank, and a percent sign with two hexadecimal digits for a byte.
Names and values are taken as bytes: nothing that is asked of them depends on
how bytes beyond ASCII are grouped into characters.
-/

namespace Telemetry.Http.Form

/-- The text between separators. -/
def splitAt (separator : UInt8) : List UInt8 → List (List UInt8)
  | [] => [[]]
  | b :: rest =>
    if b = separator then [] :: splitAt separator rest
    else match splitAt separator rest with
      | part :: parts => (b :: part) :: parts
      | [] => [[b]]

/-- The value of a byte as a hexadecimal digit. -/
def hexByte? (b : UInt8) : Option Nat := Digits.hex? (Char.ofNat b.toNat)

/-- The byte that two hexadecimal digits at the front stand for. -/
def escaped? : List UInt8 → Option UInt8
  | high :: low :: _ => do
    let h ← hexByte? high
    let l ← hexByte? low
    return UInt8.ofNat (16 * h + l)
  | _ => none

/-- Undoes the encoding of a name or a value; a percent sign without two digits
stands for itself. -/
def decode : List UInt8 → List UInt8
  | [] => []
  | b :: rest =>
    if b = '+'.toUInt8 then ' '.toUInt8 :: decode rest
    else match if b = '%'.toUInt8 then escaped? rest else none with
      | some byte => byte :: decode (rest.drop 2)
      | none => b :: decode rest
termination_by bytes => bytes.length
decreasing_by all_goals simp only [List.length_cons, List.length_drop]; omega

/-- A name with its value; without an equals sign the value is empty. -/
def pair (part : List UInt8) : List UInt8 × List UInt8 :=
  (decode (part.takeWhile (· ≠ '='.toUInt8)),
    decode ((part.dropWhile (· ≠ '='.toUInt8)).drop 1))

/-- The pairs of a query in order; empty parts do not count. -/
def pairs (query : String) : List (List UInt8 × List UInt8) :=
  ((splitAt '&'.toUInt8 query.toUTF8.toList).filter (· ≠ [])).map pair

/-! ## Whole numbers -/

/-- Why a text is no whole number of 64 bits. -/
inductive NumberFlaw where
  | empty
  | invalidDigit
  | tooLarge
  | tooSmall
deriving DecidableEq

/-- The text of a flaw. -/
def NumberFlaw.message : NumberFlaw → String
  | empty => "cannot parse integer from empty string"
  | invalidDigit => "invalid digit found in string"
  | tooLarge => "number too large to fit in target type"
  | tooSmall => "number too small to fit in target type"

/-- Reads digits up to a largest magnitude; the first digit too many is a flaw
before anything after it. -/
def readMagnitude (most : Nat) (overflow : NumberFlaw) (sum : Nat) :
    List UInt8 → Except NumberFlaw Nat
  | [] => .ok sum
  | b :: rest =>
    match Digits.decimal? (Char.ofNat b.toNat) with
    | none => .error .invalidDigit
    | some d =>
      if most < 10 * sum + d then .error overflow
      else readMagnitude most overflow (10 * sum + d) rest

/-- Reads a whole number of 64 bits with an optional sign. -/
def readInt64 (bytes : List UInt8) : Except NumberFlaw Int :=
  match bytes with
  | [] => .error .empty
  | b :: rest =>
    if b = '-'.toUInt8 then
      if rest.isEmpty then .error .invalidDigit
      else (readMagnitude Int64.minValue.toInt.natAbs .tooSmall 0 rest).map fun n => -(n : Int)
    else
      let digits := if b = '+'.toUInt8 then rest else b :: rest
      if digits.isEmpty then .error .invalidDigit
      else (readMagnitude Int64.maxValue.toInt.natAbs .tooLarge 0 digits).map fun n => (n : Int)

/-! ## A query with one field -/

/-- Why a query does not hold the field. -/
inductive FieldFlaw where
  | missing
  | duplicate
  | number (flaw : NumberFlaw)
deriving DecidableEq

/-- The text of a flaw of the field with a name. -/
def FieldFlaw.message (name : String) : FieldFlaw → String
  | missing => "missing field `" ++ name ++ "`"
  | duplicate => "duplicate field `" ++ name ++ "`"
  | number flaw => flaw.message

/-- Reads the field from pairs in order; other names do not count. -/
def readField (name : List UInt8) :
    (found : Option Int) → List (List UInt8 × List UInt8) → Except FieldFlaw Int
  | found, [] => match found with
    | some n => .ok n
    | none => .error .missing
  | found, (key, value) :: rest =>
    if key ≠ name then readField name found rest
    else if found.isSome then .error .duplicate
    else match readInt64 value with
      | .ok n => readField name (some n) rest
      | .error flaw => .error (.number flaw)

/-- The whole number that a query holds under a name. -/
def int64Field (name query : String) : Except FieldFlaw Int :=
  readField name.toUTF8.toList none (pairs query)

end Telemetry.Http.Form
