/-! # JSON values

A JSON text as a value: objects keep their members in order and may repeat a
name, numbers keep apart whole numbers and decimals, and a string literal with
an unpaired surrogate is a string that names no text.  The last part reads
records out of values: what a record accepts as its own written form.
-/

namespace Telemetry

/-- A JSON value. -/
inductive Json where
  | null
  | bool (b : Bool)
  /-- A number without fraction and exponent; minus zero differs from zero. -/
  | integer (negative : Bool) (magnitude : Nat)
  /-- The number `± mantissa · 10 ^ exponent`, written with a fraction or an exponent. -/
  | decimal (negative : Bool) (mantissa : Nat) (exponent : Int)
  /-- A string; `none` is a literal that names no text. -/
  | string (s : Option String)
  | array (items : List Json)
  /-- An object; a name that is `none` is a literal that names no text. -/
  | object (members : List (Option String × Json))
deriving Repr, Inhabited

namespace Json

/-- A string. -/
def text (s : String) : Json := .string (some s)

/-- A whole number. -/
def int (n : Int) : Json := .integer (n < 0) n.natAbs

/-- A natural number. -/
def nat (n : Nat) : Json := .integer false n

/-- An object with plain names. -/
def record (members : List (String × Json)) : Json :=
  .object (members.map fun m => (some m.1, m.2))

/-- The text of a string. -/
def asText? : Json → Option String
  | .string s => s
  | _ => none

/-- A whole number that is not written as minus zero. -/
def asInt? : Json → Option Int
  | .integer true 0 => none
  | .integer true m => some (-(m : Int))
  | .integer false m => some m
  | _ => none

/-- A whole number in the range of 64 bits with sign. -/
def asInt64? (j : Json) : Option Int64 := do
  let n ← j.asInt?
  if Int64.minValue.toInt ≤ n ∧ n ≤ Int64.maxValue.toInt then some (Int64.ofInt n) else none

/-- The items of an array. -/
def asArray? : Json → Option (List Json)
  | .array items => some items
  | _ => none

/-- The members of an object whose names are all texts. -/
def members? : Json → Option (List (String × Json))
  | .object members => members.mapM fun m => m.1.map fun name => (name, m.2)
  | _ => none

/-- The values of all members with a name. -/
def valuesOf (name : String) (members : List (String × Json)) : List Json :=
  (members.filter fun m => m.1 = name).map Prod.snd

/-- The fields of a record: an object with each field exactly once, next to
others that do not matter, or an array of exactly the fields in order. -/
def fields? (names : List String) : Json → Option (List Json)
  | .array items => if items.length = names.length then some items else none
  | j => do
    let members ← j.members?
    names.mapM fun name =>
      match valuesOf name members with
      | [v] => some v
      | _ => none

/-- The value of the first member with a name. -/
def get? (name : String) : Json → Option Json
  | .object members => (members.find? fun m => m.1 = some name).map Prod.snd
  | _ => none

end Json

end Telemetry
