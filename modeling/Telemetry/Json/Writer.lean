import Telemetry.Json.Basic
import Telemetry.Number.Digits

/-! # Writing JSON

The compact text of a value.  In strings only the quote, the backslash and
control characters are escaped.
-/

namespace Telemetry.Json

/-- A character as it stands in a string literal. -/
def escaped (c : Char) : List Char :=
  if c = '"' then ['\\', '"']
  else if c = '\\' then ['\\', '\\']
  else if c = '\x08' then ['\\', 'b']
  else if c = '\x0c' then ['\\', 'f']
  else if c = '\n' then ['\\', 'n']
  else if c = '\r' then ['\\', 'r']
  else if c = '\t' then ['\\', 't']
  else if c.toNat < 0x20 then '\\' :: 'u' :: Digits.fixed 16 4 c.toNat
  else [c]

/-- A string literal. -/
def writeText (s : String) : List Char := '"' :: s.toList.flatMap escaped ++ ['"']

/-- A string literal that names no text: an unpaired surrogate. -/
def unpaired : List Char := ['"', '\\', 'u', 'd', '8', '0', '0', '"']

/-- The literal of a string. -/
def writeString : Option String → List Char
  | some s => writeText s
  | none => unpaired

mutual

/-- The characters of a value. -/
def writeChars : Json → List Char
  | .null => ['n', 'u', 'l', 'l']
  | .bool true => ['t', 'r', 'u', 'e']
  | .bool false => ['f', 'a', 'l', 's', 'e']
  | .integer negative m => (if negative then ['-'] else []) ++ Digits.ofNat m
  | .decimal negative m e =>
    (if negative then ['-'] else []) ++ Digits.ofNat m ++ 'e' :: Digits.ofInt e
  | .string s => writeString s
  | .array items => '[' :: writeItems items ++ [']']
  | .object members => '\x7b' :: writeMembers members ++ ['\x7d']

/-- Items with commas between them. -/
def writeItems : List Json → List Char
  | [] => []
  | [v] => writeChars v
  | v :: w :: rest => writeChars v ++ ',' :: writeItems (w :: rest)

/-- Members with commas between them. -/
def writeMembers : List (Option String × Json) → List Char
  | [] => []
  | [(name, v)] => writeString name ++ ':' :: writeChars v
  | (name, v) :: m :: rest =>
    writeString name ++ ':' :: writeChars v ++ ',' :: writeMembers (m :: rest)

end

/-- The compact text of a value. -/
def write (j : Json) : String := String.ofList j.writeChars

end Telemetry.Json
