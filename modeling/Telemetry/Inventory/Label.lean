import Telemetry.Text.Blank

/-! # Labels of thermal components

A component is known by a free-text label.  The label decides whether the
component belongs to the processor, and its slug becomes part of the sensor's
identifier.
-/

namespace Telemetry.Label

/-- ASCII letters and digits. -/
def isAlphanumeric (c : Char) : Bool :=
  ('0' ≤ c && c ≤ '9') || ('a' ≤ c && c ≤ 'z') || ('A' ≤ c && c ≤ 'Z')

/-- An ASCII letter in lower case. -/
def lower (c : Char) : Char :=
  if 'A' ≤ c && c ≤ 'Z' then Char.ofNat (c.toNat + 32) else c

/-- Takes one more character into a slug that is held backwards: letters and
digits in lower case, anything else as one underscore between them. -/
def slugStep (slug : List Char) (c : Char) : List Char :=
  if isAlphanumeric c then lower c :: slug
  else match slug with
    | [] => []
    | '_' :: rest => '_' :: rest
    | d :: rest => '_' :: d :: rest

/-- The slug of a label; a label without letters and digits is unnamed. -/
def slug (label : String) : String :=
  let backwards := (Text.trim label.toList).foldl slugStep []
  let kept := backwards.dropWhile (· = '_')
  if kept.isEmpty then "unnamed" else String.ofList kept.reverse

/-- A character in lower case, as far as it has ASCII letters there: the Kelvin
sign is a small k, and a capital I with dot leaves its dot behind. -/
def lowerChars (c : Char) : List Char :=
  if c = '\u212a' then ['k']
  else if c = '\u0130' then ['i', '\u0307']
  else [lower c]

/-- Whether a text occurs in another. -/
def occursIn (part : List Char) : List Char → Bool
  | [] => part.isEmpty
  | c :: rest => part.isPrefixOf (c :: rest) || occursIn part rest

/-- What marks the label of a component as the processor's. -/
def cpuMarkers : List String := ["coretemp", "k10temp", "package", "core", "tctl", "tdie", "cpu"]

/-- Whether a label, in any case, holds a marker of the processor. -/
def isCpu (label : String) : Bool :=
  let lowered := label.toList.flatMap lowerChars
  cpuMarkers.any fun marker => occursIn marker.toList lowered

end Telemetry.Label
