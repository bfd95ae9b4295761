import Telemetry.Number.Digits

/-! # Listen addresses

An address to listen at is a host, a colon and a number of 16 bits.
-/

namespace Telemetry.Http

/-- What is wrong with an address. -/
inductive ListenFlaw where
  | noNumber
  | invalidNumber
deriving DecidableEq

/-- The text of a flaw. -/
def ListenFlaw.message : ListenFlaw → String
  | noNumber => "invalid socket address"
  | invalidNumber => "invalid port value"

/-- Whether a text is a number of 16 bits, perhaps with a plus sign. -/
def isNumber16 (cs : List Char) : Bool :=
  let digits := match cs with
    | '+' :: rest => rest
    | _ => cs
  !digits.isEmpty && digits.all Digits.isDecimal && Digits.value digits < 65536

/-- The flaw of an address, if it has one; the number stands behind the last
colon. -/
def listenFlaw? (address : String) : Option ListenFlaw :=
  let cs := address.toList
  if !cs.contains ':' then some .noNumber
  else if isNumber16 (cs.reverse.takeWhile (· ≠ ':')).reverse then none
  else some .invalidNumber

/-- What a server says that cannot listen at an address. -/
def bindFailure (address : String) : String := "Failed to bind " ++ address

end Telemetry.Http
