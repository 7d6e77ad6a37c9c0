import ClaExemption.Service

/-!
# Arrivals

What the surroundings add to a message: a random number, from which an id is
made should the message bring none of its own, and the times around its check.
-/

namespace ClaExemption

/-- What the surroundings add to a message. -/
structure Arrival where
  random : UInt64
  moment : Moment
deriving Repr

/-- The id of a message that brings none: its random number in hexadecimal digits. -/
def Arrival.freshId (a : Arrival) : String := String.ofList (Nat.toDigits 16 a.random.toNat)

end ClaExemption
