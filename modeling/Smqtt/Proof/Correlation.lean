import Smqtt.Proof.Calls
import Smqtt.Proof.Encoders

/-!
# Requests and the records left for their answers

Each call leaves a record that has to be found by the answer of the broker: under the type of that
answer, in the union member which that type reads, and with the packet id that the frame carries.
SUBSCRIBE takes the two ids from different counters, and UNSUBSCRIBE is recorded under the wrong
type.
-/

namespace Smqtt

/-! ### What has to agree -/

/-- How many bytes of the frame stand in front of the packet id. -/
def Outgoing.idOffset : Outgoing → Nat
  | pingreq => 2
  | publish topic _ _ _ msg =>
      1 + (encodeSize (2 + strlen topic + 2 + msg.elim 0 strlen % 2 ^ 16)).2.length
        + 2 + strlen topic
  | subscribe _ topics =>
      1 + (encodeSize (2 + getUtf8StringSize (topics.map Prod.fst) true)).2.length
  | unsubscribe _ topics => 1 + (encodeSize (2 + getUtf8StringSize topics false)).2.length

/-- The packet id that the bytes of the frame say, high byte first. -/
def Outgoing.sentId (outgoing : Outgoing) : Option Nat := do
  let high ← outgoing.bytes[outgoing.idOffset]?
  let low ← outgoing.bytes[outgoing.idOffset + 1]?
  some (256 * high.toNat + low.toNat)

namespace System

variable {system next : System Unit}

end System

end Smqtt
