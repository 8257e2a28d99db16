import Smqtt.Lib.Base128

/-!
# The MQTT 3.1 wire format

What the standard says a packet looks like, stated without reference to the code: a fixed header
byte, the number of bytes that follow in base 128, and a body whose 16-bit fields are sent high byte
first. This is the yardstick for both the encoders and the parser.
-/

namespace Smqtt.Wire

inductive Qos where
  | atMostOnce
  | atLeastOnce
  | exactlyOnce
  deriving DecidableEq

def Qos.code : Qos → Nat
  | atMostOnce => 0
  | atLeastOnce => 1
  | exactlyOnce => 2

/-- A message delivered at most once has no packet id. -/
inductive Delivery where
  | atMostOnce
  | atLeastOnce (packetId : UInt16)
  | exactlyOnce (packetId : UInt16)
  deriving DecidableEq

def Delivery.qos : Delivery → Qos
  | atMostOnce => .atMostOnce
  | atLeastOnce _ => .atLeastOnce
  | exactlyOnce _ => .exactlyOnce

def Delivery.packetId : Delivery → Option UInt16
  | atMostOnce => none
  | atLeastOnce packetId => some packetId
  | exactlyOnce packetId => some packetId

/-- A subscription result is the granted QoS, or a refusal. -/
inductive Packet where
  | publish (dup retain : Bool) (delivery : Delivery) (topic payload : List UInt8)
  | puback (packetId : UInt16)
  | pubrec (packetId : UInt16)
  | pubrel (dup : Bool) (packetId : UInt16)
  | pubcomp (packetId : UInt16)
  | subscribe (dup : Bool) (packetId : UInt16) (topics : List (List UInt8 × Qos))
  | suback (packetId : UInt16) (results : List (Option Qos))
  | unsubscribe (dup : Bool) (packetId : UInt16) (topics : List (List UInt8))
  | unsuback (packetId : UInt16)
  deriving DecidableEq

def short (value : Nat) : List UInt8 := [UInt8.ofNat (value / 256), UInt8.ofNat (value % 256)]

def string (bytes : List UInt8) : List UInt8 := short bytes.length ++ bytes

def bit (flag : Bool) : Nat := if flag then 1 else 0

/-- Message type in the high nibble, then DUP, QoS and RETAIN. -/
def fixedHeader (type : Nat) (dup : Bool) (qos : Nat) (retain : Bool) : UInt8 :=
  UInt8.ofNat (16 * type + 8 * bit dup + 2 * qos + bit retain)

/-- PUBREL, SUBSCRIBE and UNSUBSCRIBE are themselves sent at QoS 1. -/
def Packet.header : Packet → UInt8
  | publish dup retain delivery _ _ => fixedHeader 3 dup delivery.qos.code retain
  | puback _ => fixedHeader 4 false 0 false
  | pubrec _ => fixedHeader 5 false 0 false
  | pubrel dup _ => fixedHeader 6 dup 1 false
  | pubcomp _ => fixedHeader 7 false 0 false
  | subscribe dup _ _ => fixedHeader 8 dup 1 false
  | suback _ _ => fixedHeader 9 false 0 false
  | unsubscribe dup _ _ => fixedHeader 10 dup 1 false
  | unsuback _ => fixedHeader 11 false 0 false

def subscription (topic : List UInt8 × Qos) : List UInt8 :=
  string topic.1 ++ [UInt8.ofNat topic.2.code]

def grant : Option Qos → UInt8
  | none => 0x80
  | some qos => UInt8.ofNat qos.code

def Delivery.idField (delivery : Delivery) : List UInt8 :=
  match delivery.packetId with
  | none => []
  | some packetId => short packetId.toNat

def Packet.body : Packet → List UInt8
  | publish _ _ delivery topic payload => string topic ++ delivery.idField ++ payload
  | puback packetId => short packetId.toNat
  | pubrec packetId => short packetId.toNat
  | pubrel _ packetId => short packetId.toNat
  | pubcomp packetId => short packetId.toNat
  | subscribe _ packetId topics => short packetId.toNat ++ topics.flatMap subscription
  | suback packetId results => short packetId.toNat ++ results.map grant
  | unsubscribe _ packetId topics => short packetId.toNat ++ topics.flatMap string
  | unsuback packetId => short packetId.toNat

/-- The largest length four base-128 digits can say. -/
def lengthLimit : Nat := 2 ^ 28

def Packet.encode (packet : Packet) : List UInt8 :=
  packet.header :: (Base128.encode 4 packet.body.length ++ packet.body)

/-! ### Reading a CONNECT -/

structure Testament where
  qos : Qos
  retain : Bool
  topic : List UInt8
  message : List UInt8
  deriving DecidableEq

structure Connect where
  clientId : List UInt8
  keepAlive : UInt16
  cleanSession : Bool
  will : Option Testament
  user : Option (List UInt8)
  password : Option (List UInt8)
  deriving DecidableEq

def Qos.ofCode : Nat → Option Qos
  | 0 => some atMostOnce
  | 1 => some atLeastOnce
  | 2 => some exactlyOnce
  | _ => none

/-- `MQIsdp` -/
def protocolName : List UInt8 := [77, 81, 73, 115, 100, 112]

/-- A 16-bit field, and what follows it. -/
def readShort : List UInt8 → Option (Nat × List UInt8)
  | high :: low :: rest => some (256 * high.toNat + low.toNat, rest)
  | _ => none

def readString (bytes : List UInt8) : Option (List UInt8 × List UInt8) := do
  let (size, rest) ← readShort bytes
  if size ≤ rest.length then some (rest.take size, rest.drop size) else none

/-- A string that a flag says is there. -/
def readOptional (present : Bool) (bytes : List UInt8) :
    Option (Option (List UInt8) × List UInt8) :=
  if present then (readString bytes).map fun (str, rest) => (some str, rest)
  else some (none, bytes)

/-- The QoS and the retain flag of a will are disregarded without one. -/
def readWill (flags : UInt8) (bytes : List UInt8) : Option (Option Testament × List UInt8) :=
  if flags.toNat.testBit 2 then do
    let qos ← Qos.ofCode (flags.toNat / 8 % 4)
    let (topic, rest) ← readString bytes
    let (message, rest) ← readString rest
    some (some { qos, retain := flags.toNat.testBit 5, topic, message }, rest)
  else some (none, bytes)

def readConnectPayload (flags : UInt8) (keepAlive : Nat) (bytes : List UInt8) : Option Connect := do
  let (clientId, rest) ← readString bytes
  let (will, rest) ← readWill flags rest
  let (user, rest) ← readOptional (flags.toNat.testBit 7) rest
  let (password, rest) ← readOptional (flags.toNat.testBit 6) rest
  if rest = [] then
    some { clientId, keepAlive := UInt16.ofNat keepAlive, cleanSession := flags.toNat.testBit 1, will,
           user, password }
  else none

def readConnectBody (bytes : List UInt8) : Option Connect := do
  let (name, rest) ← readString bytes
  match rest with
  | version :: flags :: rest =>
      if name = protocolName ∧ version = 3 then do
        let (keepAlive, rest) ← readShort rest
        readConnectPayload flags keepAlive rest
      else none
  | _ => none

/-- A frame of the type of a CONNECT, of the length that it announces. -/
def readConnect (frame : List UInt8) : Option Connect := do
  match frame with
  | header :: rest =>
      if header.toNat / 16 = 1 then do
        let (length, rest) ← Base128.decode 4 rest
        if rest.length = length then readConnectBody rest else none
      else none
  | [] => none

@[simp]
theorem length_short (value : Nat) : (short value).length = 2 := rfl

@[simp]
theorem length_string (bytes : List UInt8) : (string bytes).length = 2 + bytes.length := by
  simp [string]

@[simp]
theorem length_subscription (topic : List UInt8 × Qos) :
    (subscription topic).length = 3 + topic.1.length := by
  simp [subscription]
  omega

end Smqtt.Wire
