import Smqtt.Lib.Memory

/-!
# Protocol types

The types of `protocol.h` and `messages.h`. A parsed packet does not own its strings: they are
slices of the buffer it was parsed from.
-/

namespace Smqtt

/-- A C string: its bytes before the terminator. -/
structure CString where
  bytes : List UInt8
  noNul : 0 ∉ bytes
  deriving DecidableEq

def strlen (str : CString) : Nat := str.bytes.length

/-- The C string that starts a stretch of memory. -/
def cString (bytes : List UInt8) : List UInt8 := bytes.takeWhile (· ≠ 0)

/-- `strncpy`: copy up to the terminator, then fill with zeros. -/
def strncpy (source : List UInt8) : List UInt8 :=
  cString source ++ List.replicate (source.length - (cString source).length) 0

/-- An unsigned enumeration in C; a caller or a received byte can put any value into it. -/
abbrev QoS := UInt32

def QoS0 : QoS := 0
def QoS1 : QoS := 1
def QoS2 : QoS := 2

inductive MessageType where
  | connect
  | connack
  | publish
  | puback
  | pubrec
  | pubrel
  | pubcomp
  | subscribe
  | suback
  | unsubscribe
  | unsuback
  | pingreq
  | pingresp
  | disconnect
  deriving DecidableEq

def MessageType.code : MessageType → Nat
  | connect => 1
  | connack => 2
  | publish => 3
  | puback => 4
  | pubrec => 5
  | pubrel => 6
  | pubcomp => 7
  | subscribe => 8
  | suback => 9
  | unsubscribe => 10
  | unsuback => 11
  | pingreq => 12
  | pingresp => 13
  | disconnect => 14

/-- The `switch` on the type nibble: 0 and 15 fall to `default`. -/
def MessageType.ofCode : Nat → Option MessageType
  | 1 => some connect
  | 2 => some connack
  | 3 => some publish
  | 4 => some puback
  | 5 => some pubrec
  | 6 => some pubrel
  | 7 => some pubcomp
  | 8 => some subscribe
  | 9 => some suback
  | 10 => some unsubscribe
  | 11 => some unsuback
  | 12 => some pingreq
  | 13 => some pingresp
  | 14 => some disconnect
  | _ => none

/-- A pointer into the parsed buffer, with the size that goes with it. -/
structure Slice where
  offset : Nat
  size : UInt16
  deriving DecidableEq

def Slice.bytes (slice : Slice) (memory : Memory) : List UInt8 :=
  memory.slice slice.offset slice.size.toNat

/-- One element of the parallel arrays `topic_lengths`, `topics` and, unless null, `qoss`. -/
structure TopicEntry where
  topic : Slice
  qos : Option QoS
  deriving DecidableEq

/-- One element of the parallel arrays `success` and `qoss`. -/
structure SubResult where
  success : Bool
  qos : QoS
  deriving DecidableEq

structure ConnectData where
  name : Slice
  version : UInt8
  hasUser : Bool
  hasPw : Bool
  hasWill : Bool
  willQos : QoS
  willRetain : Bool
  hasClean : Bool
  keepAlive : UInt16
  clientId : Slice
  willTopic : Option Slice
  willMessage : Option Slice
  user : Option Slice
  pw : Option Slice
  deriving DecidableEq

structure PublishData where
  qos : QoS
  retain : Bool
  topic : Slice
  packetId : UInt16
  message : Slice
  deriving DecidableEq

/-- `response_t`: the type selects the member of the union. -/
inductive Response where
  | connect (data : ConnectData)
  | connack (type : UInt8)
  | publish (data : PublishData)
  | puback (packetId : UInt16)
  | pubrec (packetId : UInt16)
  | pubrel (packetId : UInt16)
  | pubcomp (packetId : UInt16)
  | subscribe (packetId : UInt16) (topics : List TopicEntry)
  | suback (packetId : UInt16) (results : List SubResult)
  | unsubscribe (packetId : UInt16) (topics : List TopicEntry)
  | unsuback (packetId : UInt16)
  | pingreq
  | pingresp
  | disconnect
  deriving DecidableEq

def Response.type : Response → MessageType
  | connect _ => .connect
  | connack _ => .connack
  | publish _ => .publish
  | puback _ => .puback
  | pubrec _ => .pubrec
  | pubrel _ => .pubrel
  | pubcomp _ => .pubcomp
  | subscribe _ _ => .subscribe
  | suback _ _ => .suback
  | unsubscribe _ _ => .unsubscribe
  | unsuback _ => .unsuback
  | pingreq => .pingreq
  | pingresp => .pingresp
  | disconnect => .disconnect

end Smqtt
