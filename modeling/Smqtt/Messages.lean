import Smqtt.Lib.Interaction
import Smqtt.Protocol

/-!
# Messages

`messages.c`: the encoders write through a cursor, whose state here is the bytes written so far, so
that the size an encoder returns is the length of its frame. None of them consults the capacity it
is given. The parser reads the buffer byte by byte.
-/

namespace Smqtt

/-! ### Serialization -/

/-- The cursor: what stands between `base` and `current`. -/
structure Cursor where
  written : List UInt8

def cursorInit : Cursor := ⟨[]⟩

def serByte (cursor : Cursor) (byte : Nat) : Cursor := ⟨cursor.written ++ [UInt8.ofNat byte]⟩

/-- `MSB(A)`: the cast to `uint8_t` comes before the mask. -/
def msb (value : Nat) : UInt8 := UInt8.ofNat (((value % 256) &&& 0xFF00) >>> 8)

def lsb (value : Nat) : UInt8 := UInt8.ofNat ((value % 256) &&& 0x00FF)

def serShort (cursor : Cursor) (value : Nat) : Cursor :=
  ⟨cursor.written ++ [msb value, lsb value]⟩

def serString (cursor : Cursor) (str : CString) : Cursor := ⟨cursor.written ++ str.bytes⟩

/-- The loop of `encode_size`: what remains of the size, and the bytes written. -/
def encodeSizeLoop : Nat → Nat → Nat × List UInt8
  | 0, remainingSize => (remainingSize, [])
  | fuel + 1, remainingSize =>
      let digit := remainingSize % 128
      let remainingSize := remainingSize / 128
      let digit := if remainingSize > 0 then digit ||| 0x80 else digit
      if remainingSize = 0 then (remainingSize, [UInt8.ofNat digit])
      else
        let (final, bytes) := encodeSizeLoop fuel remainingSize
        (final, UInt8.ofNat digit :: bytes)

/-- At most four bytes; `false` when the size did not fit into them. -/
def encodeSize (size : Nat) : Bool × List UInt8 :=
  let (remainingSize, bytes) := encodeSizeLoop 4 size
  (!decide (remainingSize > 0), bytes)

def serLen (cursor : Cursor) (len : Nat) : Cursor := ⟨cursor.written ++ (encodeSize len).2⟩

def packMessageType (type : MessageType) : Nat := ((type.code % 256) <<< 4) % 256

def boolToBit (value : Bool) : Nat := if value then 0x01 else 0x00

def packConnectFlags (user pw willFlag : Bool) (willQos : QoS) (willRetain clean : Bool) : Nat :=
  (boolToBit user <<< 7) ||| (boolToBit pw <<< 6) ||| (boolToBit willRetain <<< 5)
    ||| ((willQos.toNat &&& 0x03) <<< 3) ||| (boolToBit willFlag <<< 2) ||| (boolToBit clean <<< 1)

/-- `"MQIsdp"` -/
def protocolName : CString := ⟨[77, 81, 73, 115, 100, 112], by decide⟩

def protocolLevel : Nat := 3

/-- The strings of a last will; without one they are not looked at. -/
structure Will where
  topic : CString
  message : CString
  deriving DecidableEq

def serOptional (cursor : Cursor) (str : Option CString) : Cursor :=
  match str with
  | none => cursor
  | some str => serString (serShort cursor (strlen str)) str

def serWill (cursor : Cursor) (will : Option Will) : Cursor :=
  match will with
  | none => cursor
  | some will =>
      let cursor := serString (serShort cursor (strlen will.topic)) will.topic
      serString (serShort cursor (strlen will.message)) will.message

def optionalLen (str : Option CString) : Nat :=
  match str with
  | none => 0
  | some str => 2 + strlen str

def willLen (will : Option Will) : Nat :=
  match will with
  | none => 0
  | some will => 2 + strlen will.topic + 2 + strlen will.message

/-- The will's QoS and retain flag are packed whether or not there is a will. -/
def makeConnectMessage (clientId : CString) (user pw : Option CString) (keepAliveSec : UInt8)
    (cleanSession : Bool) (willQos : QoS) (willRetain : Bool) (will : Option Will) : List UInt8 :=
  let len := 8 + strlen protocolName + strlen clientId + willLen will + optionalLen user
    + optionalLen pw
  let cursor := serByte cursorInit (packMessageType .connect)
  let cursor := serLen cursor len
  let cursor := serString (serShort cursor (strlen protocolName)) protocolName
  let cursor := serByte cursor protocolLevel
  let cursor := serByte cursor
    (packConnectFlags user.isSome pw.isSome will.isSome willQos willRetain cleanSession)
  let cursor := serShort cursor keepAliveSec.toNat
  let cursor := serString (serShort cursor (strlen clientId)) clientId
  let cursor := serWill cursor will
  let cursor := serOptional cursor user
  let cursor := serOptional cursor pw
  cursor.written

def makeConnackMessage (type : UInt8) : List UInt8 :=
  let cursor := serByte cursorInit (packMessageType .connack)
  let cursor := serLen cursor 2
  let cursor := serByte cursor 0
  let cursor := serByte cursor type.toNat
  cursor.written

def makeDisconnectMessage : List UInt8 :=
  let cursor := serByte cursorInit (packMessageType .disconnect)
  let cursor := serByte cursor 0
  cursor.written

def makePublishMessage (topic : CString) (packetId : UInt16) (qos : QoS) (retain : Bool)
    (msg : Option CString) : List UInt8 :=
  let cursor := serByte cursorInit
    (packMessageType .publish ||| (qos.toNat <<< 1) % 2 ^ 32 ||| (boolToBit retain &&& 0x1))
  let packetIdLen := if QoS1 ≤ qos then 2 else 0
  -- `message_len` is a `uint16_t`
  let messageLen := match msg with
    | none => 0
    | some msg => strlen msg % 2 ^ 16
  let cursor := serLen cursor (2 + strlen topic + packetIdLen + messageLen)
  let cursor := serString (serShort cursor (strlen topic)) topic
  let cursor := if QoS1 ≤ qos then serShort cursor packetId.toNat else cursor
  let cursor := match msg with
    | none => cursor
    | some msg => serString cursor msg
  cursor.written

/-- The encoders that carry a packet id and nothing else: a header byte and the id. -/
def makeIdMessage (header : Nat) (packetId : UInt16) : List UInt8 :=
  let cursor := serByte cursorInit header
  let cursor := serLen cursor 2
  let cursor := serShort cursor packetId.toNat
  cursor.written

def makePubackMessage : UInt16 → List UInt8 := makeIdMessage (packMessageType .puback)

def makePubrecMessage : UInt16 → List UInt8 := makeIdMessage (packMessageType .pubrec)

def makePubrelMessage : UInt16 → List UInt8 :=
  makeIdMessage (packMessageType .pubrel ||| (QoS1.toNat <<< 1))

def makePubcompMessage : UInt16 → List UInt8 := makeIdMessage (packMessageType .pubcomp)

def makeUnsubackMessage : UInt16 → List UInt8 := makeIdMessage (packMessageType .unsuback)

/-- The sum is kept in a `uint16_t`. -/
def getUtf8StringSize (topics : List CString) (includeQos : Bool) : Nat :=
  topics.foldl (fun total topic =>
    let total := (total + (2 + strlen topic)) % 2 ^ 16
    if includeQos then (total + 1) % 2 ^ 16 else total) 0

/-- `topic_count` is the length of the list. -/
def makeSubscribeMessage (packetId : UInt16) (topics : List (CString × QoS)) : List UInt8 :=
  let cursor := serByte cursorInit (packMessageType .subscribe ||| (QoS1.toNat <<< 1))
  let cursor := serLen cursor (2 + getUtf8StringSize (topics.map Prod.fst) true)
  let cursor := serShort cursor packetId.toNat
  let cursor := topics.foldl (fun cursor (topic, qos) =>
    serByte (serString (serShort cursor (strlen topic)) topic) qos.toNat) cursor
  cursor.written

def makeSubackMessage (packetId : UInt16) (results : List SubResult) : List UInt8 :=
  let cursor := serByte cursorInit (packMessageType .suback)
  let cursor := serLen cursor (2 + results.length)
  let cursor := serShort cursor packetId.toNat
  let cursor := results.foldl (fun cursor result =>
    serByte cursor (if result.success then result.qos.toNat else 0x80)) cursor
  cursor.written

def makeUnsubscribeMessage (packetId : UInt16) (topics : List CString) : List UInt8 :=
  let cursor := serByte cursorInit (packMessageType .unsubscribe ||| (QoS1.toNat <<< 1))
  let cursor := serLen cursor (2 + getUtf8StringSize topics false)
  let cursor := serShort cursor packetId.toNat
  let cursor := topics.foldl (fun cursor topic =>
    serString (serShort cursor (strlen topic)) topic) cursor
  cursor.written

def makePingMessage (type : MessageType) : List UInt8 :=
  let cursor := serByte cursorInit (packMessageType type)
  let cursor := serLen cursor 0
  cursor.written

def makePingreqMessage : List UInt8 := makePingMessage .pingreq

def makePingrespMessage : List UInt8 := makePingMessage .pingresp

/-! ### Parsing -/

/-- A parser: every call reads the byte at an index of the buffer. -/
abbrev Parse (α : Type) := Interaction Nat (fun _ => UInt8) α

def readByte (index : Nat) : Parse UInt8 := Interaction.ask index

def maxTopics : Nat := 32

/-- The shift by 16 pushes the first byte out of the `uint16_t`. -/
def shortFromBuffer (index : Nat) : Parse UInt16 := do
  let high ← readByte index
  let low ← readByte (index + 1)
  pure (UInt16.ofNat ((high.toNat <<< 16) % 2 ^ 16 ||| low.toNat))

/-- The loop of `decode_size`: value, bytes used and the last digit read. -/
def decodeSizeLoop (bufferEnd : Nat) :
    Nat → Nat → Nat → Nat → Nat → UInt8 → Parse (Nat × Nat × UInt8)
  | 0, _, value, _, used, digit => pure (value, used, digit)
  | fuel + 1, buffer, value, multiplier, used, digit =>
      if buffer ≤ bufferEnd then do
        let digit ← readByte buffer
        let value := value + (digit.toNat &&& 127) * multiplier
        if digit.toNat &&& 0x80 = 0 then pure (value, used + 1, digit)
        else decodeSizeLoop bufferEnd fuel (buffer + 1) value (multiplier * 128) (used + 1) digit
      else pure (value, used, digit)

/-- No size comes with a `false`; the number of bytes used always does. -/
def decodeSize (buffer bufferEnd : Nat) : Parse (Option Nat × Nat) := do
  let (value, used, digit) ← decodeSizeLoop bufferEnd 4 buffer 0 1 0 0
  if used = 4 ∧ digit.toNat &&& 0x80 ≠ 0 then pure (none, used) else pure (some value, used)

/-- The loop of `fill_topic_arrays`, with `MAX_TOPICS` positions to fill. -/
def fillTopicLoop (withQos : Bool) (max : Nat) : Nat → Nat → Parse (List TopicEntry)
  | 0, _ => pure []
  | fuel + 1, curr =>
      if curr + 2 ≤ max then do
        let length ← shortFromBuffer curr
        if withQos then do
          let qos ← readByte (curr + 2 + length.toNat)
          let rest ← fillTopicLoop withQos max fuel (curr + 2 + length.toNat + 1)
          pure (⟨⟨curr + 2, length⟩, some qos.toUInt32⟩ :: rest)
        else do
          let rest ← fillTopicLoop withQos max fuel (curr + 2 + length.toNat)
          pure (⟨⟨curr + 2, length⟩, none⟩ :: rest)
      else pure []

def fillTopicArrays (buffer bytecount : Nat) (withQos : Bool) : Parse (List TopicEntry) :=
  fillTopicLoop withQos (buffer + bytecount) maxTopics buffer

def qosReturnOk (bits : UInt8) : Bool := bits.toNat &&& 0xFC = 0

def qosReturnQos (bits : UInt8) : QoS := UInt32.ofNat (bits.toNat &&& 0x3)

def fillSubresultLoop (max : Nat) : Nat → Nat → Parse (List SubResult)
  | 0, _ => pure []
  | fuel + 1, curr =>
      if curr + 1 ≤ max then do
        let bits ← readByte curr
        let rest ← fillSubresultLoop max fuel (curr + 1)
        pure (⟨qosReturnOk bits, qosReturnQos bits⟩ :: rest)
      else pure []

def fillSubresultArrays (buffer bytecount : Nat) : Parse (List SubResult) :=
  fillSubresultLoop (buffer + bytecount) maxTopics buffer

/-- Subtraction in `size_t`. -/
def sizeSub (left right : Nat) : Nat := (left + (2 ^ 64 - right % 2 ^ 64)) % 2 ^ 64

def flagBit (bits : UInt8) (mask shift : Nat) : Bool := (bits.toNat &&& mask) >>> shift ≠ 0

/-- A length and the string behind it. -/
def parseString (offset : Nat) : Parse Slice := do
  let size ← shortFromBuffer offset
  pure ⟨offset + 2, size⟩

/-- A string that a flag says is there, and the offset behind it. -/
def parseOptional (present : Bool) (offset : Nat) : Parse (Option Slice × Nat) :=
  if present then do
    let str ← parseString offset
    pure (some str, offset + 2 + str.size.toNat)
  else pure (none, offset)

def deserializeConnect (offset : Nat) : Parse Response := do
  let name ← parseString offset
  let offset := offset + 2 + name.size.toNat
  let version ← readByte offset
  let flags ← readByte (offset + 1)
  let hasUser := flagBit flags 0x80 7
  let hasPw := flagBit flags 0x40 6
  let hasWill := flagBit flags 0x04 2
  let willQos := UInt32.ofNat ((flags.toNat &&& 0x18) >>> 3)
  let willRetain := flagBit flags 0x20 5
  let hasClean := flagBit flags 0x02 1
  let keepAlive ← shortFromBuffer (offset + 2)
  let clientId ← parseString (offset + 4)
  let offset := offset + 6 + clientId.size.toNat
  let (willTopic, offset) ← parseOptional hasWill offset
  let (willMessage, offset) ← parseOptional hasWill offset
  let (user, offset) ← parseOptional hasUser offset
  let (pw, _) ← parseOptional hasPw offset
  pure (.connect { name, version, hasUser, hasPw, hasWill, willQos, willRetain, hasClean, keepAlive,
                   clientId, willTopic, willMessage, user, pw })

def deserializePublish (first : UInt8) (totalSize offset : Nat) : Parse Response := do
  let savedOffset := offset
  let qos := UInt32.ofNat ((first.toNat >>> 1) &&& 0x03)
  let retain := first.toNat &&& 0x01 ≠ 0
  let topic ← parseString offset
  let offset := offset + 2 + topic.size.toNat
  if QoS1 ≤ qos then do
    let packetId ← shortFromBuffer offset
    let offset := offset + 2
    let messageSize := UInt16.ofNat (sizeSub totalSize (offset - savedOffset))
    pure (.publish { qos, retain, topic, packetId, message := ⟨offset, messageSize⟩ })
  else
    let messageSize := UInt16.ofNat (sizeSub totalSize (offset - savedOffset))
    pure (.publish { qos, retain, topic, packetId := 0, message := ⟨offset, messageSize⟩ })

/-- The segment size is a `uint32_t`, and the offset it takes off counts the fixed header. -/
def segmentSize (totalSize offset : Nat) : Nat := sizeSub totalSize offset % 2 ^ 32

/-- The cases of the `switch`, behind the fixed header. -/
def deserializeBody (type : MessageType) (first : UInt8) (totalSize offset : Nat) : Parse Response :=
  match type with
  | .connect => deserializeConnect offset
  | .connack => do
      let type ← readByte (offset + 1)
      pure (.connack type)
  | .publish => deserializePublish first totalSize offset
  | .puback => .puback <$> shortFromBuffer offset
  | .pubrec => .pubrec <$> shortFromBuffer offset
  | .pubrel => .pubrel <$> shortFromBuffer offset
  | .pubcomp => .pubcomp <$> shortFromBuffer offset
  | .subscribe => do
      let packetId ← shortFromBuffer offset
      let topics ← fillTopicArrays (offset + 2) (segmentSize totalSize offset) true
      pure (.subscribe packetId topics)
  | .suback => do
      let packetId ← shortFromBuffer offset
      let results ← fillSubresultArrays (offset + 2) (segmentSize totalSize offset)
      pure (.suback packetId results)
  | .unsubscribe => do
      let packetId ← shortFromBuffer offset
      let topics ← fillTopicArrays (offset + 2) (segmentSize totalSize offset) false
      pure (.unsubscribe packetId topics)
  | .unsuback => .unsuback <$> shortFromBuffer offset
  | .pingreq => pure .pingreq
  | .pingresp => pure .pingresp
  | .disconnect => pure .disconnect

/-- `none` is the null pointer. -/
def deserializeResponse (length : Nat) : Parse (Option Response) := do
  let first ← readByte 0
  let (size, bytesUsed) ← decodeSize 1 length
  match size, MessageType.ofCode (first.toNat >>> 4) with
  | some totalSize, some type => some <$> deserializeBody type first totalSize (1 + bytesUsed)
  | _, _ => pure none

end Smqtt
