import Smqtt.Messages
import Smqtt.Queue

/-!
# The multi-threaded client

`connection.c` and the four operations of `smqttc_mt.c`, cut into the pieces between which other
threads can run. A waiting record is a tagged union: the tag selects the member that is read, which
need not be the member that was written.
-/

namespace Smqtt

/-- `smqtt_mt_status_t`; a function can also return a number that is none of its values. -/
inductive MtStatus where
  | ok
  | nomem
  | badMessage
  | noack
  | nomessage
  | notConnected
  | unexpected
  | invalid
  | notAuthorized
  | socket
  | protocol
  | identifier
  | server
  | notAuthenticated
  | number (value : Int)
  deriving DecidableEq

/-- A function pointer; `none` is the null pointer. -/
abbrev Callback := Option Nat

/-- The union in `waiting_t`, by the member that was written last. -/
inductive WaitingData where
  | unset
  | puback (packetId : UInt16)
  | pubrec (packetId : UInt16)
  | pubcomp (packetId : UInt16)
  | pubrel (topic msg : List UInt8) (retain : Bool) (packetId : UInt16)
  | suback (subCallback : Callback) (packetId : UInt16)
  | unsuback (packetId : UInt16)
  deriving DecidableEq

/-- The members that start with the packet id share its place. -/
def WaitingData.plainId : WaitingData → Option UInt16
  | puback packetId => some packetId
  | pubrec packetId => some packetId
  | pubcomp packetId => some packetId
  | unsuback packetId => some packetId
  | _ => none

def WaitingData.pubrelId : WaitingData → Option UInt16
  | pubrel _ _ _ packetId => some packetId
  | _ => none

def WaitingData.subackId : WaitingData → Option UInt16
  | suback _ packetId => some packetId
  | _ => none

/-- `waiting_t`. The serial number tells records with equal contents apart; nothing reads it. -/
structure Waiting where
  serial : Nat
  type : MessageType
  callback : Callback
  context : Nat
  data : WaitingData
  deriving DecidableEq

/-- A comparison of the stored packet id, which is unknown if the member was not written. -/
def compareId (stored : Option UInt16) (packetId : UInt16) (otherwise : Verdict) : Verdict :=
  match stored with
  | none => .unknown
  | some stored => if stored = packetId then .take else otherwise

/-- The loop body of `dequeue_by_type_and_id`. A SUBACK with another id ends the search. -/
def inspect (type : MessageType) (packetId : UInt16) (waiting : Waiting) : Verdict :=
  if waiting.type = type then
    match type with
    | .puback | .pubrec | .pubcomp | .unsuback => compareId waiting.data.plainId packetId .skip
    | .pubrel => compareId waiting.data.pubrelId packetId .skip
    | .pingresp => .take
    | .suback => compareId waiting.data.subackId packetId .stop
    | _ => .skip
  else .skip

def dequeueByTypeAndId (queue : LinkedQueue true Waiting) (type : MessageType) (packetId : UInt16) :
    Option (Search Waiting × LinkedQueue true Waiting) :=
  queue.search (inspect type packetId)

structure BufferSlot where
  messageLength : UInt16
  buffer : Memory

/-- `smqtt_mt_client`, less what only connecting and disconnecting use. -/
structure Client where
  connected : Bool
  publishPacketId : UInt16
  subscribePacketId : UInt16
  bufferCount : UInt16
  bufferSize : Nat
  receiveBuffer : Memory
  bufferSlots : UInt16 → BufferSlot
  readyToDisconnect : Bool
  freeQueue : LinkedQueue false UInt16
  sendQueue : LinkedQueue false UInt16
  ackQueue : LinkedQueue true Waiting
  msgCallback : Callback
  msgCbContext : Nat

/-- All slots, in the order in which they are made. -/
def slotIndices (bufferCount : UInt16) : List UInt16 :=
  (List.range bufferCount.toNat).map UInt16.ofNat

/-- `start_session_thread`, over memory whose contents are unknown. -/
def startSessionThread (client : Client) (bufferCount : UInt16) (bufferSize : Nat) : Client :=
  { client with
    bufferCount
    bufferSize
    readyToDisconnect := false
    freeQueue := (slotIndices bufferCount).foldl LinkedQueue.enqueue .init
    sendQueue := .init
    ackQueue := .init }

/-- The end of a successful `smqtt_mt_connect_internal`, before the session thread starts. -/
def connectedClient (uninitialised : Client) (msgCallback : Callback) (msgCbContext : Nat) :
    Client :=
  { uninitialised with
    connected := true
    publishPacketId := 1
    subscribePacketId := 1
    msgCallback
    msgCbContext }

/-! ### Requests -/

/-- The arguments of one call. -/
inductive Request where
  | ping (callback : Callback) (context : Nat)
  | publish (topic : CString) (msg : Option CString) (qos : QoS) (retain : Bool)
      (callback : Callback) (context : Nat)
  | subscribe (topics : List (CString × QoS)) (subCallback : Callback) (context : Nat)
  | unsubscribe (topics : List CString) (callback : Callback) (context : Nat)

/-- A frame that a call serializes, by its fields. -/
inductive Outgoing where
  | pingreq
  | publish (topic : CString) (packetId : UInt16) (qos : QoS) (retain : Bool) (msg : Option CString)
  | subscribe (packetId : UInt16) (topics : List (CString × QoS))
  | unsubscribe (packetId : UInt16) (topics : List CString)

def Outgoing.bytes : Outgoing → List UInt8
  | pingreq => makePingreqMessage
  | publish topic packetId qos retain msg => makePublishMessage topic packetId qos retain msg
  | subscribe packetId topics => makeSubscribeMessage packetId topics
  | unsubscribe packetId topics => makeUnsubscribeMessage packetId topics

/-- The checks before a call asks for a slot. -/
def Request.refused (client : Client) (request : Request) : Option MtStatus :=
  if client.connected then
    match request with
    | .publish _ _ qos _ _ _ => if QoS2 < qos then some .invalid else none
    | _ => none
  else some .notConnected

/-- What a call serializes into its slot. -/
def Request.outgoing (client : Client) : Request → Outgoing
  | ping _ _ => .pingreq
  | publish topic msg qos retain _ _ => .publish topic client.publishPacketId qos retain msg
  | subscribe topics _ _ => .subscribe client.subscribePacketId topics
  | unsubscribe topics _ _ => .unsubscribe client.subscribePacketId topics

/-- The id counter moves on right behind the serialization in two of the calls. -/
def Request.afterSerialize (client : Client) : Request → Client
  | subscribe _ _ _ => { client with subscribePacketId := client.subscribePacketId + 1 }
  | unsubscribe _ _ _ => { client with subscribePacketId := client.subscribePacketId + 1 }
  | _ => client

/-- The record that a call leaves for the answer. -/
def Request.waiting (client : Client) (serial : Nat) : Request → Option Waiting
  | ping callback context => some ⟨serial, .pingresp, callback, context, .unset⟩
  | publish _ _ qos _ callback context =>
      if qos = QoS1 then some ⟨serial, .puback, callback, context, .puback client.publishPacketId⟩
      else if qos = QoS2 then
        some ⟨serial, .pubrec, callback, context, .pubrec client.publishPacketId⟩
      else none
  | subscribe _ subCallback context =>
      some ⟨serial, .suback, none, context, .suback subCallback client.publishPacketId⟩
  | unsubscribe _ callback context =>
      some ⟨serial, .suback, callback, context, .unsuback client.publishPacketId⟩

def enqueueWaiting (client : Client) (waiting : Waiting) : Client :=
  { client with ackQueue := client.ackQueue.enqueue waiting }

/-- From the serialized frame to the call of `enqueue_slot_for_send`. -/
def Request.register (client : Client) (serial : Nat) (request : Request) : Client :=
  match request.waiting client serial with
  | none => client
  | some waiting =>
      let client := enqueueWaiting client waiting
      match request with
      | .publish _ _ _ _ _ _ => { client with publishPacketId := client.publishPacketId + 1 }
      | _ => client

def serializeInto (client : Client) (slot : UInt16) (bytes : List UInt8) : Client :=
  let old := client.bufferSlots slot
  { client with
    bufferSlots := Function.update client.bufferSlots slot
      { old with buffer := old.buffer.write bytes } }

/-- `enqueue_slot_for_send`: the length is a `uint16_t`. -/
def enqueueSlotForSend (client : Client) (slot : UInt16) (length : Nat) : Client :=
  let old := client.bufferSlots slot
  { client with
    bufferSlots := Function.update client.bufferSlots slot
      { old with messageLength := UInt16.ofNat length }
    sendQueue := client.sendQueue.enqueue slot }

/-- What `server_send` is given for a slot. -/
def slotBytes (client : Client) (slot : UInt16) : List UInt8 :=
  (client.bufferSlots slot).buffer.slice 0 (client.bufferSlots slot).messageLength.toNat

/-! ### The session thread -/

/-- What the session thread holds while it sends an acknowledgement. -/
inductive Reply where
  | puback (data : PublishData)
  | pubrec (data : PublishData)
  | pubrel (waiting : Waiting) (packetId : UInt16)
  | pubcomp (waiting : Waiting) (packetId : UInt16)

def Reply.frame : Reply → List UInt8
  | puback data => makePubackMessage data.packetId
  | pubrec data => makePubrecMessage data.packetId
  | pubrel _ packetId => makePubrelMessage packetId
  | pubcomp _ packetId => makePubcompMessage packetId

/-- Between which of its actions the session thread stands. A crash is an iteration that uses a null
or an unassigned pointer. -/
inductive SessionPc where
  | top
  | sending (slot : UInt16)
  | requeueing (slot : UInt16)
  | receiving
  | handling (resp : Response)
  | replying (reply : Reply)
  | registering (waiting : Waiting)
  | ended
  | crashed

/-- What the threads do that can be seen from outside. -/
inductive Event where
  | called (serial : Nat) (request : Request)
  | refused (serial : Nat) (status : MtStatus)
  | registered (waiting : Waiting)
  | enqueued (serial : Nat) (outgoing : Outgoing)
  | returned (serial : Nat)
  | handed (outgoing : Option Outgoing) (bytes : List UInt8)
  | received (buffer : Memory) (resp : Response)
  | replied (reply : Reply) (sent : Bool)
  | callback (waiting : Waiting) (resp : Response)
  | subCallback (waiting : Waiting) (packetId : UInt16) (results : List SubResult)
  | delivered (topic msg : List UInt8) (qos : QoS) (retain : Bool) (context : Nat)

/-- Seen of the session thread, not of a call. -/
def Event.isSession : Event → Bool
  | handed _ _ => true
  | received _ _ => true
  | replied _ _ => true
  | callback _ _ => true
  | subCallback _ _ _ => true
  | delivered _ _ _ _ _ => true
  | _ => false

/-- `copy_publish_topic` and `copy_publish_msg`: one byte more than the slice, and a terminator. -/
def copySlice (buffer : Memory) (slice : Slice) : List UInt8 := strncpy (slice.bytes buffer) ++ [0]

def maybeDeliverMessage (client : Client) (data : PublishData) : List Event :=
  match client.msgCallback with
  | none => []
  | some _ =>
      [.delivered (copySlice client.receiveBuffer data.topic)
        (copySlice client.receiveBuffer data.message) data.qos data.retain client.msgCbContext]

/-- The callback of a request, called without a check. -/
def runCallback (resp : Response) (waiting : Waiting) : SessionPc × List Event :=
  match waiting.callback with
  | none => (.crashed, [])
  | some _ => (.top, [.callback waiting resp])

def runSubCallback (packetId : UInt16) (results : List SubResult) (waiting : Waiting) :
    SessionPc × List Event :=
  match waiting.data with
  | .suback none _ => (.top, [])
  | .suback (some _) _ => (.top, [.subCallback waiting packetId results])
  | _ => (.crashed, [])

def runUnsubCallback (resp : Response) (waiting : Waiting) : SessionPc × List Event :=
  match waiting.callback with
  | none => (.top, [])
  | some _ => (.top, [.callback waiting resp])

/-- The search under the lock, and what follows it. -/
def withWaiting (client : Client) (type : MessageType) (packetId : UInt16)
    (found : Waiting → SessionPc × List Event) : Client × SessionPc × List Event :=
  match dequeueByTypeAndId client.ackQueue type packetId with
  | none => (client, .crashed, [])
  | some (.notFound, ackQueue) => ({ client with ackQueue }, .top, [])
  | some (.unassigned, ackQueue) => ({ client with ackQueue }, .crashed, [])
  | some (.found waiting, ackQueue) => ({ client with ackQueue }, found waiting)

/-- Which packets are looked up in `ack_queue`, and so need the lock. -/
def Response.searches : Response → Bool
  | pingresp => true
  | puback _ => true
  | pubrec _ => true
  | pubcomp _ => true
  | suback _ _ => true
  | unsuback _ => true
  | pubrel _ => true
  | _ => false

/-- The `switch` of `session_thread_loop`, up to the point where something is sent. -/
def handleResponse (client : Client) (resp : Response) : Client × SessionPc × List Event :=
  match resp with
  | .pingresp => withWaiting client .pingresp 0 (runCallback resp)
  | .puback packetId => withWaiting client .puback packetId (runCallback resp)
  | .pubrec packetId =>
      withWaiting client .pubrec packetId fun waiting => (.replying (.pubrel waiting packetId), [])
  | .pubcomp packetId => withWaiting client .pubcomp packetId (runCallback resp)
  | .suback packetId results =>
      withWaiting client .suback packetId (runSubCallback packetId results)
  | .unsuback packetId => withWaiting client .unsuback packetId (runUnsubCallback resp)
  | .publish data =>
      if data.qos = QoS0 then (client, .top, maybeDeliverMessage client data)
      else if data.qos = QoS1 then (client, .replying (.puback data), [])
      else if data.qos = QoS2 then (client, .replying (.pubrec data), [])
      else (client, .top, [])
  | .pubrel packetId =>
      withWaiting client .pubrel packetId fun waiting => (.replying (.pubcomp waiting packetId), [])
  | _ => (client, .top, [])

/-- `msg_callback` on a message that was kept for its PUBREL. -/
def deliverWaiting (client : Client) (waiting : Waiting) : SessionPc × List Event :=
  match client.msgCallback, waiting.data with
  | none, _ => (.top, [])
  | some _, .pubrel topic msg retain _ =>
      (.top, [.delivered topic msg QoS2 retain client.msgCbContext])
  | some _, _ => (.crashed, [])

/-- Behind the send, if it succeeded. The acknowledgement was serialized into `receive_buffer`, from
which the message is still to be copied. -/
def afterReply (client : Client) (reply : Reply) (sent : Bool) : SessionPc × List Event :=
  if sent then
    match reply with
    | .puback data => (.top, maybeDeliverMessage client data)
    | .pubrec data =>
        (.registering ⟨0, .pubrel, none, 0,
          .pubrel (copySlice client.receiveBuffer data.topic)
            (copySlice client.receiveBuffer data.message) data.retain data.packetId⟩, [])
    | .pubrel waiting packetId =>
        (.registering { waiting with type := .pubcomp, data := .pubcomp packetId }, [])
    | .pubcomp waiting _ => deliverWaiting client waiting
  else (.top, [])

end Smqtt
