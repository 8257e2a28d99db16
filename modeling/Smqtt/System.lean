import Smqtt.Connection
import Smqtt.Lib.Run

/-!
# The system of API threads and the session thread

Any number of API threads share a client with one session thread. Each label is one action of one
thread, and supplies what the environment chooses: the request of a call, the outcome of a send, the
bytes of a receive. A critical section is one action, and needs the mutex to be free; only the retry
loop of `get_buffer_slot` keeps the mutex from one action to the next.
-/

namespace Smqtt

/-- Between which of its actions an API thread stands. -/
inductive ApiPc where
  | idle
  | wanting (serial : Nat) (request : Request)
  | spinning (serial : Nat) (request : Request)
  | serializing (serial : Nat) (request : Request) (slot : UInt16)
  | registering (serial : Nat) (request : Request) (slot : UInt16) (outgoing : Outgoing)
  | enqueueing (serial : Nat) (slot : UInt16) (outgoing : Outgoing)

variable {Tid : Type} [DecidableEq Tid]

/-- The client and its threads. `serialized` remembers what stands in a slot and `events` what has
happened; neither is read. -/
structure System (Tid : Type) where
  client : Client
  mutex : Option Tid
  api : Tid → ApiPc
  session : SessionPc
  serialized : UInt16 → Option Outgoing
  calls : Nat
  events : List Event

inductive Label (Tid : Type) where
  | call (tid : Tid) (request : Request)
  | lockSlot (tid : Tid)
  | spin (tid : Tid)
  | serialize (tid : Tid)
  | enqueueWaiting (tid : Tid)
  | enqueueSlot (tid : Tid)
  | signalDisconnect
  | sessionTop
  | sessionSend (sent : Bool)
  | sessionRequeue
  | sessionReceive (buffer : Memory) (size : Int) (resp : Option Response)
  | sessionHandle
  | sessionReply (sent : Bool)
  | sessionRegister

/-- An action of the session thread. -/
def Label.isSession : Label Tid → Bool
  | sessionTop => true
  | sessionSend _ => true
  | sessionRequeue => true
  | sessionReceive _ _ _ => true
  | sessionHandle => true
  | sessionReply _ => true
  | sessionRegister => true
  | _ => false

/-- What the session thread handles is what `deserialize_response` makes of the bytes received. -/
def Label.decodes : Label Tid → Bool
  | sessionReceive buffer size resp =>
      decide (0 < size → resp = (deserializeResponse size.toNat).eval buffer)
  | _ => true

namespace System

/-- A client whose session thread has just been started, and threads that have done nothing. -/
def start (client : Client) : System Tid where
  client
  mutex := none
  api := fun _ => .idle
  session := .top
  serialized := fun _ => none
  calls := 0
  events := []

def init (client : Client) (bufferCount : UInt16) (bufferSize : Nat) : System Tid :=
  start (startSessionThread client bufferCount bufferSize)

def setApi (system : System Tid) (tid : Tid) (pc : ApiPc) : System Tid :=
  { system with api := Function.update system.api tid pc }

def log (system : System Tid) (events : List Event) : System Tid :=
  { system with events := system.events ++ events }

def call (system : System Tid) (tid : Tid) (request : Request) : System Tid :=
  let serial := system.calls
  let system := { system with calls := serial + 1 }.log [.called serial request]
  match request.refused system.client with
  | some status => system.log [.refused serial status]
  | none => system.setApi tid (.wanting serial request)

/-- One pass of the retry loop of `get_buffer_slot`, under the lock. -/
def trySlot (system : System Tid) (tid : Tid) (serial : Nat) (request : Request) : System Tid :=
  match system.client.freeQueue.dequeue with
  | (some slot, freeQueue) =>
      { system with client := { system.client with freeQueue }, mutex := none }.setApi tid
        (.serializing serial request slot)
  | (none, _) => { system with mutex := some tid }.setApi tid (.spinning serial request)

def serialize (system : System Tid) (tid : Tid) (serial : Nat) (request : Request) (slot : UInt16) :
    System Tid :=
  let outgoing := request.outgoing system.client
  { system with
    client := request.afterSerialize (serializeInto system.client slot outgoing.bytes)
    serialized := Function.update system.serialized slot (some outgoing) }.setApi tid
      (.registering serial request slot outgoing)

def register (system : System Tid) (tid : Tid) (serial : Nat) (request : Request) (slot : UInt16)
    (outgoing : Outgoing) : System Tid :=
  { system with client := request.register system.client serial }.setApi tid
    (.enqueueing serial slot outgoing)
    |>.log ((request.waiting system.client serial).toList.map .registered)

def enqueueSlot (system : System Tid) (tid : Tid) (serial : Nat) (slot : UInt16)
    (outgoing : Outgoing) : System Tid :=
  { system with client := enqueueSlotForSend system.client slot outgoing.bytes.length }.setApi tid
    .idle |>.log [.enqueued serial outgoing, .returned serial]

/-- The head of the session loop. -/
def sessionTop (system : System Tid) : System Tid :=
  if system.client.readyToDisconnect then { system with session := .ended }
  else
    match system.client.sendQueue.dequeue with
    | (some slot, sendQueue) =>
        { system with client := { system.client with sendQueue }, session := .sending slot }
    | (none, _) => { system with session := .receiving }

/-- The result of the send is not looked at. -/
def sessionSend (system : System Tid) (slot : UInt16) : System Tid :=
  { system with session := .requeueing slot }.log
    [.handed (system.serialized slot) (slotBytes system.client slot)]

def sessionRequeue (system : System Tid) (slot : UInt16) : System Tid :=
  { system with
    client := { system.client with freeQueue := system.client.freeQueue.enqueue slot }
    session := .receiving }

def sessionReceive (system : System Tid) (buffer : Memory) (size : Int) (resp : Option Response) :
    System Tid :=
  let system := { system with client := { system.client with receiveBuffer := buffer } }
  if 0 < size then
    match resp with
    | none => { system with session := .crashed }
    | some resp => { system with session := .handling resp }.log [.received buffer resp]
  else { system with session := .top }

def sessionHandle (system : System Tid) (resp : Response) : System Tid :=
  let (client, session, events) := handleResponse system.client resp
  { system with client, session }.log events

def sessionReply (system : System Tid) (reply : Reply) (sent : Bool) : System Tid :=
  let client :=
    { system.client with receiveBuffer := system.client.receiveBuffer.write reply.frame }
  let (session, events) := afterReply client reply sent
  { system with client, session }.log (.replied reply sent :: events)

def sessionRegister (system : System Tid) (waiting : Waiting) : System Tid :=
  { system with client := Smqtt.enqueueWaiting system.client waiting, session := .top }

/-- An action whose critical section the mutex has to admit. -/
def locked (system : System Tid) (next : System Tid) : Option (System Tid) :=
  if system.mutex.isNone then some next else none

def step (system : System Tid) : Label Tid → Option (System Tid)
  | .call tid request =>
      match system.api tid with
      | .idle => some (system.call tid request)
      | _ => none
  | .lockSlot tid =>
      match system.api tid with
      | .wanting serial request => system.locked (system.trySlot tid serial request)
      | _ => none
  | .spin tid =>
      match system.api tid with
      | .spinning serial request => some (system.trySlot tid serial request)
      | _ => none
  | .serialize tid =>
      match system.api tid with
      | .serializing serial request slot => some (system.serialize tid serial request slot)
      | _ => none
  | .enqueueWaiting tid =>
      match system.api tid with
      | .registering serial request slot outgoing =>
          if (request.waiting system.client serial).isSome then
            system.locked (system.register tid serial request slot outgoing)
          else some (system.register tid serial request slot outgoing)
      | _ => none
  | .enqueueSlot tid =>
      match system.api tid with
      | .enqueueing serial slot outgoing =>
          system.locked (system.enqueueSlot tid serial slot outgoing)
      | _ => none
  | .signalDisconnect =>
      system.locked { system with client := { system.client with readyToDisconnect := true } }
  | .sessionTop =>
      match system.session with
      | .top => system.locked system.sessionTop
      | _ => none
  | .sessionSend _ =>
      match system.session with
      | .sending slot => some (system.sessionSend slot)
      | _ => none
  | .sessionRequeue =>
      match system.session with
      | .requeueing slot => system.locked (system.sessionRequeue slot)
      | _ => none
  | .sessionReceive buffer size resp =>
      match system.session with
      | .receiving => some (system.sessionReceive buffer size resp)
      | _ => none
  | .sessionHandle =>
      match system.session with
      | .handling resp =>
          if resp.searches then system.locked (system.sessionHandle resp)
          else some (system.sessionHandle resp)
      | _ => none
  | .sessionReply sent =>
      match system.session with
      | .replying reply => some (system.sessionReply reply sent)
      | _ => none
  | .sessionRegister =>
      match system.session with
      | .registering waiting => system.locked (system.sessionRegister waiting)
      | _ => none

end System

end Smqtt
