import Smqtt.Messages
import Smqtt.Server

/-!
# The single-threaded client

`smqttc.c`. Every operation sends a frame and, unless it is done then, waits for the packet that
answers it. `receive_buffer` is static: it is handed from one operation to the next, and is parsed
again whether or not anything has been stored in it.
-/

namespace Smqtt

/-- `smqtt_status_t`; a function can also return a number that is none of its values. -/
inductive Status where
  | ok
  | badMessage
  | noack
  | nomessage
  | notConnected
  | unexpected
  | invalid
  | notAuthorized
  | socket
  | protocol
  | identifier
  | server
  | notAuthenticated
  | number (value : Int)
  deriving DecidableEq

def statusFromNet : NetStatus → Status
  | .ok => .ok
  | .socket => .socket

def maxClientIdChars : Nat := 24

def maxHostnameChars : Nat := 100

/-- `smqtt_client`. The two character arrays are given by their bytes. -/
structure SmqttClient where
  hostname : List UInt8
  clientid : List UInt8
  port : UInt16
  connected : Bool
  publishPacketId : UInt16
  subscribePacketId : UInt16
  unsubscribePacketId : UInt16
  server : ServerRef
  deriving DecidableEq

/-- The string and its terminator go over the start of the array. -/
def strcpy (array : List UInt8) (str : CString) : List UInt8 :=
  str.bytes ++ 0 :: array.drop (str.bytes.length + 1)

/-- A character array, read as a string. -/
def arrayString (array : List UInt8) : CString where
  bytes := cString array
  noNul hmem := by simpa using List.mem_takeWhile_imp hmem

/-- What `deserialize_response` makes of the buffer. A negative size ends the buffer before its
second byte, as 0 does. -/
def parseBuffer (buffer : Memory) (size : Int) : Option Response :=
  (deserializeResponse size.toNat).eval buffer

/-! ### Connecting -/

/-- The arguments of `smqtt_connect_internal`. The will's strings come with its flag. -/
structure ConnectArgs where
  mode : ServerMode
  serverIp : CString
  port : UInt32
  clientId : CString
  user : Option CString
  pw : Option CString
  keepAliveSec : UInt16
  cleanSession : Bool
  willQos : QoS
  willRetain : Bool
  will : Option Will

/-- The CONNECT of a client with this id; the keep-alive is passed as a `uint8_t`. -/
def ConnectArgs.frame (args : ConnectArgs) (clientId : CString) : List UInt8 :=
  makeConnectMessage clientId args.user args.pw (UInt8.ofNat args.keepAliveSec.toNat)
    args.cleanSession args.willQos args.willRetain args.will

/-- `Connection_Accepted` -/
def connectionAccepted : UInt8 := 0

def refusal (type : UInt8) : Status :=
  match type.toNat with
  | 1 => .protocol
  | 2 => .identifier
  | 3 => .server
  | 4 => .notAuthenticated
  | 5 => .notAuthorized
  | _ => .noack

/-- `*client` afterwards: left alone, or set to a pointer, which is null if there was no memory. -/
inductive ClientOut where
  | unchanged
  | null
  | set (client : SmqttClient)
  deriving DecidableEq

structure Connected where
  status : Status
  client : ClientOut
  receiveBuffer : Memory

/-- The server that a mode asks for; no local one is made. -/
def makeServer (mode : ServerMode) (otherwise : ServerRef) : Serve ServerRef :=
  if mode = .remoteServer then createNetworkServer else pure otherwise

/-- `smqtt_connect_internal` from the packet that was received on. -/
def answerConnect (connection : SmqttClient) (buffer : Memory) (size : Int) : Serve Connected :=
  let connected := { connection with connected := true }
  if size > 0 then
    match parseBuffer buffer size with
    | none => pure ⟨.number 99, .unchanged, buffer⟩
    | some (.connack type) =>
        if type ≠ connectionAccepted then do
          let _ ← serverDisconnect connection.server
          pure ⟨refusal type, .unchanged, buffer⟩
        else pure ⟨.ok, .set connected, buffer⟩
    | some _ => pure ⟨.ok, .set connected, buffer⟩
  else do
    let _ ← serverDisconnect connection.server
    pure ⟨.nomessage, .unchanged, buffer⟩

/-- `smqtt_connect_internal` from `server_connect` on. -/
def greetServer (args : ConnectArgs) (connection : SmqttClient) (buffer : Memory) :
    Serve Connected := do
  let stat ← serverConnect connection.server (arrayString connection.hostname) connection.port 30000
  if statusFromNet stat ≠ .ok then pure ⟨statusFromNet stat, .unchanged, buffer⟩
  else
    let stat ← serverSend connection.server (args.frame (arrayString connection.clientid))
    if statusFromNet stat ≠ .ok then pure ⟨statusFromNet stat, .unchanged, buffer⟩
    else
      let reception ← serverReceive connection.server
      answerConnect connection (buffer.patch reception.stored) reception.size

/-- What is set in the memory for a client before it connects. -/
def initialise (args : ConnectArgs) (memory : SmqttClient) (server : ServerRef) : SmqttClient :=
  { memory with
    server
    port := UInt16.ofNat args.port.toNat
    publishPacketId := 0
    subscribePacketId := 1
    hostname := strcpy memory.hostname args.serverIp
    clientid := strcpy memory.clientid args.clientId
    connected := false }

/-- `memory` is what `malloc` returns for the client. -/
def smqttConnectInternal (args : ConnectArgs) (memory : Option SmqttClient) (buffer : Memory) :
    Serve Connected :=
  match memory with
  | none => pure ⟨.ok, .null, buffer⟩
  | some memory => do
      let server ← makeServer args.mode memory.server
      if strlen args.clientId + 1 > maxClientIdChars ∨ strlen args.serverIp + 1 > maxHostnameChars
      then pure ⟨.ok, .unchanged, buffer⟩
      else greetServer args (initialise args memory server) buffer

/-! ### Operations -/

/-- What an operation leaves behind. `packetId` and `message` are what it has stored through its
out-parameters; `message` comes with the size stored for it. -/
structure Returned where
  status : Status
  client : SmqttClient
  receiveBuffer : Memory
  packetId : Option UInt16
  message : Option (List UInt8 × UInt16)

/-- The end of an operation that has no out-parameters. -/
def finish (client : SmqttClient) (status : Status) (buffer : Memory) : Returned :=
  ⟨status, client, buffer, none, none⟩

/-- Send a frame and go on, or give up with a status. -/
def sendThen (server : ServerRef) (frame : List UInt8) (failed : Status → Returned)
    (next : Serve Returned) : Serve Returned := do
  let stat ← serverSend server frame
  if statusFromNet stat ≠ .ok then pure (failed (statusFromNet stat)) else next

/-- Wait for a packet and go on if it is the one that is expected. -/
def awaitThen (server : ServerRef) (buffer : Memory) (expected : Response → Bool)
    (null : Status) (finish : Status → Memory → Returned) (next : Memory → Serve Returned) :
    Serve Returned := do
  let reception ← serverReceive server
  let buffer := buffer.patch reception.stored
  match parseBuffer buffer reception.size with
  | none => pure (finish null buffer)
  | some resp => if expected resp then next buffer else pure (finish .unexpected buffer)

/-- The packet id in a response, at the start of the member that its type selects. -/
def Response.packetId : Response → Option UInt16
  | puback packetId => some packetId
  | pubrec packetId => some packetId
  | pubrel packetId => some packetId
  | pubcomp packetId => some packetId
  | suback packetId _ => some packetId
  | unsuback packetId => some packetId
  | _ => none

def Response.acknowledges (type : MessageType) (packetId : UInt16) (resp : Response) : Bool :=
  resp.type = type ∧ resp.packetId = some packetId

def smqttPing (client : SmqttClient) (buffer : Memory) : Serve Returned :=
  if client.connected then
    sendThen client.server makePingreqMessage (fun stat => finish client stat buffer)
      (awaitThen client.server buffer (fun resp => resp.type = .pingresp) .badMessage
        (finish client) fun buffer => pure (finish client .ok buffer))
  else pure (finish client .notConnected buffer)

def smqttSubscribe (client : SmqttClient) (buffer : Memory) (topics : List (CString × QoS)) :
    Serve Returned :=
  if client.connected then
    let client := { client with subscribePacketId := client.subscribePacketId + 1 }
    sendThen client.server (makeSubscribeMessage client.subscribePacketId topics)
      (fun _ => finish client (.number (-1)) buffer)
      (awaitThen client.server buffer (Response.acknowledges .suback client.subscribePacketId)
        .badMessage (finish client) fun buffer => pure (finish client .ok buffer))
  else pure (finish client .notConnected buffer)

def smqttUnsubscribe (client : SmqttClient) (buffer : Memory) (topics : List CString) :
    Serve Returned :=
  if client.connected then
    let client := { client with unsubscribePacketId := client.unsubscribePacketId + 1 }
    sendThen client.server (makeUnsubscribeMessage client.unsubscribePacketId topics)
      (fun stat => finish client stat buffer)
      (awaitThen client.server buffer (Response.acknowledges .unsuback client.unsubscribePacketId)
        .badMessage (finish client) fun buffer => pure (finish client .ok buffer))
  else pure (finish client .notConnected buffer)

/-- The wait for a PUBCOMP, behind the PUBREL. -/
def completePublish (client : SmqttClient) (buffer : Memory) : Serve Returned :=
  sendThen client.server (makePubrelMessage client.publishPacketId)
    (fun stat => finish client stat buffer)
    (awaitThen client.server buffer (Response.acknowledges .pubcomp client.publishPacketId)
      .badMessage (finish client) fun buffer => pure (finish client .ok buffer))

def smqttPublish (client : SmqttClient) (buffer : Memory) (topic : CString) (msg : Option CString)
    (qos : QoS) (retain : Bool) : Serve Returned :=
  if client.connected then
    if QoS2 < qos then pure (finish client .invalid buffer)
    else if qos = QoS0 then
      sendThen client.server (makePublishMessage topic client.publishPacketId qos retain msg)
        (fun stat => finish client stat buffer) (pure (finish client .ok buffer))
    else
      let client := { client with publishPacketId := client.publishPacketId + 1 }
      sendThen client.server (makePublishMessage topic client.publishPacketId qos retain msg)
        (fun stat => finish client stat buffer)
        (if qos = QoS1 then
          awaitThen client.server buffer (Response.acknowledges .puback client.publishPacketId)
            .badMessage (finish client) fun buffer => pure (finish client .ok buffer)
        else
          awaitThen client.server buffer (Response.acknowledges .pubrec client.publishPacketId)
            (.number (-1)) (finish client) (completePublish client))
  else pure (finish client .notConnected buffer)

/-- The end of an operation that has received a message: what it has stored for the caller. -/
def finishMessage (client : SmqttClient) (received : Memory) (data : PublishData) (status : Status)
    (buffer : Memory) : Returned where
  status
  client
  receiveBuffer := buffer
  packetId := if data.packetId ≠ 0 then some data.packetId else none
  message := some (strncpy (data.message.bytes received), data.message.size)

/-- The acknowledgements of a message that has been received. -/
def receiveMessage (client : SmqttClient) (buffer : Memory) (data : PublishData) :
    Serve Returned :=
  let finish := finishMessage client buffer data
  if data.qos = QoS0 then pure (finish .ok buffer)
  else if data.qos = QoS1 then
    sendThen client.server (makePubackMessage data.packetId) (fun stat => finish stat buffer)
      (pure (finish .ok buffer))
  else if data.qos = QoS2 then
    sendThen client.server (makePubrecMessage data.packetId) (fun stat => finish stat buffer)
      (awaitThen client.server buffer (Response.acknowledges .pubrel data.packetId) .badMessage
        finish fun buffer =>
          sendThen client.server (makePubcompMessage data.packetId)
            (fun stat => finish stat buffer) (pure (finish .ok buffer)))
  else pure (finish .ok buffer)

/-- The client need not be connected. -/
def smqttGetNextMessage (client : SmqttClient) (buffer : Memory) : Serve Returned := do
  let reception ← serverReceive client.server
  let buffer := buffer.patch reception.stored
  if reception.size < 0 then pure (finish client .nomessage buffer)
  else
    match parseBuffer buffer reception.size with
    | none => pure (finish client .badMessage buffer)
    | some (.publish data) => receiveMessage client buffer data
    | some _ => pure (finish client .unexpected buffer)

/-- The connection is dropped whether or not the DISCONNECT could be sent; `connected` stays. -/
def smqttDisconnect (client : SmqttClient) (buffer : Memory) : Serve Returned := do
  let stat ← serverSend client.server makeDisconnectMessage
  let _ ← serverDisconnect client.server
  if statusFromNet stat ≠ .ok then pure (finish client (statusFromNet stat) buffer)
  else pure (finish client .ok buffer)

/-- One call of the interface, with its arguments. -/
inductive Operation where
  | ping
  | publish (topic : CString) (msg : Option CString) (qos : QoS) (retain : Bool)
  | subscribe (topics : List (CString × QoS))
  | unsubscribe (topics : List CString)
  | getNextMessage
  | disconnect

def Operation.perform (client : SmqttClient) (buffer : Memory) : Operation → Serve Returned
  | ping => smqttPing client buffer
  | publish topic msg qos retain => smqttPublish client buffer topic msg qos retain
  | subscribe topics => smqttSubscribe client buffer topics
  | unsubscribe topics => smqttUnsubscribe client buffer topics
  | getNextMessage => smqttGetNextMessage client buffer
  | disconnect => smqttDisconnect client buffer

end Smqtt
