import Smqtt.Program
import Smqtt.Proof.Known

/-!
# What an operation takes from an old buffer

`receive_buffer` is parsed whether or not anything has been stored in it. An operation shows nothing
of what the buffer held before the call exactly if the bytes that are stored during the call settle
every packet that it waits for, and all of a message that it hands over.
-/

namespace Smqtt

open Interaction Memory

/-- What is seen of an operation from outside: by the caller, and on the connection. -/
structure Outcome where
  status : Status
  packetId : Option UInt16
  message : Option (List UInt8 × UInt16)
  frames : List (List UInt8)
  deriving DecidableEq

def observe (broker : Broker) (history : List ServerCall) (tree : Serve Returned) : Outcome :=
  let ended := tree.run (respond broker) history
  ⟨ended.1.status, ended.1.packetId, ended.1.message, sentFrames ended.2⟩

/-- The size of `receive_buffer`. -/
def receiveBufferSize : Nat := 1024

/-- Runs that differ in the old contents of the buffer only have the same outcome. -/
def Fresh (broker : Broker) (client : SmqttClient) (op : Operation) : Prop :=
  ∀ buffer buffer', (∀ index, receiveBufferSize ≤ index → buffer index = buffer' index) →
    observe broker [] (op.perform client buffer) = observe broker [] (op.perform client buffer')

/-! ### The condition -/

/-- The bytes that are known make a packet out to be the one that is waited for. -/
def Accepts (known : Nat → Option UInt8) (size : Int) (type : MessageType)
    (packetId : Option UInt16) : Prop :=
  (parseBuffer (overZeros known) size).map (Response.answers type packetId) = some true

/-- If a frame could be sent. -/
def AfterSend (broker : Broker) (history : List ServerCall) (server : ServerRef)
    (frame : List UInt8) (next : List ServerCall → Prop) : Prop :=
  broker history (.send server frame) = .ok → next (history ++ [.send server frame])

/-- What has been stored up to the end of a wait settles whether the packet is the one that is
waited for, and what comes next if it is. -/
def AfterReceive (broker : Broker) (history : List ServerCall) (server : ServerRef)
    (known : Nat → Option UInt8) (type : MessageType) (packetId : Option UInt16)
    (next : List ServerCall → (Nat → Option UInt8) → Prop) : Prop :=
  let reception := broker history (.receive server)
  let known := overlay reception.stored known
  Settles known reception.size.toNat type packetId ∧
    (Accepts known reception.size type packetId → next (history ++ [.receive server]) known)

/-- A request and its acknowledgement, and nothing behind it. -/
def AfterRequest (broker : Broker) (history : List ServerCall) (server : ServerRef)
    (known : Nat → Option UInt8) (frame : List UInt8) (type : MessageType)
    (packetId : Option UInt16) : Prop :=
  AfterSend broker history server frame fun history =>
    AfterReceive broker history server known type packetId fun _ _ => True

/-- What has been stored holds all of a message, if it holds one, and settles the PUBREL. -/
def AfterMessage (broker : Broker) (history : List ServerCall) (server : ServerRef)
    (known : Nat → Option UInt8) (size : Int) : Prop :=
  (SettlesPacket known size.toNat fun found => found = .publish →
    ∃ last, lengthEnd (overZeros known) size.toNat 4 1 = some last ∧
      StoresMessage known size.toNat last) ∧
  ∀ data, parseBuffer (overZeros known) size = some (.publish data) → data.qos = QoS2 →
    AfterRequest broker history server known (makePubrecMessage data.packetId) .pubrel
      (some data.packetId)

/-- What is stored during the call settles, with what is known before it, all that the operation
reads. -/
def Operation.Conclusive (broker : Broker) (client : SmqttClient) (known : Nat → Option UInt8) :
    Operation → Prop
  | ping => client.connected →
      AfterRequest broker [] client.server known makePingreqMessage .pingresp none
  | subscribe topics => client.connected →
      let packetId := client.subscribePacketId + 1
      AfterRequest broker [] client.server known (makeSubscribeMessage packetId topics)
        .suback (some packetId)
  | unsubscribe topics => client.connected →
      let packetId := client.unsubscribePacketId + 1
      AfterRequest broker [] client.server known
        (makeUnsubscribeMessage packetId topics) .unsuback (some packetId)
  | publish topic msg qos retain => client.connected →
      let packetId := client.publishPacketId + 1
      let frame := makePublishMessage topic packetId qos retain msg
      (qos = QoS1 → AfterRequest broker [] client.server known frame .puback
        (some packetId)) ∧
      (qos = QoS2 → AfterSend broker [] client.server frame fun history =>
        AfterReceive broker history client.server known .pubrec (some packetId)
          fun history known =>
            AfterRequest broker history client.server known (makePubrelMessage packetId) .pubcomp
              (some packetId))
  | getNextMessage =>
      let reception := broker [] (.receive client.server)
      0 ≤ reception.size →
        AfterMessage broker [.receive client.server] client.server
          (overlay reception.stored known) reception.size
  | disconnect => True

/-- What stands behind `receive_buffer` is not part of it. -/
def behindBuffer (memory : Memory) (index : Nat) : Option UInt8 :=
  if index < receiveBufferSize then none else some (memory index)

/-! ### Sending and waiting -/

section Steps

variable {broker : Broker} {history : List ServerCall} {known : Nat → Option UInt8}
  {server : ServerRef}

/-- The outcome of an operation that is entered with a buffer. -/
def Steady (broker : Broker) (history : List ServerCall) (known : Nat → Option UInt8)
    (tree : Memory → Serve Returned) : Prop :=
  Decides known fun buffer => observe broker history (tree buffer)

/-- Of what an operation returns, the status is all that is not fixed. -/
structure Reports (finish : Status → Memory → Returned) (packetId : Option UInt16)
    (message : Option (List UInt8 × UInt16)) : Prop where
  status : ∀ status buffer, (finish status buffer).status = status
  packetId : ∀ status buffer, (finish status buffer).packetId = packetId
  message : ∀ status buffer, (finish status buffer).message = message

theorem reports_finish (client : SmqttClient) : Reports (finish client) none none :=
  ⟨fun _ _ => rfl, fun _ _ => rfl, fun _ _ => rfl⟩

variable {finish : Status → Memory → Returned} {packetId : Option UInt16}
  {message : Option (List UInt8 × UInt16)}

theorem Reports.observe_pure (hreports : Reports finish packetId message) (status : Status)
    (buffer : Memory) (broker : Broker) (history : List ServerCall) :
    observe broker history (pure (finish status buffer))
      = ⟨status, packetId, message, sentFrames history⟩ := by
  rw [observe, run_pure, hreports.status, hreports.packetId, hreports.message]

theorem Reports.steady_pure (hreports : Reports finish packetId message) (status : Status) :
    Steady broker history known fun buffer => pure (finish status buffer) := by
  intro left right _ _
  dsimp only
  rw [hreports.observe_pure, hreports.observe_pure]

theorem observe_sendThen (frame : List UInt8) (failed : Status → Returned)
    (next : Serve Returned) :
    observe broker history (sendThen server frame failed next)
      = if broker history (.send server frame) = .ok then
          observe broker (history ++ [.send server frame]) next
        else observe broker (history ++ [.send server frame]) (pure (failed .socket)) := by
  rw [observe, run_sendThen]
  split
  · rfl
  · rfl

theorem steady_sendThen_iff (frame : List UInt8) {failed : Memory → Status → Returned}
    {next : Memory → Serve Returned}
    (hfailed : Steady broker (history ++ [.send server frame]) known
      fun buffer => pure (failed buffer .socket)) :
    Steady broker history known (fun buffer => sendThen server frame (failed buffer) (next buffer)) ↔
      AfterSend broker history server frame fun history => Steady broker history known next := by
  simp only [Steady, AfterSend, observe_sendThen]
  by_cases hstat : broker history (.send server frame) = .ok
  · simp [hstat]
  · simp only [hstat, if_false, false_imp_iff, iff_true]
    exact hfailed

/-- The outcome of a wait, by what the parse comes to and the buffer that is left. -/
def awaited (broker : Broker) (history : List ServerCall) (null : Status)
    (finish : Status → Memory → Returned) (next : Memory → Serve Returned) (answered : Option Bool)
    (buffer : Memory) : Outcome :=
  match answered with
  | none => observe broker history (pure (finish null buffer))
  | some false => observe broker history (pure (finish .unexpected buffer))
  | some true => observe broker history (next buffer)

theorem observe_awaitThen (buffer : Memory) (expected : Response → Bool) (null : Status)
    (next : Memory → Serve Returned) :
    observe broker history (awaitThen server buffer expected null finish next)
      = awaited broker (history ++ [.receive server]) null finish next
          ((parseBuffer (buffer.patch (broker history (.receive server)).stored)
            (broker history (.receive server)).size).map expected)
          (buffer.patch (broker history (.receive server)).stored) := by
  rw [observe, run_awaitThen, Broker.packet]
  cases (parseBuffer (buffer.patch (broker history (.receive server)).stored)
    (broker history (.receive server)).size).map expected with
  | none => rfl
  | some answered =>
      cases answered with
      | false => rfl
      | true => rfl

/-- A wait whose end is told from what comes next shows what the parse has come to. -/
theorem Reports.awaited_shows (hreports : Reports finish packetId message) {null : Status}
    (hnull : null ≠ .unexpected) {next : Memory → Serve Returned}
    (hnext : ∀ buffer status, status = null ∨ status = .unexpected →
      observe broker history (next buffer) ≠ ⟨status, packetId, message, sentFrames history⟩)
    (first second : Option Bool) (left right : Memory)
    (hsame : awaited broker history null finish next first left
      = awaited broker history null finish next second right) : first = second := by
  match first, second with
  | none, none | some false, some false | some true, some true => rfl
  | none, some false | some false, none =>
      simp [awaited, hreports.observe_pure, hnull, hnull.symm] at hsame
  | none, some true =>
      rw [awaited, awaited, hreports.observe_pure] at hsame
      exact absurd hsame.symm (hnext right null (.inl rfl))
  | some false, some true =>
      rw [awaited, awaited, hreports.observe_pure] at hsame
      exact absurd hsame.symm (hnext right .unexpected (.inr rfl))
  | some true, none =>
      rw [awaited, awaited, hreports.observe_pure] at hsame
      exact absurd hsame (hnext left null (.inl rfl))
  | some true, some false =>
      rw [awaited, awaited, hreports.observe_pure] at hsame
      exact absurd hsame (hnext left .unexpected (.inr rfl))

theorem Reports.steady_awaitThen_iff (hreports : Reports finish packetId message)
    (type : MessageType) (id : Option UInt16) (hid : id.isSome → type.isAcknowledgement)
    {null : Status} (hnull : null ≠ .unexpected) {next : Memory → Serve Returned}
    (hnext : ∀ buffer status, status = null ∨ status = .unexpected →
      observe broker (history ++ [.receive server]) (next buffer)
        ≠ ⟨status, packetId, message, sentFrames (history ++ [.receive server])⟩) :
    Steady broker history known
        (fun buffer => awaitThen server buffer (Response.answers type id) null finish next) ↔
      AfterReceive broker history server known type id fun history known =>
        Steady broker history known next := by
  simp only [Steady, AfterReceive, observe_awaitThen]
  set reception := broker history (.receive server)
  set behind := history ++ [ServerCall.receive server]
  have hpart := decides_comp_iff
    (fun memory => (parseBuffer memory reception.size).map (Response.answers type id))
    (hreports.awaited_shows hnull hnext) (agrees_overZeros (overlay reception.stored known))
  refine (decides_patch_iff fun memory => awaited broker behind null finish next
    ((parseBuffer memory reception.size).map (Response.answers type id)) memory).trans ?_
  rw [hpart, decides_answers_iff hid]
  refine and_congr_right fun hsettles => ?_
  rw [Accepts]
  cases (parseBuffer (overZeros (overlay reception.stored known)) reception.size).map
    (Response.answers type id) with
  | none => exact iff_of_true (hreports.steady_pure null) (fun haccepts => by cases haccepts)
  | some answered =>
      cases answered with
      | false =>
          refine iff_of_true (hreports.steady_pure .unexpected) fun haccepts => ?_
          cases haccepts
      | true => exact ⟨fun hsteady _ => hsteady, fun hsteady => hsteady rfl⟩

/-- A request and its acknowledgement, with nothing behind it that the buffer could change. -/
theorem Reports.steady_request_iff (hreports : Reports finish packetId message)
    (frame : List UInt8) (type : MessageType) (id : Option UInt16)
    {failed : Memory → Status → Returned}
    (hfailed : ∀ history, Steady broker history known fun buffer => pure (failed buffer .socket))
    (hid : id.isSome → type.isAcknowledgement)
    {next : Memory → Serve Returned}
    (hnext : ∀ history buffer status, status = .badMessage ∨ status = .unexpected →
      observe broker history (next buffer) ≠ ⟨status, packetId, message, sentFrames history⟩)
    (hsteady : ∀ history known, Steady broker history known next) :
    Steady broker history known (fun buffer => sendThen server frame (failed buffer)
        (awaitThen server buffer (Response.answers type id) .badMessage finish next)) ↔
      AfterRequest broker history server known frame type id := by
  rw [steady_sendThen_iff frame (hfailed _)]
  refine imp_congr_right fun _ => (hreports.steady_awaitThen_iff type id hid
    (by simp) (hnext _)).trans ?_
  refine and_congr_right fun _ => ?_
  exact iff_of_true (fun _ => hsteady _ _) fun _ => trivial

/-- A request that is done with its acknowledgement. -/
theorem steady_acknowledged_iff (client : SmqttClient) (frame : List UInt8) (type : MessageType)
    (id : Option UInt16) {failed : Memory → Status → Returned}
    (hfailed : ∀ history, Steady broker history known fun buffer => pure (failed buffer .socket))
    (hid : id.isSome → type.isAcknowledgement) :
    Steady broker history known (fun buffer => sendThen server frame (failed buffer)
        (awaitThen server buffer (Response.answers type id) .badMessage (Smqtt.finish client)
          fun buffer => pure (Smqtt.finish client .ok buffer))) ↔
      AfterRequest broker history server known frame type id := by
  refine (reports_finish client).steady_request_iff frame type id hfailed hid ?_
    fun history known => (reports_finish client).steady_pure .ok
  rintro history buffer status (rfl | rfl) hsame
  all_goals
    rw [(reports_finish client).observe_pure] at hsame
    cases hsame

theorem sentFrames_observe (tree : Serve Returned) :
    ∃ more, (observe broker history tree).frames = sentFrames history ++ more := by
  obtain ⟨more, hmore⟩ := prefix_run_respond broker tree history
  exact ⟨sentFrames more, by rw [observe, ← hmore, sentFrames_append]⟩

/-- What sends another frame is told from what ends. -/
theorem observe_sendThen_ne (frame : List UInt8) (failed : Status → Returned)
    (next : Serve Returned) (status : Status) :
    observe broker history (sendThen server frame failed next)
      ≠ ⟨status, packetId, message, sentFrames history⟩ := by
  have hsent (tree : Serve Returned) :
      (observe broker (history ++ [.send server frame]) tree).frames ≠ sentFrames history := by
    obtain ⟨more, hmore⟩ := @sentFrames_observe broker (history ++ [.send server frame]) tree
    rw [hmore, sentFrames_append, List.append_assoc]
    simp [sentFrames, ServerCall.frame]
  intro hsame
  have hframes := congrArg Outcome.frames hsame
  rw [observe_sendThen] at hframes
  split at hframes
  · exact hsent _ hframes
  · exact hsent _ hframes

end Steps

/-! ### The operations -/

section Operations

variable {broker : Broker} {history : List ServerCall} {known : Nat → Option UInt8}
  {client : SmqttClient}

theorem steady_connected_iff {tree : Memory → Serve Returned} {connected : Bool} :
    Steady broker history known (fun buffer =>
        if connected then tree buffer else pure (finish client .notConnected buffer)) ↔
      (connected → Steady broker history known tree) := by
  cases connected with
  | false =>
      exact iff_of_true ((reports_finish client).steady_pure .notConnected)
        fun hconnected => by cases hconnected
  | true => exact ⟨fun hsteady _ => hsteady, fun hsteady => hsteady rfl⟩

theorem steady_ping_iff :
    Steady broker history known (smqttPing client) ↔ (client.connected →
      AfterRequest broker history client.server known makePingreqMessage .pingresp none) := by
  unfold smqttPing
  rw [steady_connected_iff]
  refine imp_congr_right fun _ => steady_acknowledged_iff client _ .pingresp none ?_ (by simp)
  exact fun _ => (reports_finish client).steady_pure .socket

theorem steady_subscribe_iff (topics : List (CString × QoS)) :
    Steady broker history known (fun buffer => smqttSubscribe client buffer topics) ↔
      (client.connected → AfterRequest broker history client.server known
        (makeSubscribeMessage (client.subscribePacketId + 1) topics) .suback
        (some (client.subscribePacketId + 1))) := by
  unfold smqttSubscribe
  rw [steady_connected_iff]
  refine imp_congr_right fun _ => steady_acknowledged_iff _ _ .suback (some _) ?_ (fun _ => rfl)
  exact fun _ => (reports_finish _).steady_pure (.number (-1))

theorem steady_unsubscribe_iff (topics : List CString) :
    Steady broker history known (fun buffer => smqttUnsubscribe client buffer topics) ↔
      (client.connected → AfterRequest broker history client.server known
        (makeUnsubscribeMessage (client.unsubscribePacketId + 1) topics) .unsuback
        (some (client.unsubscribePacketId + 1))) := by
  unfold smqttUnsubscribe
  rw [steady_connected_iff]
  refine imp_congr_right fun _ => steady_acknowledged_iff _ _ .unsuback (some _) ?_ (fun _ => rfl)
  exact fun _ => (reports_finish _).steady_pure .socket

/-- The end of a publish at QoS 2. -/
theorem steady_completePublish_iff :
    Steady broker history known (completePublish client) ↔
      AfterRequest broker history client.server known (makePubrelMessage client.publishPacketId)
        .pubcomp (some client.publishPacketId) := by
  unfold completePublish
  refine steady_acknowledged_iff client _ .pubcomp (some _) ?_ (fun _ => rfl)
  exact fun _ => (reports_finish client).steady_pure .socket

theorem steady_publish_iff (topic : CString) (msg : Option CString) (qos : QoS) (retain : Bool) :
    Steady broker history known (fun buffer => smqttPublish client buffer topic msg qos retain) ↔
      (client.connected →
        let packetId := client.publishPacketId + 1
        let frame := makePublishMessage topic packetId qos retain msg
        (qos = QoS1 → AfterRequest broker history client.server known frame .puback
          (some packetId)) ∧
        (qos = QoS2 → AfterSend broker history client.server frame fun history =>
          AfterReceive broker history client.server known .pubrec (some packetId)
            fun history known =>
              AfterRequest broker history client.server known (makePubrelMessage packetId) .pubcomp
                (some packetId))) := by
  have hfailed (client : SmqttClient) (history : List ServerCall) :
      Steady broker history known fun buffer => pure (finish client .socket buffer) :=
    (reports_finish client).steady_pure .socket
  unfold smqttPublish
  rw [steady_connected_iff]
  refine imp_congr_right fun _ => ?_
  dsimp only
  by_cases hhigh : QoS2 < qos
  · have hqos1 : qos ≠ QoS1 := by
      rintro rfl
      exact absurd hhigh (by decide)
    have hqos2 : qos ≠ QoS2 := by
      rintro rfl
      exact absurd hhigh (by decide)
    simp only [hhigh, if_true, hqos1, hqos2, false_imp_iff, and_self, iff_true]
    exact (reports_finish client).steady_pure .invalid
  by_cases hqos0 : qos = QoS0
  · subst hqos0
    simp only [hhigh, if_true, if_false, show QoS0 ≠ QoS1 by decide, show QoS0 ≠ QoS2 by decide,
      false_imp_iff, and_self, iff_true]
    rw [steady_sendThen_iff _ (hfailed client _)]
    exact fun _ => (reports_finish client).steady_pure .ok
  by_cases hqos1 : qos = QoS1
  · subst hqos1
    simp only [hhigh, hqos0, if_true, if_false, show QoS1 ≠ QoS2 by decide, false_imp_iff,
      true_imp_iff, and_true]
    exact steady_acknowledged_iff _ _ .puback (some _) (hfailed _) (fun _ => rfl)
  · have hqos2 : qos = QoS2 := by
      rw [← UInt32.toNat_inj] at hqos0 hqos1 ⊢
      rw [UInt32.lt_iff_toNat_lt] at hhigh
      simp only [QoS0, QoS1, QoS2, UInt32.reduceToNat] at *
      omega
    subst hqos2
    simp only [hhigh, hqos0, hqos1, if_false, false_imp_iff, true_imp_iff, true_and]
    rw [steady_sendThen_iff _ (hfailed _ _)]
    refine imp_congr_right fun _ => ((reports_finish _).steady_awaitThen_iff .pubrec (some _)
      (fun _ => rfl) (by simp) fun buffer status _ => observe_sendThen_ne _ _ _ status).trans ?_
    exact and_congr_right fun _ => imp_congr_right fun _ => steady_completePublish_iff

end Operations

/-! ### Receiving a message -/

section Message

variable {broker : Broker} {history : List ServerCall} {known : Nat → Option UInt8}
  {client : SmqttClient}

/-- What an operation stores for the caller, however it ends. -/
def Shows (packetId : Option UInt16) (message : Option (List UInt8 × UInt16))
    (tree : Serve Returned) : Prop :=
  ∀ broker history, (observe broker history tree).packetId = packetId ∧
    (observe broker history tree).message = message

section Shows

variable {server : ServerRef} {finish : Status → Memory → Returned} {packetId : Option UInt16}
  {message : Option (List UInt8 × UInt16)}

theorem Reports.shows_pure (hreports : Reports finish packetId message) (status : Status)
    (buffer : Memory) : Shows packetId message (pure (finish status buffer)) := by
  intro broker history
  rw [hreports.observe_pure]
  exact ⟨rfl, rfl⟩

theorem shows_sendThen {frame : List UInt8} {failed : Status → Returned} {next : Serve Returned}
    (hfailed : Shows packetId message (pure (failed .socket)))
    (hnext : Shows packetId message next) :
    Shows packetId message (sendThen server frame failed next) := by
  intro broker history
  rw [observe_sendThen]
  split
  · exact hnext _ _
  · exact hfailed _ _

theorem Reports.shows_awaitThen (hreports : Reports finish packetId message) {buffer : Memory}
    {expected : Response → Bool} {null : Status} {next : Memory → Serve Returned}
    (hnext : ∀ buffer, Shows packetId message (next buffer)) :
    Shows packetId message (awaitThen server buffer expected null finish next) := by
  intro broker history
  rw [observe_awaitThen]
  unfold awaited
  split
  · exact hreports.shows_pure _ _ _ _
  · exact hreports.shows_pure _ _ _ _
  · exact hnext _ _ _

end Shows

/-- The packet id that is stored for the caller, who gets none that is zero. -/
def storedId (packetId : UInt16) : Option UInt16 := if packetId ≠ 0 then some packetId else none

/-- `finishMessage`, by what the caller gets to see of the message. -/
def finishContent (client : SmqttClient) (content : UInt16 × List UInt8 × UInt16) (status : Status)
    (buffer : Memory) : Returned where
  status
  client
  receiveBuffer := buffer
  packetId := storedId content.1
  message := some content.2

/-- `receiveMessage`, by what the caller gets to see of the message. -/
def deliver (client : SmqttClient) (qos : QoS) (content : UInt16 × List UInt8 × UInt16)
    (buffer : Memory) : Serve Returned :=
  let finish := finishContent client content
  if qos = QoS0 then pure (finish .ok buffer)
  else if qos = QoS1 then
    sendThen client.server (makePubackMessage content.1) (fun stat => finish stat buffer)
      (pure (finish .ok buffer))
  else if qos = QoS2 then
    sendThen client.server (makePubrecMessage content.1) (fun stat => finish stat buffer)
      (awaitThen client.server buffer (Response.acknowledges .pubrel content.1) .badMessage
        finish fun buffer =>
          sendThen client.server (makePubcompMessage content.1)
            (fun stat => finish stat buffer) (pure (finish .ok buffer)))
  else pure (finish .ok buffer)

theorem receiveMessage_eq (buffer : Memory) (data : PublishData) :
    receiveMessage client buffer data = deliver client data.qos
      (data.packetId, strncpy (data.message.bytes buffer), data.message.size) buffer := rfl

theorem reports_finishContent (client : SmqttClient) (content : UInt16 × List UInt8 × UInt16) :
    Reports (finishContent client content) (storedId content.1) (some content.2) :=
  ⟨fun _ _ => rfl, fun _ _ => rfl, fun _ _ => rfl⟩

variable {content : UInt16 × List UInt8 × UInt16}

theorem shows_deliver (qos : QoS) (buffer : Memory) :
    Shows (storedId content.1) (some content.2) (deliver client qos content buffer) := by
  have hreports := reports_finishContent client content
  have hend (status : Status) (buffer : Memory) := hreports.shows_pure status buffer
  unfold deliver
  dsimp only
  split
  · exact hend _ _
  · split
    · exact shows_sendThen (hend .socket buffer) (hend _ _)
    · split
      · refine shows_sendThen (hend .socket buffer) (hreports.shows_awaitThen fun buffer => ?_)
        exact shows_sendThen (hend .socket buffer) (hend _ _)
      · exact hend _ _

theorem steady_deliver_iff (qos : QoS) :
    Steady broker history known (deliver client qos content) ↔ (qos = QoS2 →
      AfterRequest broker history client.server known (makePubrecMessage content.1) .pubrel
        (some content.1)) := by
  have hreports := reports_finishContent client content
  have hfailed (history : List ServerCall) (known : Nat → Option UInt8) :
      Steady broker history known fun buffer => pure (finishContent client content .socket buffer) :=
    hreports.steady_pure .socket
  have hsent (frame : List UInt8) (history : List ServerCall) (known : Nat → Option UInt8) :
      Steady broker history known fun buffer => sendThen client.server frame
        (fun stat => finishContent client content stat buffer)
        (pure (finishContent client content .ok buffer)) :=
    (steady_sendThen_iff frame (hfailed _ _)).mpr fun _ => hreports.steady_pure .ok
  unfold deliver
  by_cases hqos0 : qos = QoS0
  · subst hqos0
    simp only [if_true, show QoS0 ≠ QoS2 by decide, false_imp_iff, iff_true]
    exact hreports.steady_pure .ok
  by_cases hqos1 : qos = QoS1
  · subst hqos1
    simp only [hqos0, if_true, if_false, show QoS1 ≠ QoS2 by decide, false_imp_iff, iff_true]
    exact hsent _ _ _
  by_cases hqos2 : qos = QoS2
  · subst hqos2
    simp only [hqos0, hqos1, if_true, if_false, true_imp_iff]
    exact hreports.steady_request_iff _ .pubrel (some _) (fun _ => hfailed _ _) (fun _ => rfl)
      (fun _ _ status _ => observe_sendThen_ne _ _ _ status) (hsent _)
  · simp only [hqos0, hqos1, hqos2, if_false, false_imp_iff, iff_true]
    exact hreports.steady_pure .ok

/-- The outcome behind the receipt of a packet, by the message that is read. -/
def received (broker : Broker) (history : List ServerCall) (client : SmqttClient)
    (found : Option (Option (UInt16 × List UInt8 × UInt16))) (buffer : Memory) : Outcome :=
  match found with
  | none => observe broker history (pure (finish client .badMessage buffer))
  | some none => observe broker history (pure (finish client .unexpected buffer))
  | some (some content) =>
      observe broker history (deliver client (firstQos (buffer 0)) content buffer)

theorem observe_getNextMessage (buffer : Memory) :
    observe broker history (smqttGetNextMessage client buffer)
      = let reception := broker history (.receive client.server)
        let history := history ++ [.receive client.server]
        if reception.size < 0 then ⟨.nomessage, none, none, sentFrames history⟩
        else received broker history client
          (readContent reception.size.toNat (buffer.patch reception.stored))
          (buffer.patch reception.stored) := by
  rw [smqttGetNextMessage, serverReceive, observe, run_bind, run_ask, respond]
  dsimp only
  set reception := broker history (.receive client.server)
  by_cases hsize : reception.size < 0
  · rw [if_pos hsize, if_pos hsize]
    rfl
  rw [if_neg hsize, if_neg hsize]
  obtain ⟨hparse, hread⟩ | ⟨resp, hparse, htype, hread⟩ | ⟨data, hparse, hqos, hread⟩ :=
    parseBuffer_cases (buffer.patch reception.stored) reception.size
  · rw [hparse, hread]
    rfl
  · rw [hparse, hread]
    cases resp with
    | publish data => exact absurd rfl htype
    | _ => rfl
  · rw [hparse, hread]
    dsimp only [received]
    rw [← hqos, receiveMessage_eq]
    rfl

theorem storedId_injective : Function.Injective storedId := by
  intro left right hsame
  unfold storedId at hsame
  grind

theorem received_shows (first second : Option (Option (UInt16 × List UInt8 × UInt16)))
    (left right : Memory)
    (hsame : received broker history client first left
      = received broker history client second right) : first = second := by
  have hmessage (content : UInt16 × List UInt8 × UInt16) (buffer : Memory) :=
    @shows_deliver client content (firstQos (buffer 0)) buffer broker history
  match first, second with
  | none, none | some none, some none => rfl
  | none, some none | some none, none => cases congrArg Outcome.status hsame
  | none, some (some content) | some none, some (some content) =>
      have hshown := congrArg Outcome.message hsame
      dsimp only [received] at hshown
      rw [(hmessage content right).2] at hshown
      cases hshown
  | some (some content), none | some (some content), some none =>
      have hshown := congrArg Outcome.message hsame
      dsimp only [received] at hshown
      rw [(hmessage content left).2] at hshown
      cases hshown
  | some (some content), some (some content') =>
      have hshown := congrArg Outcome.message hsame
      have hshownId := congrArg Outcome.packetId hsame
      dsimp only [received] at hshown hshownId
      rw [(hmessage content left).2, (hmessage content' right).2] at hshown
      rw [(hmessage content left).1, (hmessage content' right).1] at hshownId
      rw [Prod.ext (storedId_injective hshownId) (Option.some.inj hshown)]

/-- Behind a message that has been read, the PUBREL alone is still open. -/
theorem decides_received_iff {size : Int}
    (hread : Decides known (readContent size.toNat)) :
    Decides known (received broker history client (readContent size.toNat (overZeros known))) ↔
      ∀ data, parseBuffer (overZeros known) size = some (.publish data) → data.qos = QoS2 →
        AfterRequest broker history client.server known (makePubrecMessage data.packetId) .pubrel
          (some data.packetId) := by
  obtain ⟨hparse, hnone⟩ | ⟨resp, hparse, htype, hnone⟩ | ⟨data, hparse, hqos, hcontent⟩ :=
    parseBuffer_cases (overZeros known) size
  · rw [hparse, hnone]
    refine iff_of_true ((reports_finish client).steady_pure .badMessage) fun data hdata => ?_
    cases hdata
  · rw [hparse, hnone]
    refine iff_of_true ((reports_finish client).steady_pure .unexpected) fun data hdata => ?_
    obtain rfl := Option.some.inj hdata
    exact absurd rfl htype
  · -- the QoS is in the first byte, which is known if a message is
    have hfirst : (known 0).isSome := by
      obtain hends | ⟨first, hfirst, -⟩ := decides_readContent_iff.mp hread
      · have hend := hends _ (lengthEnd_mem_lengthEnds (agrees_overZeros known) size.toNat 4 1)
        simp [readContent, readPacket, hend] at hcontent
      · exact Option.isSome_of_eq_some hfirst
    have hsame (memory : Memory) (hagrees : Agrees known memory) :
        received broker history client (readContent size.toNat (overZeros known)) memory
          = observe broker history (deliver client data.qos
              (data.packetId, strncpy (data.message.bytes (overZeros known)), data.message.size)
              memory) := by
      rw [hcontent, hqos, overZeros_eq hagrees hfirst]
      rfl
    refine (Decides.congr hsame).trans ((steady_deliver_iff data.qos).trans ?_)
    rw [hparse]
    constructor
    · rintro hrequest _ ⟨⟩
      exact hrequest
    · exact fun hrequest => hrequest data rfl

theorem steady_getNextMessage_iff :
    Steady broker history known (smqttGetNextMessage client) ↔
      let reception := broker history (.receive client.server)
      0 ≤ reception.size → AfterMessage broker (history ++ [.receive client.server]) client.server
        (overlay reception.stored known) reception.size := by
  simp only [Steady, observe_getNextMessage]
  set reception := broker history (.receive client.server)
  set behind := history ++ [ServerCall.receive client.server]
  by_cases hsize : reception.size < 0
  · simp only [hsize, if_true]
    exact iff_of_true (decides_const _ _) fun hnonneg => absurd hsize (not_lt.mpr hnonneg)
  simp only [hsize, if_false, not_lt.mp hsize, true_imp_iff]
  refine (decides_patch_iff fun memory => received broker behind client
    (readContent reception.size.toNat memory) memory).trans ?_
  rw [decides_comp_iff (readContent reception.size.toNat) received_shows
    (agrees_overZeros (overlay reception.stored known)), AfterMessage, ← decides_readContent_iff]
  exact and_congr_right decides_received_iff

end Message

theorem steady_disconnect {broker : Broker} {history : List ServerCall}
    {known : Nat → Option UInt8} {client : SmqttClient} :
    Steady broker history known (smqttDisconnect client) := by
  intro left right _ _
  simp only [observe, smqttDisconnect, run_bind, run_ite, run_pure]
  split <;> rfl

theorem steady_perform_iff {broker : Broker} {known : Nat → Option UInt8} {client : SmqttClient}
    (op : Operation) :
    Steady broker [] known (fun buffer => op.perform client buffer) ↔
      op.Conclusive broker client known := by
  cases op with
  | ping => exact steady_ping_iff
  | publish topic msg qos retain => exact steady_publish_iff topic msg qos retain
  | subscribe topics => exact steady_subscribe_iff topics
  | unsubscribe topics => exact steady_unsubscribe_iff topics
  | getNextMessage => exact steady_getNextMessage_iff
  | disconnect => exact iff_of_true steady_disconnect trivial

theorem agrees_behindBuffer_iff {memory other : Memory} :
    Agrees (behindBuffer memory) other ↔
      ∀ index, receiveBufferSize ≤ index → other index = memory index := by
  constructor
  · intro hagrees index hindex
    exact hagrees index (memory index) (if_neg (Nat.not_lt.mpr hindex))
  · intro hsame index byte hknown
    unfold behindBuffer at hknown
    split at hknown
    · cases hknown
    · rename_i hindex
      obtain rfl := Option.some.inj hknown
      exact hsame index (Nat.le_of_not_lt hindex)

/-- Nothing of the old buffer is seen of an operation exactly if what is stored during the call
settles all that it reads. -/
theorem fresh_iff (broker : Broker) (client : SmqttClient) (op : Operation) :
    Fresh broker client op ↔
      ∀ memory, op.Conclusive broker client (behindBuffer memory) := by
  constructor
  · intro hfresh memory
    refine (steady_perform_iff op).mp fun left right hleft hright => hfresh left right ?_
    intro index hindex
    rw [agrees_behindBuffer_iff.mp hleft index hindex, agrees_behindBuffer_iff.mp hright index hindex]
  · intro hconclusive buffer buffer' hsame
    refine (steady_perform_iff op).mpr (hconclusive buffer') buffer buffer' ?_ ?_
    · exact agrees_behindBuffer_iff.mpr hsame
    · exact agrees_behindBuffer_iff.mpr fun _ _ => rfl

/-- A client that has just connected. -/
def idleClient : SmqttClient where
  hostname := []
  clientid := []
  port := 1883
  connected := true
  publishPacketId := 0
  subscribePacketId := 1
  unsubscribePacketId := 0
  server := 0

/-- A PINGRESP in the old buffer is taken for the answer to a ping that has none. -/
theorem stale_answer_not_fresh :
    ¬ ∀ (broker : Broker) (client : SmqttClient) (op : Operation), Fresh broker client op := by
  intro hfresh
  let stale : Memory := fun index => if index = 0 then 0xd0 else 0
  have hstale (index : Nat) (hindex : receiveBufferSize ≤ index) : stale index = 0 := by
    apply if_neg
    rintro rfl
    exact absurd hindex (by decide)
  have hsame := hfresh silentBroker idleClient .ping stale (fun _ => 0) hstale
  have hstatus := congrArg Outcome.status hsame
  revert hstatus
  decide

end Smqtt
