import Smqtt.Program

/-!
# Operations as dialogues

An operation says frames and waits for packets, and it goes on as long as every frame can be sent and
every packet is the one that is due. What holds of each send and each wait holds of every operation.
-/

namespace Smqtt

open Interaction

/-- One turn: a frame to be sent, with what becomes of the status if that fails; or a packet to wait
for, and the status if there is none. -/
inductive Turn where
  | say (frame : List UInt8) (failed : Status → Status)
  | hear (expected : Response → Bool) (null : Status)

def Turn.expects : Turn → Option (Response → Bool)
  | say _ _ => none
  | hear expected _ => some expected

/-- The turn does not pass a failure off as a success. -/
def Turn.Honest : Turn → Prop
  | say _ failed => failed .socket ≠ .ok
  | hear _ null => null ≠ .ok

/-- Turn after turn, to the first that fails. -/
def converse (server : ServerRef) (finish : Status → Memory → Returned) :
    List Turn → Memory → Serve Returned
  | [], buffer => pure (finish .ok buffer)
  | .say frame failed :: turns, buffer =>
      sendThen server frame (fun stat => finish (failed stat) buffer)
        (converse server finish turns buffer)
  | .hear expected null :: turns, buffer =>
      awaitThen server buffer expected null finish (converse server finish turns)

/-- What holds of an operation that is at its end, and of one that has still to send or to wait if it
holds of what comes next, holds of a dialogue. -/
theorem converse_rule {P : Serve Returned → Prop} {server : ServerRef}
    {finish : Status → Memory → Returned} {turns : List Turn}
    (hpure : ∀ status buffer, P (pure (finish status buffer)))
    (hsay : ∀ frame failed, .say frame failed ∈ turns → ∀ buffer next, P next →
      P (sendThen server frame (fun stat => finish (failed stat) buffer) next))
    (hhear : ∀ expected null, .hear expected null ∈ turns → ∀ buffer next,
      (∀ buffer, P (next buffer)) → P (awaitThen server buffer expected null finish next))
    (buffer : Memory) : P (converse server finish turns buffer) := by
  induction turns generalizing buffer with
  | nil => exact hpure .ok buffer
  | cons turn turns ih =>
      have hrest := ih
        (fun frame failed hmem => hsay frame failed (List.mem_cons_of_mem _ hmem))
        (fun expected null hmem => hhear expected null (List.mem_cons_of_mem _ hmem))
      cases turn with
      | say frame failed => exact hsay frame failed List.mem_cons_self buffer _ (hrest buffer)
      | hear expected null => exact hhear expected null List.mem_cons_self buffer _ hrest

/-! ### The dialogues of the client -/

/-- A request and its answer. -/
def ask (frame : List UInt8) (failed : Status → Status) (expected : Response → Bool) : List Turn :=
  [.say frame failed, .hear expected .badMessage]

def publishTurns (topic : CString) (packetId : UInt16) (qos : QoS) (retain : Bool)
    (msg : Option CString) : List Turn :=
  let publish := makePublishMessage topic packetId qos retain msg
  if qos = QoS0 then [.say publish id]
  else if qos = QoS1 then ask publish id (Response.acknowledges .puback packetId)
  else
    [.say publish id, .hear (Response.acknowledges .pubrec packetId) (.number (-1))]
      ++ ask (makePubrelMessage packetId) id (Response.acknowledges .pubcomp packetId)

/-- The acknowledgements of a message that has been received. -/
def receiptTurns (data : PublishData) : List Turn :=
  if data.qos = QoS0 then []
  else if data.qos = QoS1 then [.say (makePubackMessage data.packetId) id]
  else if data.qos = QoS2 then
    ask (makePubrecMessage data.packetId) id (Response.acknowledges .pubrel data.packetId)
      ++ [.say (makePubcompMessage data.packetId) id]
  else []

theorem honest_ask {frame : List UInt8} {failed : Status → Status} {expected : Response → Bool}
    (hfailed : failed .socket ≠ .ok) : ∀ turn ∈ ask frame failed expected, turn.Honest := by
  have hnull : Status.badMessage ≠ .ok := nofun
  exact List.forall_mem_cons.mpr ⟨hfailed, List.forall_mem_singleton.mpr hnull⟩

theorem honest_publishTurns (topic : CString) (packetId : UInt16) (qos : QoS) (retain : Bool)
    (msg : Option CString) : ∀ turn ∈ publishTurns topic packetId qos retain msg, turn.Honest := by
  have hsocket : id Status.socket ≠ .ok := nofun
  have hnull : Status.number (-1) ≠ .ok := nofun
  rw [publishTurns]
  split
  · exact List.forall_mem_singleton.mpr hsocket
  · split
    · exact honest_ask hsocket
    · rw [List.forall_mem_append]
      exact ⟨List.forall_mem_cons.mpr ⟨hsocket, List.forall_mem_singleton.mpr hnull⟩,
        honest_ask hsocket⟩

/-- A publish opens with its PUBLISH, and nothing but a PUBREL may follow. -/
theorem publishTurns_eq (topic : CString) (packetId : UInt16) (qos : QoS) (retain : Bool)
    (msg : Option CString) : ∃ rest,
    publishTurns topic packetId qos retain msg
      = .say (makePublishMessage topic packetId qos retain msg) id :: rest ∧
      ∀ frame failed, .say frame failed ∈ rest → frame = makePubrelMessage packetId := by
  rw [publishTurns]
  split
  · exact ⟨[], rfl, by simp⟩
  · split
    · exact ⟨[.hear _ _], rfl, by simp⟩
    · exact ⟨_, rfl, by simp [ask]⟩

/-- The turns of an operation that is not refused, and the client that it leaves. What follows a
receive depends on what is received. -/
def Operation.dialogue (client : SmqttClient) : Operation → Option (SmqttClient × List Turn)
  | ping =>
      if client.connected then
        some (client, ask makePingreqMessage id fun resp => resp.type = .pingresp)
      else none
  | publish topic msg qos retain =>
      if client.connected ∧ ¬ QoS2 < qos then
        let client := if qos = QoS0 then client
          else { client with publishPacketId := client.publishPacketId + 1 }
        some (client, publishTurns topic client.publishPacketId qos retain msg)
      else none
  | subscribe topics =>
      if client.connected then
        let packetId := client.subscribePacketId + 1
        some ({ client with subscribePacketId := packetId },
          ask (makeSubscribeMessage packetId topics) (fun _ => .number (-1))
            (Response.acknowledges .suback packetId))
      else none
  | unsubscribe topics =>
      if client.connected then
        let packetId := client.unsubscribePacketId + 1
        some ({ client with unsubscribePacketId := packetId },
          ask (makeUnsubscribeMessage packetId topics) id
            (Response.acknowledges .unsuback packetId))
      else none
  | getNextMessage => none
  | disconnect => none

section Dialogue

variable {client after : SmqttClient} {op : Operation} {turns : List Turn}

theorem perform_eq_converse (hdialogue : op.dialogue client = some (after, turns))
    (buffer : Memory) :
    op.perform client buffer = converse client.server (finish after) turns buffer := by
  cases op with
  | ping =>
      obtain ⟨hconnected, hsome⟩ := Option.ite_none_right_eq_some.mp hdialogue
      obtain ⟨rfl, rfl⟩ := Prod.mk.inj (Option.some.inj hsome)
      rw [Operation.perform, smqttPing, if_pos hconnected]
      rfl
  | publish topic msg qos retain =>
      obtain ⟨⟨hconnected, hqos⟩, hsome⟩ := Option.ite_none_right_eq_some.mp hdialogue
      obtain ⟨rfl, rfl⟩ := Prod.mk.inj (Option.some.inj hsome)
      rw [Operation.perform, smqttPublish, if_pos hconnected, if_neg hqos, publishTurns]
      by_cases hzero : qos = QoS0
      · simp only [if_pos hzero]
        rfl
      · by_cases hone : qos = QoS1
        · simp only [if_neg hzero, if_pos hone]
          rfl
        · simp only [if_neg hzero, if_neg hone]
          rfl
  | subscribe topics =>
      obtain ⟨hconnected, hsome⟩ := Option.ite_none_right_eq_some.mp hdialogue
      obtain ⟨rfl, rfl⟩ := Prod.mk.inj (Option.some.inj hsome)
      rw [Operation.perform, smqttSubscribe, if_pos hconnected]
      rfl
  | unsubscribe topics =>
      obtain ⟨hconnected, hsome⟩ := Option.ite_none_right_eq_some.mp hdialogue
      obtain ⟨rfl, rfl⟩ := Prod.mk.inj (Option.some.inj hsome)
      rw [Operation.perform, smqttUnsubscribe, if_pos hconnected]
      rfl
  | getNextMessage => cases hdialogue
  | disconnect => cases hdialogue

theorem honest_of_dialogue (hdialogue : op.dialogue client = some (after, turns)) :
    ∀ turn ∈ turns, turn.Honest := by
  cases op with
  | publish topic msg qos retain =>
      obtain ⟨-, hsome⟩ := Option.ite_none_right_eq_some.mp hdialogue
      obtain ⟨rfl, rfl⟩ := Prod.mk.inj (Option.some.inj hsome)
      exact honest_publishTurns topic _ qos retain msg
  | getNextMessage => cases hdialogue
  | disconnect => cases hdialogue
  | _ =>
      obtain ⟨-, hsome⟩ := Option.ite_none_right_eq_some.mp hdialogue
      obtain ⟨rfl, rfl⟩ := Prod.mk.inj (Option.some.inj hsome)
      exact honest_ask nofun

theorem connected_of_dialogue (hdialogue : op.dialogue client = some (after, turns)) :
    after.connected = client.connected := by
  cases op with
  | publish topic msg qos retain =>
      obtain ⟨-, hsome⟩ := Option.ite_none_right_eq_some.mp hdialogue
      obtain ⟨rfl, -⟩ := Prod.mk.inj (Option.some.inj hsome)
      by_cases hzero : qos = QoS0
      · rw [if_pos hzero]
      · rw [if_neg hzero]
  | getNextMessage => cases hdialogue
  | disconnect => cases hdialogue
  | _ =>
      obtain ⟨-, hsome⟩ := Option.ite_none_right_eq_some.mp hdialogue
      obtain ⟨rfl, -⟩ := Prod.mk.inj (Option.some.inj hsome)
      rfl

/-- An operation that is refused fails, and sends nothing. -/
theorem perform_of_refused (hnext : op ≠ .getNextMessage) (hdisconnect : op ≠ .disconnect)
    (hdialogue : op.dialogue client = none) (buffer : Memory) :
    ∃ status, status ≠ .ok ∧ op.perform client buffer = pure (finish client status buffer) := by
  cases op with
  | publish topic msg qos retain =>
      have hrefused : ¬ (client.connected ∧ ¬ QoS2 < qos) := by
        simpa [Operation.dialogue] using hdialogue
      by_cases hconnected : client.connected
      · have hqos : QoS2 < qos := by
          by_contra hle
          exact hrefused ⟨hconnected, hle⟩
        exact ⟨.invalid, by simp, (if_pos hconnected).trans (if_pos hqos)⟩
      · exact ⟨.notConnected, by simp, if_neg hconnected⟩
  | getNextMessage => exact absurd rfl hnext
  | disconnect => exact absurd rfl hdisconnect
  | _ =>
      have hconnected : ¬ client.connected := by simpa [Operation.dialogue] using hdialogue
      exact ⟨.notConnected, by simp, if_neg hconnected⟩

end Dialogue

theorem receiveMessage_eq_converse (client : SmqttClient) (buffer : Memory) (data : PublishData) :
    receiveMessage client buffer data
      = converse client.server (finishMessage client buffer data) (receiptTurns data) buffer := by
  rw [receiveMessage, receiptTurns]
  split
  · rfl
  · split
    · rfl
    · split
      · rfl
      · rfl

end Smqtt
