import Smqtt.Dialogue
import Smqtt.Proof.Encoders

/-!
# The handshake of a publish

A dialogue leaves a transcript of the calls that were made, and it ends well exactly if every frame
could be sent and every packet came. A QoS is a dialogue of one turn, of two, or of four;
`smqtt_publish` reports success exactly if it is held to its end.
-/

namespace Smqtt

open Interaction

/-! ### Transcripts -/

/-- The calls of a dialogue, behind those that were made before it. -/
def transcript (broker : Broker) (server : ServerRef) :
    List Turn → Memory → List ServerCall → List ServerCall
  | [], _, _ => []
  | .say frame _ :: turns, buffer, before =>
      .send server frame ::
        if broker before (.send server frame) = .ok then
          transcript broker server turns buffer (before ++ [.send server frame])
        else []
  | .hear expected _ :: turns, buffer, before =>
      .receive server ::
        if (broker.packet before server buffer).any expected then
          transcript broker server turns (buffer.patch (broker before (.receive server)).stored)
            (before ++ [.receive server])
        else []

/-- Every frame could be sent. -/
def SendsSucceed (broker : Broker) : List ServerCall → List ServerCall → Prop
  | _, [] => True
  | before, .send server frame :: calls =>
      broker before (.send server frame) = .ok ∧
        SendsSucceed broker (before ++ [.send server frame]) calls
  | before, other :: calls => SendsSucceed broker (before ++ [other]) calls

/-- What has been made of the buffer, each time that something was received. -/
def packets (broker : Broker) : Memory → List ServerCall → List ServerCall → List (Option Response)
  | _, _, [] => []
  | buffer, before, .receive server :: calls =>
      broker.packet before server buffer ::
        packets broker (buffer.patch (broker before (.receive server)).stored)
          (before ++ [.receive server]) calls
  | buffer, before, other :: calls => packets broker buffer (before ++ [other]) calls

section Transcript

variable (broker : Broker) (server : ServerRef) (turns : List Turn) (buffer : Memory)
  (before : List ServerCall)

theorem sentFrames_transcript_say (frame : List UInt8) (failed : Status → Status) :
    sentFrames (transcript broker server (.say frame failed :: turns) buffer before)
      = frame :: if broker before (.send server frame) = .ok then
          sentFrames (transcript broker server turns buffer (before ++ [.send server frame]))
        else [] := by
  rw [transcript]
  by_cases hsent : broker before (.send server frame) = .ok
  · rw [if_pos hsent, if_pos hsent]
    rfl
  · rw [if_neg hsent, if_neg hsent]
    rfl

theorem sentFrames_transcript_hear (expected : Response → Bool) (null : Status) :
    sentFrames (transcript broker server (.hear expected null :: turns) buffer before)
      = if (broker.packet before server buffer).any expected then
          sentFrames (transcript broker server turns
            (buffer.patch (broker before (.receive server)).stored) (before ++ [.receive server]))
        else [] := by
  rw [transcript]
  by_cases hheard : (broker.packet before server buffer).any expected
  · rw [if_pos hheard, if_pos hheard]
    rfl
  · rw [if_neg hheard, if_neg hheard]
    rfl

theorem packets_transcript_say (frame : List UInt8) (failed : Status → Status) :
    packets broker buffer before
        (transcript broker server (.say frame failed :: turns) buffer before)
      = if broker before (.send server frame) = .ok then
          packets broker buffer (before ++ [.send server frame])
            (transcript broker server turns buffer (before ++ [.send server frame]))
        else [] := by
  by_cases hsent : broker before (.send server frame) = .ok <;>
    simp [transcript, packets, hsent]

/-- The first packet is what the rest depends on. -/
theorem head_packets_transcript_hear (expected : Response → Bool) (null : Status) :
    (packets broker buffer before
        (transcript broker server (.hear expected null :: turns) buffer before)).head?
      = some (broker.packet before server buffer) := by
  simp [transcript, packets]

end Transcript

/-- A dialogue ends well exactly if every frame could be sent and all packets that are due came. -/
theorem run_converse {broker : Broker} {server : ServerRef} {finish : Status → Memory → Returned}
    {turns : List Turn} (hhonest : ∀ turn ∈ turns, turn.Honest)
    (buffer : Memory) (before : List ServerCall) : ∃ status buffer',
    (converse server finish turns buffer).run (respond broker) before
        = (finish status buffer', before ++ transcript broker server turns buffer before) ∧
      (status = .ok ↔
        SendsSucceed broker before (transcript broker server turns buffer before) ∧
        List.Forall₂ (fun packet expected => packet.any expected = true)
          (packets broker buffer before (transcript broker server turns buffer before))
          (turns.filterMap Turn.expects)) := by
  induction turns generalizing buffer before with
  | nil =>
      refine ⟨.ok, buffer, ?_, ?_⟩
      · simp [converse, transcript]
      · simp [transcript, SendsSucceed, packets]
  | cons turn turns ih =>
      obtain ⟨hturn, hturns⟩ := List.forall_mem_cons.mp hhonest
      replace ih := ih hturns
      cases turn with
      | say frame failed =>
          rw [converse, run_sendThen, transcript]
          by_cases hsent : broker before (.send server frame) = .ok
          · obtain ⟨status, buffer', hrun, hok⟩ := ih buffer (before ++ [.send server frame])
            refine ⟨status, buffer', ?_, ?_⟩
            · rw [if_pos hsent, if_pos hsent, hrun, List.append_assoc, List.singleton_append]
            · have hexpects : (Turn.say frame failed :: turns).filterMap Turn.expects
                  = turns.filterMap Turn.expects := rfl
              simp only [hok, SendsSucceed, packets, hsent, hexpects, if_true, true_and]
          · refine ⟨failed .socket, buffer, by rw [if_neg hsent, if_neg hsent], ?_⟩
            have hfails : failed .socket ≠ .ok := hturn
            simp [SendsSucceed, hsent, hfails]
      | hear expected null =>
          rw [converse, run_awaitThen, transcript]
          cases hpacket : broker.packet before server buffer with
          | none =>
              refine ⟨null, _, rfl, ?_⟩
              have hfails : null ≠ .ok := hturn
              simp [SendsSucceed, packets, hpacket, Turn.expects, hfails]
          | some resp =>
              cases hexpected : expected resp with
              | false =>
                  refine ⟨.unexpected, buffer.patch (broker before (.receive server)).stored, ?_, ?_⟩
                  · simp [hexpected]
                  · simp [SendsSucceed, packets, hpacket, Turn.expects, hexpected]
              | true =>
                  obtain ⟨status, buffer', hrun, hok⟩ := ih
                    (buffer.patch (broker before (.receive server)).stored)
                    (before ++ [.receive server])
                  refine ⟨status, buffer', ?_, ?_⟩
                  · simp [hexpected, hrun]
                  · rw [hok]
                    simp [SendsSucceed, packets, hpacket, Turn.expects, hexpected]

/-- Where each turn waits for one packet, those are the packets that have to come. -/
theorem forall₂_any_iff {expected : List (Response → Bool)} {replies : List Response}
    (hreplies : List.Forall₂ (fun expected reply => ∀ resp, expected resp = true ↔ resp = reply)
      expected replies) (received : List (Option Response)) :
    List.Forall₂ (fun packet expected => packet.any expected = true) received expected ↔
      received = replies.map some := by
  induction hreplies generalizing received with
  | nil => simp
  | cons hreply _ ih =>
      cases received with
      | nil => simp
      | cons packet received =>
          rw [List.forall₂_cons, ih, List.map_cons, List.cons.injEq]
          refine and_congr_left fun _ => ?_
          cases packet with
          | none => simp
          | some resp => simp [hreply]

/-! ### The dialogues of a publish -/

/-- The packets that complete a publish. -/
def Wire.Qos.replies (packetId : UInt16) : Wire.Qos → List Response
  | .atMostOnce => []
  | .atLeastOnce => [.puback packetId]
  | .exactlyOnce => [.pubrec packetId, .pubcomp packetId]

/-- A PUBLISH that is acknowledged takes a new id. -/
def SmqttClient.advance (client : SmqttClient) (qos : Wire.Qos) : SmqttClient :=
  { client with publishPacketId := client.publishPacketId + if qos = .atMostOnce then 0 else 1 }

section Turns

variable (topic : CString) (packetId : UInt16) (retain : Bool) (msg : Option CString)

theorem publishTurns_atMostOnce :
    publishTurns topic packetId (UInt32.ofNat Wire.Qos.atMostOnce.code) retain msg
      = [.say (makePublishMessage topic packetId (UInt32.ofNat Wire.Qos.atMostOnce.code) retain msg) id] := rfl

theorem publishTurns_atLeastOnce :
    publishTurns topic packetId (UInt32.ofNat Wire.Qos.atLeastOnce.code) retain msg
      = [.say (makePublishMessage topic packetId (UInt32.ofNat Wire.Qos.atLeastOnce.code) retain msg) id,
        .hear (Response.acknowledges .puback packetId) .badMessage] := rfl

theorem publishTurns_exactlyOnce :
    publishTurns topic packetId (UInt32.ofNat Wire.Qos.exactlyOnce.code) retain msg
      = [.say (makePublishMessage topic packetId (UInt32.ofNat Wire.Qos.exactlyOnce.code) retain msg) id,
        .hear (Response.acknowledges .pubrec packetId) (.number (-1)),
        .say (makePubrelMessage packetId) id,
        .hear (Response.acknowledges .pubcomp packetId) .badMessage] := rfl

end Turns

theorem dialogue_publish {client : SmqttClient} (hconnected : client.connected = true)
    (topic : CString) (msg : Option CString) (qos : Wire.Qos) (retain : Bool) :
    (Operation.publish topic msg (UInt32.ofNat qos.code) retain).dialogue client
      = some (client.advance qos, publishTurns topic (client.advance qos).publishPacketId
          (UInt32.ofNat qos.code) retain msg) := by
  cases qos with
  | atMostOnce =>
      have hsame : client.advance .atMostOnce = client := by
        simp [SmqttClient.advance]
      rw [hsame, Operation.dialogue, if_pos ⟨hconnected, by decide⟩]
      rfl
  | atLeastOnce =>
      rw [Operation.dialogue, if_pos ⟨hconnected, by decide⟩]
      rfl
  | exactlyOnce =>
      rw [Operation.dialogue, if_pos ⟨hconnected, by decide⟩]
      rfl

theorem acknowledges_iff {type : MessageType} {packetId : UInt16} {reply : Response}
    (hreply : (type, reply) ∈ [(MessageType.puback, Response.puback packetId),
      (.pubrec, .pubrec packetId), (.pubcomp, .pubcomp packetId)]) (resp : Response) :
    resp.acknowledges type packetId = true ↔ resp = reply := by
  simp only [List.mem_cons, Prod.mk.injEq, List.not_mem_nil, or_false] at hreply
  obtain ⟨rfl, rfl⟩ | ⟨rfl, rfl⟩ | ⟨rfl, rfl⟩ := hreply <;>
    cases resp <;> simp [Response.acknowledges, Response.type, Response.packetId]

theorem publishTurns_replies (topic : CString) (packetId : UInt16) (retain : Bool)
    (msg : Option CString) (qos : Wire.Qos) :
    List.Forall₂ (fun expected reply => ∀ resp, expected resp = true ↔ resp = reply)
      ((publishTurns topic packetId (UInt32.ofNat qos.code) retain msg).filterMap Turn.expects)
      (qos.replies packetId) := by
  cases qos with
  | atMostOnce => exact .nil
  | atLeastOnce => exact .cons (acknowledges_iff (by simp)) .nil
  | exactlyOnce =>
      exact .cons (acknowledges_iff (by simp)) (.cons (acknowledges_iff (by simp)) .nil)

/-! ### The handshake -/

def isPubrel (frame : List UInt8) : Bool :=
  frame.head?.any fun first => first.toNat >>> 4 = MessageType.pubrel.code

theorem isPubrel_publish (topic : CString) (packetId : UInt16) (qos : Wire.Qos) (retain : Bool)
    (msg : Option CString) :
    isPubrel (makePublishMessage topic packetId (UInt32.ofNat qos.code) retain msg) = false := by
  rw [makePublishMessage_eq]
  cases qos <;> cases retain <;> rfl

theorem makePubrelMessage_eq (packetId : UInt16) :
    makePubrelMessage packetId = [0x62, 2, 0, UInt8.ofNat (packetId.toNat % 256)] := by
  have hlow : UInt8.ofNat (packetId.toNat % 256) = UInt8.ofNat packetId.toNat := by
    apply UInt8.toNat_inj.mp
    simp
  rw [makePubrelMessage, makeIdMessage_eq, hlow]
  rfl

/-- A publish at a QoS: what it returns, and what it has called. -/
structure Handshake (client : SmqttClient) (buffer : Memory) (broker : Broker) (topic : CString)
    (msg : Option CString) (qos : Wire.Qos) (retain : Bool) (returned : Returned)
    (calls : List ServerCall) : Prop where
  publish : (sentFrames calls).head? = some (makePublishMessage topic
    returned.client.publishPacketId (UInt32.ofNat qos.code) retain msg)
  ok_iff : returned.status = .ok ↔ SendsSucceed broker [] calls ∧
    packets broker buffer [] calls = (qos.replies returned.client.publishPacketId).map some
  pubrel : (sentFrames calls).filter isPubrel
    = if qos = .exactlyOnce ∧ (packets broker buffer [] calls).head?
          = some (some (.pubrec returned.client.publishPacketId)) then
        [[0x62, 2, 0, UInt8.ofNat (returned.client.publishPacketId.toNat % 256)]]
      else []
  silent : qos = .atMostOnce → ∀ server, .receive server ∉ calls
  client : returned.client = client.advance qos

theorem head_publishTurns (broker : Broker) (server : ServerRef) (topic : CString)
    (packetId : UInt16) (retain : Bool) (msg : Option CString) (qos : Wire.Qos) (buffer : Memory) :
    (sentFrames (transcript broker server
        (publishTurns topic packetId (UInt32.ofNat qos.code) retain msg) buffer [])).head?
      = some (makePublishMessage topic packetId (UInt32.ofNat qos.code) retain msg) := by
  cases qos with
  | atMostOnce =>
      rw [publishTurns_atMostOnce, sentFrames_transcript_say]
      rfl
  | atLeastOnce =>
      rw [publishTurns_atLeastOnce, sentFrames_transcript_say]
      rfl
  | exactlyOnce =>
      rw [publishTurns_exactlyOnce, sentFrames_transcript_say]
      rfl

/-- The PUBREL waits for the PUBREC, and for nothing else. -/
theorem pubrel_transcript (broker : Broker) (server : ServerRef) (topic : CString)
    (packetId : UInt16) (retain : Bool) (msg : Option CString) (qos : Wire.Qos) (buffer : Memory) :
    let calls := transcript broker server
      (publishTurns topic packetId (UInt32.ofNat qos.code) retain msg) buffer []
    (sentFrames calls).filter isPubrel
      = if qos = .exactlyOnce ∧ (packets broker buffer [] calls).head?
            = some (some (.pubrec packetId)) then
          [[0x62, 2, 0, UInt8.ofNat (packetId.toNat % 256)]]
        else [] := by
  have hpublish (packetId : UInt16) := isPubrel_publish topic packetId qos retain msg
  cases qos with
  | atMostOnce =>
      simp only [publishTurns_atMostOnce, sentFrames_transcript_say]
      split_ifs <;> simp_all [transcript, sentFrames]
  | atLeastOnce =>
      simp only [publishTurns_atLeastOnce, sentFrames_transcript_say, sentFrames_transcript_hear]
      split_ifs <;> simp_all [transcript, sentFrames]
  | exactlyOnce =>
      have hmatches (packet : Option Response) :
          packet.any (Response.acknowledges .pubrec packetId) ↔ packet = some (.pubrec packetId) := by
        cases packet with
        | none => simp
        | some resp => simp [@acknowledges_iff .pubrec packetId (.pubrec packetId) (by simp)]
      have hpubrel : isPubrel (makePubrelMessage packetId) = true := by
        rw [makePubrelMessage_eq]
        rfl
      simp only [publishTurns_exactlyOnce, sentFrames_transcript_say, sentFrames_transcript_hear,
        packets_transcript_say, hmatches, true_and]
      by_cases hsent : broker [] (.send server (makePublishMessage topic packetId
          (UInt32.ofNat Wire.Qos.exactlyOnce.code) retain msg)) = .ok
      · simp only [hsent, if_true, head_packets_transcript_hear, Option.some.injEq]
        split
        · rw [List.filter_cons_of_neg (by simp [hpublish]), List.filter_cons_of_pos hpubrel,
            makePubrelMessage_eq]
          split <;> simp [transcript, sentFrames]
        · simp [hpublish]
      · simp [hsent, hpublish]

/-- **The handshake of a publish.** Whatever the sends come to and whatever is received, success is
returned exactly if every frame could be sent and the packets that are due came. -/
theorem publish_handshake (client : SmqttClient) (hconnected : client.connected = true)
    (buffer : Memory) (topic : CString) (msg : Option CString) (qos : Wire.Qos) (retain : Bool)
    (broker : Broker) :
    let out := (smqttPublish client buffer topic msg (UInt32.ofNat qos.code) retain).run
      (respond broker) []
    Handshake client buffer broker topic msg qos retain out.1 out.2 := by
  intro out
  let turns := publishTurns topic (client.advance qos).publishPacketId (UInt32.ofNat qos.code)
    retain msg
  obtain ⟨status, buffer', htree, hok⟩ := @run_converse broker client.server
    (finish (client.advance qos)) turns (honest_publishTurns _ _ _ _ _) buffer []
  have hout : out = (finish (client.advance qos) status buffer',
      transcript broker client.server turns buffer []) := by
    rw [← List.nil_append (transcript _ _ _ _ _), ← htree,
      ← perform_eq_converse (dialogue_publish hconnected topic msg qos retain)]
    rfl
  rw [hout]
  refine ⟨head_publishTurns _ _ _ _ _ _ _ _, ?_, pubrel_transcript _ _ _ _ _ _ _ _, ?_, rfl⟩
  · rw [forall₂_any_iff (publishTurns_replies _ _ _ _ _)] at hok
    exact hok
  · rintro rfl server hmem
    simp only [turns, publishTurns_atMostOnce, transcript] at hmem
    split at hmem <;> simp at hmem

/-- A broker that goes along with the first publish at QoS 2. -/
def agreeableBroker : Broker
  | _, .createNetworkServer => (0 : Nat)
  | _, .connect _ _ _ _ => .ok
  | _, .send _ _ => .ok
  | history, .receive _ =>
      ⟨4, fun index => (if history.length = 1 then [0x50, 2, 0, 1] else [0x70, 2, 0, 1])[index]?⟩
  | _, .disconnect _ => .ok

theorem exactly_once_handshake :
    let client : SmqttClient := ⟨[], [], 1883, true, 0, 1, 0, 0⟩
    let out := (smqttPublish client (fun _ => 0) ⟨[116], by decide⟩ none QoS2 false).run
      (respond agreeableBroker) []
    out.1.status = .ok ∧ sentFrames out.2 = [[0x34, 5, 0, 1, 116, 0, 1], [0x62, 2, 0, 1]] ∧
      Handshake client (fun _ => 0) agreeableBroker ⟨[116], by decide⟩ none .exactlyOnce false out.1
        out.2 :=
  ⟨by decide, by decide, publish_handshake _ rfl _ _ none .exactlyOnce false agreeableBroker⟩

end Smqtt
