import Smqtt.Proof.Agreement
import Smqtt.Proof.Handshake

/-!
# The handshake of a receipt

`smqtt_get_next_message` copies the message out of the buffer before it acknowledges it, and the
PUBREL goes into the same buffer. Behind the copy it is a dialogue: success is returned exactly if the
acknowledgements could be sent and the PUBREL came.
-/

namespace Smqtt

open Interaction

/-- What has to come behind a message. -/
def PublishData.releases (data : PublishData) : List Response :=
  if data.qos = QoS2 then [.pubrel data.packetId] else []

/-- The frames that acknowledge a message, given the packet behind it, if there is one. -/
def PublishData.acknowledgements (data : PublishData) (reply : Option (Option Response)) :
    List (List UInt8) :=
  if data.qos = QoS1 then [makePubackMessage data.packetId]
  else if data.qos = QoS2 then
    makePubrecMessage data.packetId ::
      if reply = some (some (.pubrel data.packetId)) then [makePubcompMessage data.packetId] else []
  else []

/-- A receipt: what is returned, and what has been called. -/
structure Receipt (client : SmqttClient) (buffer : Memory) (broker : Broker) (returned : Returned)
    (calls : List ServerCall) : Prop where
  ok_iff : returned.status = .ok ↔ SendsSucceed broker [] calls ∧ ∃ data : PublishData,
    packets broker buffer [] calls = (Response.publish data :: data.releases).map some
  frames : sentFrames calls = match packets broker buffer [] calls with
    | some (.publish data) :: rest => data.acknowledgements rest.head?
    | _ => []
  decoded : ∀ data, (packets broker buffer [] calls).head? = some (some (.publish data)) →
    ∀ frame ∈ sentFrames calls, ∀ behind : Memory, ∃ resp,
      parseBuffer (behind.write frame) frame.length = some resp ∧
        resp.packetId = some data.packetId
  message : ∀ data, (packets broker buffer [] calls).head? = some (some (.publish data)) →
    returned.message = some
      (strncpy (data.message.bytes (buffer.patch (broker [] (.receive client.server)).stored)),
        data.message.size)

section Receipt

variable {broker : Broker} {server : ServerRef} {buffer : Memory} {data : PublishData}
  {before : List ServerCall}

theorem publishId_lt_of_parse {size : Int} (hparse : parseBuffer buffer size = some (.publish data)) :
    data.packetId.toNat < 256 := by
  obtain ⟨type, totalSize, offset, -, hdata⟩ := exists_deserializeBody_of_eval hparse
  cases type with
  | publish =>
      simp only [deserializeBody, deserializePublish, Interaction.eval_bind, Interaction.eval_ite,
        eval_parseString, eval_shortFromBuffer, Interaction.eval_pure] at hdata
      split_ifs at hdata
      · obtain rfl := Response.publish.inj hdata
        exact toUInt16_lt _
      · obtain rfl := Response.publish.inj hdata
        exact Nat.two_pow_pos 8
  | _ => simp [deserializeBody, deserializeConnect] at hdata

theorem honest_receiptTurns (data : PublishData) : ∀ turn ∈ receiptTurns data, turn.Honest := by
  have hsocket : id Status.socket ≠ .ok := nofun
  rw [receiptTurns]
  split_ifs
  · simp
  · exact List.forall_mem_singleton.mpr hsocket
  · rw [List.forall_mem_append]
    exact ⟨honest_ask hsocket, List.forall_mem_singleton.mpr hsocket⟩
  · simp

theorem acknowledges_pubrel_iff (packetId : UInt16) (resp : Response) :
    resp.acknowledges .pubrel packetId = true ↔ resp = .pubrel packetId := by
  cases resp <;> simp [Response.acknowledges, Response.type, Response.packetId]

theorem expects_receiptTurns (data : PublishData) :
    List.Forall₂ (fun expected reply => ∀ resp, expected resp = true ↔ resp = reply)
      ((receiptTurns data).filterMap Turn.expects) data.releases := by
  rw [receiptTurns, PublishData.releases]
  split_ifs with hzero hone htwo
  · simp_all [QoS0, QoS2]
  · exact .nil
  · simp_all [QoS1, QoS2]
  · exact .nil
  · exact .cons (acknowledges_pubrel_iff data.packetId) .nil
  · exact .nil

/-- What is acknowledged depends on the QoS, and on what comes behind the message. -/
theorem sentFrames_receiptTurns (data : PublishData) (server : ServerRef) (buffer : Memory)
    (before : List ServerCall) :
    let calls := transcript broker server (receiptTurns data) buffer before
    sentFrames calls = data.acknowledgements (packets broker buffer before calls).head? := by
  have hpubrel (packet : Option Response) :
      packet.any (Response.acknowledges .pubrel data.packetId) ↔
        packet = some (.pubrel data.packetId) := by
    cases packet with
    | none => simp
    | some resp => simp [acknowledges_pubrel_iff]
  intro calls
  by_cases hzero : data.qos = QoS0
  · have hturns : receiptTurns data = [] := if_pos hzero
    simp [calls, hturns, transcript, sentFrames, PublishData.acknowledgements, hzero, QoS0, QoS1,
      QoS2]
  by_cases hone : data.qos = QoS1
  · have hturns : receiptTurns data = [.say (makePubackMessage data.packetId) id] := by
      rw [receiptTurns, if_neg hzero, if_pos hone]
    simp only [calls, hturns, sentFrames_transcript_say, PublishData.acknowledgements, if_pos hone]
    split_ifs <;> rfl
  by_cases htwo : data.qos = QoS2
  · have hturns : receiptTurns data = [.say (makePubrecMessage data.packetId) id,
        .hear (Response.acknowledges .pubrel data.packetId) .badMessage,
        .say (makePubcompMessage data.packetId) id] := by
      rw [receiptTurns, if_neg hzero, if_neg hone, if_pos htwo]
      rfl
    simp only [calls, hturns, sentFrames_transcript_say, sentFrames_transcript_hear,
      packets_transcript_say, PublishData.acknowledgements, if_neg hone, if_pos htwo, hpubrel]
    by_cases hsent : broker before (.send server (makePubrecMessage data.packetId)) = .ok
    · simp only [if_pos hsent, head_packets_transcript_hear, Option.some.injEq]
      split_ifs <;> simp [transcript, sentFrames]
    · simp [if_neg hsent]
  · have hturns : receiptTurns data = [] := by
      rw [receiptTurns, if_neg hzero, if_neg hone, if_neg htwo]
    simp [calls, hturns, transcript, sentFrames, PublishData.acknowledgements, hone, htwo]

/-- An id that has been read fits into one byte, and so an acknowledgement carries it. -/
theorem parse_acknowledgements {frame : List UInt8} {reply : Option (Option Response)}
    (hid : data.packetId.toNat < 256) (hmem : frame ∈ data.acknowledgements reply)
    (behind : Memory) : ∃ resp, parseBuffer (behind.write frame) frame.length = some resp ∧
      resp.packetId = some data.packetId := by
  have hread {header : Nat} (type : MessageType)
      (htype : type ∈ [MessageType.puback, .pubrec, .pubrel, .pubcomp])
      (hheader : (UInt8.ofNat header).toNat >>> 4 = type.code)
      (hframe : frame = makeIdMessage header data.packetId) :
      ∃ resp, parseBuffer (behind.write frame) frame.length = some resp ∧
        resp.packetId = some data.packetId := by
    obtain ⟨resp, hparse, hacknowledges⟩ := parse_idMessage behind htype hheader hid
    rw [hframe]
    exact ⟨resp, hparse, (of_decide_eq_true hacknowledges).2⟩
  rw [PublishData.acknowledgements] at hmem
  split_ifs at hmem
  · exact hread .puback (by simp) rfl (List.mem_singleton.mp hmem)
  · obtain hframe | hframe := List.mem_pair.mp hmem
    · exact hread .pubrec (by simp) rfl hframe
    · exact hread .pubcomp (by simp) rfl hframe
  · exact hread .pubrec (by simp) rfl (List.mem_singleton.mp hmem)
  · exact absurd hmem List.not_mem_nil

/-- The first receive decides. -/
theorem run_getNextMessage {client : SmqttClient}
    (hsize : 0 ≤ (broker before (.receive client.server)).size) :
    (smqttGetNextMessage client buffer).run (respond broker) before
      = match broker.packet before client.server buffer with
        | none => (finish client .badMessage
            (buffer.patch (broker before (.receive client.server)).stored),
            before ++ [.receive client.server])
        | some (.publish data) => (receiveMessage client
            (buffer.patch (broker before (.receive client.server)).stored) data).run
            (respond broker) (before ++ [.receive client.server])
        | some _ => (finish client .unexpected
            (buffer.patch (broker before (.receive client.server)).stored),
            before ++ [.receive client.server]) := by
  rw [smqttGetNextMessage, serverReceive, run_bind, run_ask, respond, Broker.packet]
  dsimp only
  rw [if_neg (not_lt.mpr hsize)]
  cases parseBuffer (buffer.patch (broker before (.receive client.server)).stored)
    (broker before (.receive client.server)).size with
  | none => rfl
  | some resp => cases resp <;> rfl

end Receipt

/-- A packet that is no PUBLISH, or none at all. -/
theorem receipt_of_not_publish {client : SmqttClient} {buffer : Memory} {broker : Broker}
    {status : Status} (hstatus : status ≠ .ok)
    (hpacket : ∀ data, broker.packet [] client.server buffer ≠ some (.publish data))
    (buffer' : Memory) :
    Receipt client buffer broker (finish client status buffer') [.receive client.server] := by
  have hpackets : packets broker buffer [] [.receive client.server]
      = [broker.packet [] client.server buffer] := rfl
  have hfirst (data : PublishData) :
      (packets broker buffer [] [.receive client.server]).head? ≠ some (some (.publish data)) :=
    fun heq => hpacket data (Option.some.inj heq)
  refine ⟨?_, ?_, fun data heq => absurd heq (hfirst data), fun data heq => absurd heq (hfirst data)⟩
  · refine iff_of_false hstatus ?_
    rintro ⟨-, data, hdata⟩
    exact hfirst data (congrArg List.head? hdata)
  · rw [hpackets]
    split
    · next data _ heq => exact absurd (List.cons.inj heq).1 (hpacket data)
    · rfl

/-- A message: behind it stands the dialogue of its acknowledgements. -/
theorem receipt_of_publish {client : SmqttClient} {buffer : Memory} {broker : Broker}
    {data : PublishData} (hpacket : broker.packet [] client.server buffer = some (.publish data)) :
    let received := buffer.patch (broker [] (.receive client.server)).stored
    let out := (receiveMessage client received data).run (respond broker) [.receive client.server]
    Receipt client buffer broker out.1 out.2 := by
  intro received out
  obtain ⟨status, buffer', hrun, hok⟩ := @run_converse broker client.server
    (finishMessage client received data) (receiptTurns data) (honest_receiptTurns data) received
    [.receive client.server]
  generalize hcalls : transcript broker client.server (receiptTurns data) received
    [.receive client.server] = calls at hrun hok
  have hout : out = (finishMessage client received data status buffer',
      .receive client.server :: calls) := by
    rw [← List.singleton_append, ← hrun, ← receiveMessage_eq_converse]
  have hpackets : packets broker buffer [] (.receive client.server :: calls)
      = some (.publish data) :: packets broker received [.receive client.server] calls := by
    rw [packets, hpacket]
    rfl
  have hframes : sentFrames calls
      = data.acknowledgements (packets broker received [.receive client.server] calls).head? := by
    rw [← hcalls]
    exact sentFrames_receiptTurns data client.server received [.receive client.server]
  have hfirst {data' : PublishData}
      (heq : (packets broker buffer [] (.receive client.server :: calls)).head?
        = some (some (.publish data'))) : data' = data := by
    rw [hpackets, List.head?_cons] at heq
    exact (Response.publish.inj (Option.some.inj (Option.some.inj heq))).symm
  rw [forall₂_any_iff (expects_receiptTurns data)] at hok
  rw [hout]
  refine ⟨?_, ?_, ?_, ?_⟩
  · change status = .ok ↔ _
    rw [hok, hpackets, SendsSucceed]
    · refine and_congr_right fun _ => ⟨fun hreleases => ⟨data, ?_⟩, fun hhand => ?_⟩
      · rw [hreleases, List.map_cons]
      · obtain ⟨data', hhand⟩ := hhand
        obtain ⟨hsame, hreleases⟩ := List.cons.inj hhand
        obtain rfl := Response.publish.inj (Option.some.inj hsame)
        exact hreleases
    · rintro _ _ ⟨⟩
  · rw [hpackets]
    exact hframes
  · intro data' heq frame hmem
    obtain rfl := hfirst heq
    exact parse_acknowledgements (publishId_lt_of_parse hpacket) (hframes ▸ hmem)
  · intro data' heq
    obtain rfl := hfirst heq
    rfl

/-- **The handshake of a receipt.** Whatever the sends come to and whatever is received, success is
returned exactly if a message came, the acknowledgements could be sent and the PUBREL came. -/
theorem receipt_handshake (client : SmqttClient) (buffer : Memory) (broker : Broker)
    (hsize : 0 ≤ (broker [] (.receive client.server)).size) :
    let out := (smqttGetNextMessage client buffer).run (respond broker) []
    Receipt client buffer broker out.1 out.2 := by
  intro out
  have hrun : out = _ := @run_getNextMessage broker buffer [] client hsize
  cases hpacket : broker.packet [] client.server buffer with
  | none =>
      rw [hrun, hpacket]
      refine receipt_of_not_publish ?_ (by simp [hpacket]) _
      nofun
  | some resp =>
      rw [hrun, hpacket]
      cases resp with
      | publish data => exact receipt_of_publish hpacket
      | _ =>
          refine receipt_of_not_publish ?_ (by simp [hpacket]) _
          nofun

/-- A broker that delivers a message at QoS 2, with the topic `t` and the payload `hi`, and then its
PUBREL. -/
def deliveringBroker : Broker
  | _, .createNetworkServer => (0 : Nat)
  | _, .connect _ _ _ _ => .ok
  | _, .send _ _ => .ok
  | history, .receive _ => ⟨9, fun index =>
      (if history = [] then [0x34, 7, 0, 1, 116, 0, 5, 104, 105] else [0x62, 2, 0, 5])[index]?⟩
  | _, .disconnect _ => .ok

theorem exactly_once_receipt :
    let client : SmqttClient := ⟨[], [], 1883, true, 0, 1, 0, 0⟩
    let out := (smqttGetNextMessage client fun _ => 0).run (respond deliveringBroker) []
    out.1.status = .ok ∧ out.1.message = some ([104, 105], 2) ∧
      sentFrames out.2 = [makePubrecMessage 5, makePubcompMessage 5] ∧
      Receipt client (fun _ => 0) deliveringBroker out.1 out.2 :=
  ⟨by decide, by decide, by decide, receipt_handshake _ _ deliveringBroker (by decide)⟩

end Smqtt
