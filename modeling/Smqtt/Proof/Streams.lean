import Smqtt.Lib.Conduit
import Smqtt.Proof.Capacity
import Smqtt.Proof.Exchange
import Smqtt.Proof.Framing

/-!
# Clients on byte streams

A connection is a stream of bytes in each direction: `server_send` puts the bytes of a frame into it,
and `server_receive` takes two bytes off, and then as many as the second of them says. The two calls
of `recv` block until the bytes are there. Short frames cross it as they would be delivered one by one.
-/

namespace Smqtt

open Interaction

/-- What `network_receive` takes off a stream that holds what it asks for. -/
def takePacket : List UInt8 → Option (List UInt8 × List UInt8)
  | header :: length :: rest =>
      if length.toNat ≤ rest.length then
        some (header :: length :: rest.take length.toNat, rest.drop length.toNat)
      else none
  | _ => none

/-- Frames as `network_receive` reads them. -/
def wire : Duet.Codec (List UInt8) UInt8 where
  encode frame := frame
  decode := takePacket
  decode_nil := rfl

/-- The frames that an operation can send. -/
inductive Operation.Sends : Operation → MakeMessage → Prop
  | ping : Sends .ping .pingreq
  | publish {topic : CString} {msg : Option CString} {qos : QoS} {retain : Bool} (packetId : UInt16) :
      Sends (.publish topic msg qos retain) (.publish topic packetId qos retain msg)
  | pubrel {topic : CString} {msg : Option CString} {qos : QoS} {retain : Bool} (packetId : UInt16) :
      Sends (.publish topic msg qos retain) (.pubrel packetId)
  | subscribe {topics : List (CString × QoS)} (packetId : UInt16) :
      Sends (.subscribe topics) (.subscribe packetId topics)
  | unsubscribe {topics : List CString} (packetId : UInt16) :
      Sends (.unsubscribe topics) (.unsubscribe packetId topics)
  | puback (packetId : UInt16) : Sends .getNextMessage (.puback packetId)
  | pubrec (packetId : UInt16) : Sends .getNextMessage (.pubrec packetId)
  | pubcomp (packetId : UInt16) : Sends .getNextMessage (.pubcomp packetId)
  | disconnect : Sends .disconnect .disconnect

/-- Every frame has a length of one byte: 127 bytes behind it, and not more. -/
def Operation.Short (op : Operation) : Prop :=
  ∀ message, op.Sends message → message.frame.length ≤ 129

/-! ### One packet -/

section Packet

variable {stream packet rest : List UInt8}

theorem takePacket_eq_some :
    takePacket stream = some (packet, rest) ↔ ∃ header length body,
      stream = header :: length :: (body ++ rest) ∧ packet = header :: length :: body ∧
        body.length = length.toNat := by
  constructor
  · intro htake
    obtain _ | ⟨header, _ | ⟨length, behind⟩⟩ := stream
    · cases htake
    · cases htake
    · obtain ⟨henough, hsome⟩ := Option.ite_none_right_eq_some.mp htake
      obtain ⟨rfl, rfl⟩ := Prod.mk.inj (Option.some.inj hsome)
      refine ⟨header, length, behind.take length.toNat, ?_, rfl, List.length_take_of_le henough⟩
      rw [List.take_append_drop]
  · rintro ⟨header, length, body, rfl, rfl, hbody⟩
    have henough : length.toNat ≤ (body ++ rest).length := by
      rw [List.length_append]
      omega
    rw [takePacket, if_pos henough, ← hbody, List.take_left, List.drop_left]

theorem writeAt_two_reads (buffer : Memory) (header length : UInt8) (body : List UInt8) :
    (buffer.writeAt 0 [header, length]).writeAt 2 body = buffer.write (header :: length :: body) := by
  funext index
  obtain _ | _ | index := index
  · rfl
  · rfl
  · simp [Memory.writeAt, Memory.write]

/-- What is taken off the stream is what `network_receive` returns and stores. -/
theorem networkReceive_takePacket (shortfall : Shortfall) (buffer : Memory)
    (htake : takePacket stream = some (packet, rest)) :
    (networkReceive buffer).run (streamSocket shortfall true) stream
      = (((packet.length : Int), buffer.write packet), rest) := by
  obtain ⟨header, length, body, rfl, rfl, hbody⟩ := takePacket_eq_some.mp htake
  rw [run_networkReceive shortfall buffer header (by rw [List.length_append]; omega), ← hbody,
    List.take_left, List.drop_left, writeAt_two_reads]
  rfl

/-- Nothing is taken off exactly if a call of `recv` asks for more than there is. -/
theorem takePacket_eq_none (buffer : Memory) :
    takePacket stream = none ↔
      ((networkReceive buffer).run (streamSocket (fun _ _ => (none, [])) true) stream).1.1 = 0 := by
  obtain _ | ⟨header, _ | ⟨length, rest⟩⟩ := stream
  · exact iff_of_true rfl rfl
  · exact iff_of_true rfl rfl
  · by_cases henough : length.toNat ≤ rest.length
    · rw [run_networkReceive _ buffer header henough, takePacket, if_pos henough]
      refine iff_of_false (by simp) ?_
      dsimp only
      omega
    · have hpos : 0 < length.toNat := by omega
      have hbyte : buffer.writeAt 0 [header, length] 1 = length := rfl
      rw [takePacket, if_neg henough]
      simp [networkReceive, select, recv, streamSocket, hbyte, hpos, henough]

end Packet

namespace MakeMessage

/-- The sums are exact as long as they fit into 16 bits. -/
theorem declared_eq {message : MakeMessage} (hsize : message.bodySize < 2 ^ 16) :
    message.declared = message.bodySize := by
  cases message with
  | publish topic packetId qos retain msg =>
      simp only [bodySize] at hsize
      rw [declared, bodySize, Nat.mod_eq_of_lt (by omega)]
  | subscribe packetId topics =>
      simp only [bodySize] at hsize
      rw [declared, bodySize, Nat.mod_eq_of_lt (by omega)]
  | unsubscribe packetId topics =>
      simp only [bodySize] at hsize
      rw [declared, bodySize, Nat.mod_eq_of_lt (by omega)]
  | _ => rfl

/-- A frame of at most 129 bytes has its length in the second of them. -/
theorem delimits_of_short {message : MakeMessage} (hshort : message.frame.length ≤ 129) :
    wire.Delimits message.frame := by
  have hpos (size : Nat) : 1 ≤ lengthBytes size := by
    unfold lengthBytes
    split_ifs <;> decide
  have hsmall : message.bodySize < 128 := by
    have hextent := message.length_frame
    have hone := hpos message.declared
    rw [extent] at hextent
    omega
  obtain ⟨header, body, hframe, hbody⟩ := message.frame_eq
  have hlimit : message.bodySize < Wire.lengthLimit := hsmall.trans (by decide)
  rw [declared_eq (hsmall.trans (by decide)), encodeSize_snd hlimit, Base128.encode_of_lt hsmall]
    at hframe
  intro behind
  rw [hframe]
  refine takePacket_eq_some.mpr ⟨header, UInt8.ofNat message.bodySize, body, rfl, rfl, ?_⟩
  rw [hbody, UInt8.toNat_ofNat', Nat.mod_eq_of_lt (by omega)]

end MakeMessage

/-! ### The frames of an operation -/

section Sends

variable {p : ServerCall → Prop} {server : ServerRef}

theorem every_sendThen {frame : List UInt8} {failed : Status → Returned} {next : Serve Returned}
    (hframe : p (.send server frame)) (hnext : next.Every p) :
    (sendThen server frame failed next).Every p := by
  apply every_ask_bind hframe
  intro stat
  split
  · exact every_pure _
  · exact hnext

theorem every_awaitThen {buffer : Memory} {expected : Response → Bool} {null : Status}
    {finish : Status → Memory → Returned} {next : Memory → Serve Returned}
    (hreceive : p (.receive server)) (hnext : ∀ buffer, (next buffer).Every p) :
    (awaitThen server buffer expected null finish next).Every p := by
  apply every_ask_bind hreceive
  intro reception
  dsimp only
  split
  · exact every_pure _
  · split
    · exact hnext _
    · exact every_pure _

theorem every_converse {finish : Status → Memory → Returned} {turns : List Turn}
    (hreceive : p (.receive server))
    (hframes : ∀ frame failed, .say frame failed ∈ turns → p (.send server frame))
    (buffer : Memory) : (converse server finish turns buffer).Every p := by
  apply converse_rule
  · exact fun _ _ => every_pure _
  · exact fun frame failed hmem buffer next hnext => every_sendThen (hframes frame failed hmem) hnext
  · exact fun expected null _ buffer next hnext => every_awaitThen hreceive hnext

end Sends

/-- What is sent in a call is one of these frames. -/
def SendsFrame (frames : MakeMessage → Prop) (call : ServerCall) : Prop :=
  ∀ frame ∈ call.frame, ∃ message, frames message ∧ frame = message.frame

section Operation

variable {client : SmqttClient} {buffer : Memory} {op : Operation}

theorem sends_of_dialogue {after : SmqttClient} {turns : List Turn} {frame : List UInt8}
    {failed : Status → Status} (hdialogue : op.dialogue client = some (after, turns))
    (hmem : .say frame failed ∈ turns) : ∃ message, op.Sends message ∧ frame = message.frame := by
  cases op with
  | publish topic msg qos retain =>
      obtain ⟨-, hsome⟩ := Option.ite_none_right_eq_some.mp hdialogue
      obtain ⟨-, rfl⟩ := Prod.mk.inj (Option.some.inj hsome)
      obtain ⟨rest, hturns, hrest⟩ := publishTurns_eq topic
        (if qos = QoS0 then client
          else { client with publishPacketId := client.publishPacketId + 1 }).publishPacketId
        qos retain msg
      rw [hturns] at hmem
      obtain hfirst | hlater := List.mem_cons.mp hmem
      · obtain ⟨rfl, -⟩ := Turn.say.inj hfirst
        exact ⟨_, .publish _, rfl⟩
      · exact ⟨_, .pubrel _, hrest frame failed hlater⟩
  | getNextMessage => cases hdialogue
  | disconnect => cases hdialogue
  | ping =>
      obtain ⟨-, hsome⟩ := Option.ite_none_right_eq_some.mp hdialogue
      obtain ⟨-, rfl⟩ := Prod.mk.inj (Option.some.inj hsome)
      obtain ⟨rfl, -⟩ : frame = _ ∧ _ := by simpa [ask] using hmem
      exact ⟨_, .ping, rfl⟩
  | subscribe topics =>
      obtain ⟨-, hsome⟩ := Option.ite_none_right_eq_some.mp hdialogue
      obtain ⟨-, rfl⟩ := Prod.mk.inj (Option.some.inj hsome)
      obtain ⟨rfl, -⟩ : frame = _ ∧ _ := by simpa [ask] using hmem
      exact ⟨_, .subscribe _, rfl⟩
  | unsubscribe topics =>
      obtain ⟨-, hsome⟩ := Option.ite_none_right_eq_some.mp hdialogue
      obtain ⟨-, rfl⟩ := Prod.mk.inj (Option.some.inj hsome)
      obtain ⟨rfl, -⟩ : frame = _ ∧ _ := by simpa [ask] using hmem
      exact ⟨_, .unsubscribe _, rfl⟩

theorem sends_of_receipt {data : PublishData} {frame : List UInt8} {failed : Status → Status}
    (hmem : .say frame failed ∈ receiptTurns data) :
    ∃ message, Operation.getNextMessage.Sends message ∧ frame = message.frame := by
  rw [receiptTurns] at hmem
  split_ifs at hmem
  · cases hmem
  · obtain ⟨rfl, -⟩ := Turn.say.inj (List.mem_singleton.mp hmem)
    exact ⟨_, .puback data.packetId, rfl⟩
  · obtain ⟨rfl, -⟩ | ⟨rfl, -⟩ : (frame = makePubrecMessage data.packetId ∧ _) ∨
        (frame = makePubcompMessage data.packetId ∧ _) := by
      simpa [ask] using hmem
    · exact ⟨_, .pubrec data.packetId, rfl⟩
    · exact ⟨_, .pubcomp data.packetId, rfl⟩
  · cases hmem

/-- An operation sends frames of its kind, whatever is answered. -/
theorem sends_perform (op : Operation) (client : SmqttClient) (buffer : Memory) :
    (op.perform client buffer).Every (SendsFrame op.Sends) := by
  have hreceive (op : Operation) : SendsFrame op.Sends (.receive client.server) := by
    simp [SendsFrame, ServerCall.frame]
  cases hdialogue : op.dialogue client with
  | some held =>
      rw [perform_eq_converse hdialogue]
      refine every_converse (hreceive op) (fun frame failed hmem => ?_) buffer
      rintro _ ⟨⟩
      exact sends_of_dialogue hdialogue hmem
  | none =>
      by_cases hnext : op = .getNextMessage
      · subst hnext
        apply every_ask_bind (hreceive .getNextMessage)
        intro reception
        dsimp only
        split
        · exact every_pure _
        · split
          · exact every_pure _
          · rw [receiveMessage_eq_converse]
            refine every_converse (hreceive .getNextMessage) (fun frame failed hmem => ?_) _
            rintro _ ⟨⟩
            exact sends_of_receipt hmem
          · exact every_pure _
      · by_cases hdisconnect : op = .disconnect
        · subst hdisconnect
          apply every_ask_bind
          · rintro _ ⟨⟩
            exact ⟨_, .disconnect, rfl⟩
          · intro stat
            apply every_ask_bind
            · simp [SendsFrame, ServerCall.frame]
            · intro _
              split
              · exact every_pure _
              · exact every_pure _
        · obtain ⟨status, -, hpure⟩ := perform_of_refused hnext hdisconnect hdialogue buffer
          rw [hpure]
          exact every_pure _

end Operation

/-! ### Whole clients -/

section Clients

variable {ops others : List Operation}

theorem sends_performAll (client : SmqttClient) (buffer : Memory) (ops : List Operation) :
    (performAll client buffer ops).Every
      (SendsFrame fun message => ∃ op ∈ ops, op.Sends message) := by
  induction ops generalizing client buffer with
  | nil => exact every_pure _
  | cons op ops ih =>
      apply Every.bind
      · refine (sends_perform op client buffer).mono fun call hcall frame hframe => ?_
        obtain ⟨message, hsends, heq⟩ := hcall frame hframe
        exact ⟨message, ⟨op, List.mem_cons_self, hsends⟩, heq⟩
      · intro returned
        apply Every.bind
        · refine (ih returned.client returned.receiveBuffer).mono fun call hcall frame hframe => ?_
          obtain ⟨message, ⟨other, hmem, hsends⟩, heq⟩ := hcall frame hframe
          exact ⟨message, ⟨other, List.mem_cons_of_mem _ hmem, hsends⟩, heq⟩
        · exact fun rest => every_pure _

/-- Clients that make these calls, with nothing on its way. -/
def joined (client other : SmqttClient) (buffer otherBuffer : Memory) (ops others : List Operation) :
    Duet.State ServerCall ServerAnswer (List UInt8) (List Returned) (List Returned) where
  left := performAll client buffer ops
  right := performAll other otherBuffer others
  toLeft := []
  toRight := []

theorem every_sendsDelimited (hshort : ∀ op ∈ ops, op.Short) (client : SmqttClient)
    (buffer : Memory) :
    (performAll client buffer ops).Every (Duet.SendsDelimited transport wire) := by
  refine (sends_performAll client buffer ops).mono fun call hcall frame answer hport => ?_
  cases call with
  | send server sent =>
      obtain ⟨rfl, -⟩ := Duet.Port.send.inj hport
      obtain ⟨message, ⟨op, hmem, hsends⟩, rfl⟩ := hcall sent rfl
      exact MakeMessage.delimits_of_short (hshort op hmem message hsends)
  | _ => cases hport

theorem joined_delimited (client other : SmqttClient) (buffer otherBuffer : Memory)
    (hshort : ∀ op ∈ ops, op.Short) (hothers : ∀ op ∈ others, op.Short) :
    (joined client other buffer otherBuffer ops others).Delimited transport wire :=
  ⟨every_sendsDelimited hshort client buffer, every_sendsDelimited hothers other otherBuffer,
    by simp [joined], by simp [joined]⟩

theorem Operation.short_ping : Operation.ping.Short := by
  intro message hsends
  cases hsends
  decide

theorem Operation.short_disconnect : Operation.disconnect.Short := by
  intro message hsends
  cases hsends
  decide

theorem Operation.short_getNextMessage : Operation.getNextMessage.Short := by
  intro message hsends
  cases hsends <;> exact (length_makeIdMessage _ _).trans_le (by decide)

theorem Publish.short_operation {publish : Publish} (hshort : (publish.frame 0).length ≤ 129) :
    publish.operation.Short := by
  intro message hsends
  cases hsends with
  | publish packetId => exact (publish.length_frame packetId 0).trans_le hshort
  | pubrel packetId => exact (length_makeIdMessage _ _).trans_le (by decide)

/-- **Short frames cross a stream.** Two clients whose frames all have a length of one byte run over
byte streams as they would over a transport that delivers frame by frame, whatever calls they make
and whatever the schedule. -/
theorem streams_deliver_frames (client other : SmqttClient) (buffer otherBuffer : Memory)
    (hshort : ∀ op ∈ ops, op.Short) (hothers : ∀ op ∈ others, op.Short)
    (schedule : List Duet.Side) :
    Run.exec (Duet.streamStep transport wire)
        ((joined client other buffer otherBuffer ops others).streamed wire) schedule
      = (Run.exec (Duet.step transport) (joined client other buffer otherBuffer ops others)
          schedule).map (Duet.State.streamed wire) := by
  apply Duet.exec_streamed
  exact joined_delimited client other buffer otherBuffer hshort hothers

/-- A ping, which another client takes for a message that is none. -/
theorem ping_crosses_stream :
    let client : SmqttClient := ⟨[], [], 1883, true, 0, 1, 0, 0⟩
    let start := joined client client (fun _ => 0) (fun _ => 0) [.ping, .disconnect] [.getNextMessage]
    Run.exec (Duet.streamStep transport wire) (start.streamed wire) [.left, .right]
      = (Run.exec (Duet.step transport) start [.left, .right]).map (Duet.State.streamed wire) := by
  intro client
  refine streams_deliver_frames client client (fun _ => 0) (fun _ => 0) ?_ ?_ [.left, .right]
  · exact List.forall_mem_cons.mpr
      ⟨Operation.short_ping, List.forall_mem_singleton.mpr Operation.short_disconnect⟩
  · exact List.forall_mem_singleton.mpr Operation.short_getNextMessage

/-- **Every message arrives over a stream.** With frames of at most 129 bytes the clients come to the
same end over byte streams, whatever the schedule, and no byte is left over. -/
theorem messages_arrive_in_streams {sender : SmqttClient} {publishes : List Publish}
    (receiver : SmqttClient) (senderBuffer receiverBuffer : Memory) (hconnected : sender.connected)
    (hpublishes : ∀ publish ∈ publishes, publish.qos ≤ QoS2 ∧ (publish.frame 0).length ≤ 129)
    (hids : sender.publishPacketId.toNat + acknowledged publishes ≤ 255) :
    ∃ (moves : Nat) (sent received : List Returned),
      Arrived sender.publishPacketId publishes sent received ∧
      ∀ begun middle, Run.exec (Duet.streamStep transport wire)
          ((exchange sender receiver senderBuffer receiverBuffer publishes).streamed wire) begun
            = some middle →
        ∃ rest, Run.exec (Duet.streamStep transport wire) middle rest
            = some ⟨.done sent, .done received, [], []⟩ ∧
          begun.length + rest.length = moves := by
  have hreceivable : ∀ publish ∈ publishes, publish.Receivable := by
    intro publish hmem
    obtain ⟨hqos, hlength⟩ := hpublishes publish hmem
    have htopic := MakeMessage.length_frame
      (.publish publish.topic 0 publish.qos publish.retain publish.msg)
    rw [MakeMessage.extent, MakeMessage.bodySize] at htopic
    have hframe : (publish.frame 0).length = _ := htopic
    exact ⟨hqos, by omega, hlength.trans (by decide)⟩
  obtain ⟨schedule, sent, received, hrun, harrived⟩ :=
    exists_exchange receiver senderBuffer receiverBuffer hconnected hreceivable hids
  refine ⟨schedule.length, sent, received, harrived, fun begun middle hbegun => ?_⟩
  refine Duet.every_schedule_finishes_streamed ?_ hrun (exchanged_finished sent received) hbegun
  apply joined_delimited
  · intro op hmem
    obtain ⟨publish, hpublish, rfl⟩ := List.mem_map.mp hmem
    exact Publish.short_operation (hpublishes publish hpublish).2
  · intro op hmem
    obtain ⟨publish, -, rfl⟩ := List.mem_map.mp hmem
    exact Operation.short_getNextMessage

/-- A message at QoS 1 and one at QoS 2, on a stream. -/
theorem two_messages_cross_stream :
    let client : SmqttClient := ⟨[], [], 1883, true, 0, 1, 0, 0⟩
    let topic : CString := ⟨[116, 47, 99], by decide⟩
    let publishes : List Publish := [⟨topic, some topic, QoS1, false⟩, ⟨topic, none, QoS2, true⟩]
    ∃ (moves : Nat) (sent received : List Returned), Arrived 0 publishes sent received ∧
      ∀ begun middle, Run.exec (Duet.streamStep transport wire)
          ((exchange client client (fun _ => 0) (fun _ => 1) publishes).streamed wire) begun
            = some middle →
        ∃ rest, Run.exec (Duet.streamStep transport wire) middle rest
            = some ⟨.done sent, .done received, [], []⟩ ∧
          begun.length + rest.length = moves := by
  intro client topic publishes
  have hpublishes :
      ∀ publish ∈ publishes, publish.qos ≤ QoS2 ∧ (publish.frame 0).length ≤ 129 :=
    List.forall_mem_cons.mpr
      ⟨⟨by decide, by decide⟩, List.forall_mem_singleton.mpr ⟨by decide, by decide⟩⟩
  exact messages_arrive_in_streams client (fun _ => 0) (fun _ => 1) (rfl : client.connected)
    hpublishes (by decide)

end Clients

end Smqtt
