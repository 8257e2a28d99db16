import Smqtt.Client
import Smqtt.Lib.Duet
import Smqtt.Proof.Decoder

/-!
# A publisher and a receiver

`smqtt_publish` on one client and `smqtt_get_next_message` on another, joined by a transport that
delivers every frame whole, once and in order.
-/

namespace Smqtt

/-- A frame that is received stands at the start of the buffer. No connection is made, and the end of
one is not answered: a party that disconnects hands over its DISCONNECT and stops there. -/
def transport : (call : ServerCall) → Duet.Port (List UInt8) (ServerAnswer call)
  | .createNetworkServer => .closed
  | .connect _ _ _ _ => .closed
  | .send _ frame => .send frame .ok
  | .receive _ => .receive fun frame => ⟨frame.length, fun index => frame[index]?⟩
  | .disconnect _ => .closed

/-- The two calls, before either has done anything. -/
def conversation (sender receiver : SmqttClient) (senderBuffer receiverBuffer : Memory)
    (topic : CString) (msg : Option CString) (qos : QoS) (retain : Bool) :
    Duet.State ServerCall ServerAnswer (List UInt8) Returned Returned where
  left := smqttPublish sender senderBuffer topic msg qos retain
  right := smqttGetNextMessage receiver receiverBuffer
  toLeft := []
  toRight := []

/-! ### Moves -/

section Moves

variable {server : ServerRef} {frame : List UInt8} {incoming : List (List UInt8)} {buffer : Memory}

theorem act_receive {α : Type} (next : Reception → Serve α) :
    Duet.act transport (frame :: incoming) (serverReceive server >>= next)
      = some (next ⟨frame.length, fun index => frame[index]?⟩, incoming, []) := rfl

theorem act_awaitThen {expected : Response → Bool} {null : Status}
    {finish : Status → Memory → Returned} {next : Memory → Serve Returned} {resp : Response}
    (hparse : parseBuffer (buffer.write frame) frame.length = some resp)
    (hexpected : expected resp) :
    Duet.act transport (frame :: incoming) (awaitThen server buffer expected null finish next)
      = some (next (buffer.write frame), incoming, []) := by
  rw [awaitThen, act_receive, Memory.patch_getElem]
  simp only [hparse, hexpected, if_true]

theorem act_getNextMessage {client : SmqttClient} {data : PublishData}
    (hparse : parseBuffer (buffer.write frame) frame.length = some (.publish data)) :
    Duet.act transport (frame :: incoming) (smqttGetNextMessage client buffer)
      = some (receiveMessage client (buffer.write frame) data, incoming, []) := by
  rw [smqttGetNextMessage, act_receive, Memory.patch_getElem]
  simp only [hparse]
  exact congrArg (fun tree => some (tree, incoming, [])) (if_neg (by omega))

end Moves

/-! ### Frames -/

/-- A packet of four bytes. -/
theorem parse_four {memory : Memory} {type : MessageType} (hlength : memory 1 = 2)
    (htype : (memory 0).toNat >>> 4 = type.code) :
    parseBuffer memory 4 = some ((deserializeBody type (memory 0) 2 2).eval memory) := by
  have hsize : (decodeSize 1 4).eval memory = (some 2, 1) := by
    rw [decodeSize]
    simp only [Interaction.eval_bind]
    rw [eval_decodeSizeLoop_last (by omega) (by rw [hlength]; decide), hlength]
    rfl
  rw [parseBuffer, show (4 : Int).toNat = 4 from rfl, deserializeResponse]
  simp only [Interaction.eval_bind, eval_readByte, hsize]
  rw [htype, ofCode_code]
  exact Interaction.eval_map _ _ _

/-- A packet that carries an id and nothing else is recognised if the id fits into one byte. -/
theorem parse_idMessage {header : Nat} {type : MessageType} {packetId : UInt16} (buffer : Memory)
    (htype : type ∈ [MessageType.puback, .pubrec, .pubrel, .pubcomp])
    (hheader : (UInt8.ofNat header).toNat >>> 4 = type.code) (hid : packetId.toNat < 256) :
    ∃ resp, parseBuffer (buffer.write (makeIdMessage header packetId))
        (makeIdMessage header packetId).length = some resp ∧
      resp.acknowledges type packetId := by
  have hbytes := Memory.holds_write buffer (makeIdMessage header packetId)
  rw [makeIdMessage_eq] at hbytes ⊢
  generalize buffer.write _ = memory at hbytes ⊢
  have hfirst : memory 0 = UInt8.ofNat header := hbytes 0 (by simp)
  have hlength : memory 1 = 2 := hbytes 1 (by simp)
  have hlow : memory 3 = UInt8.ofNat packetId.toNat := hbytes 3 (by simp)
  have hparsed : (memory 3).toUInt16 = packetId := by
    apply UInt16.toNat_inj.mp
    rw [hlow, UInt8.toNat_toUInt16, UInt8.toNat_ofNat', Nat.mod_eq_of_lt hid]
  refine ⟨_, parse_four hlength (by rw [hfirst, hheader]), ?_⟩
  simp only [List.mem_cons, List.not_mem_nil, or_false] at htype
  obtain rfl | rfl | rfl | rfl := htype <;>
    simp [deserializeBody, Response.acknowledges, Response.type, Response.packetId, hparsed]

/-- A PUBLISH that has been read as it was meant. -/
structure PublishData.Meant (memory : Memory) (data : PublishData) (topic : CString)
    (packetId : UInt16) (qos : QoS) (retain : Bool) (msg : Option CString) : Prop where
  packetId : data.packetId = if qos = QoS0 then 0 else packetId
  qos : data.qos = qos
  retain : data.retain = retain
  topic : data.topic.bytes memory = topic.bytes
  message : data.message.bytes memory = msg.elim [] CString.bytes

theorem Response.Carries.publish_fields {memory : Memory} {resp : Response} {dup retain : Bool}
    {delivery : Wire.Delivery} {topic payload : List UInt8}
    (hcarries : resp.Carries memory (.publish dup retain delivery topic payload)) :
    ∃ data, resp = .publish data ∧ data.qos = UInt32.ofNat delivery.qos.code ∧
      data.retain = retain ∧ data.packetId = delivery.packetId.getD 0 ∧
      data.topic.bytes memory = topic ∧ data.message.bytes memory = payload := by
  cases resp with
  | publish data =>
      obtain ⟨hqos, hretain, hpacketId, htopic, hmessage⟩ := hcarries
      exact ⟨data, rfl, hqos, hretain, hpacketId, htopic, hmessage⟩
  | _ => exact hcarries.elim

theorem qos_cases {qos : QoS} (hqos : qos ≤ QoS2) : qos = QoS0 ∨ qos = QoS1 ∨ qos = QoS2 := by
  have hvalue : qos.toNat ≤ 2 := hqos
  have hcases : qos.toNat = 0 ∨ qos.toNat = 1 ∨ qos.toNat = 2 := by omega
  simp only [← UInt32.toNat_inj]
  exact hcases

theorem wireQos_of_le {qos : QoS} (hqos : qos ≤ QoS2) :
    ∃ wireQos : Wire.Qos, qos = UInt32.ofNat wireQos.code := by
  obtain rfl | rfl | rfl := qos_cases hqos
  · exact ⟨.atMostOnce, rfl⟩
  · exact ⟨.atLeastOnce, rfl⟩
  · exact ⟨.exactlyOnce, rfl⟩

/-- A PUBLISH that fits the buffer, with a short topic and a small id, is read as it was meant. -/
theorem meant_publish {topic : CString} {packetId : UInt16} {qos : QoS} {retain : Bool}
    {msg : Option CString} {frame : List UInt8} (buffer : Memory)
    (hframe : makePublishMessage topic packetId qos retain msg = frame) (hqos : qos ≤ QoS2)
    (htopic : strlen topic < 256) (hid : packetId.toNat < 256) (hfits : frame.length ≤ 1024) :
    ∃ data, parseBuffer (buffer.write frame) frame.length = some (.publish data) ∧
      data.Meant (buffer.write frame) topic packetId qos retain msg := by
  subst hframe
  obtain ⟨qos, rfl⟩ := wireQos_of_le hqos
  let call : EncoderCall := .publish topic packetId qos retain msg
  have hmsg : msg.elim 0 strlen ≤ 1024 := by
    rw [makePublishMessage_eq, List.length_cons, List.length_append, topicFrame, List.length_cons,
      List.length_cons, List.length_append, List.length_append] at hfits
    cases msg with
    | none => simp
    | some msg => exact le_trans (by simp [strlen]; omega) hfits
  have hpayload : (msg.elim [] CString.bytes).length = msg.elim 0 strlen := by
    cases msg <;> rfl
  have hparsable : call.packet.Parsable := ⟨by simpa [strlen] using htopic.trans (by decide), by
    rw [hpayload]
    omega⟩
  have hrange : call.InRange := by
    refine ⟨?_, Nat.two_pow_pos 16, length_body_lt hparsable⟩
    simpa [call, EncoderCall.strings] using htopic.trans (by decide)
  have hnarrow : call.Narrow := by
    refine ⟨?_, by simpa [call, EncoderCall.strings] using htopic, by
      change msg.elim 0 strlen < _
      omega⟩
    cases qos <;>
      simp [call, EncoderCall.sentId, EncoderCall.delivery, Wire.Delivery.packetId, hid]
  have hencode : makePublishMessage topic packetId (UInt32.ofNat qos.code) retain msg
      = call.packet.encode := (publish_eq_iff hrange).mpr hnarrow
  have hlow : call.packet.LowBytes := by
    refine ⟨hnarrow.packetId, ?_⟩
    simpa [call, EncoderCall.packet, Wire.Packet.topics, strlen] using htopic
  rw [hencode]
  obtain ⟨heval, hbody⟩ := eval_deserializeResponse (length_body_lt hparsable)
    (Memory.holds_write buffer call.packet.encode)
  obtain ⟨data, hdata, hqos, hretain, hpacketId, htopic, hmessage⟩ :=
    ((publish_carries_iff hparsable hbody).mpr hlow).publish_fields
  refine ⟨data, heval.trans (congrArg some hdata), ?_, ?_, hretain, htopic, hmessage⟩
  · rw [hpacketId]
    cases qos <;> rfl
  · rw [hqos]
    cases qos <;> rfl

/-- What a receiver makes use of. -/
theorem parse_publish {topic : CString} {packetId : UInt16} {qos : QoS} {retain : Bool}
    {msg : Option CString} {frame : List UInt8} (buffer : Memory)
    (hframe : makePublishMessage topic packetId qos retain msg = frame) (hqos : qos ≤ QoS2)
    (htopic : strlen topic < 256) (hid : packetId.toNat < 256) (hfits : frame.length ≤ 1024) :
    ∃ data, parseBuffer (buffer.write frame) frame.length = some (.publish data) ∧
      data.qos = qos ∧ data.packetId = (if qos = QoS0 then 0 else packetId) ∧
      data.message.bytes (buffer.write frame) = msg.elim [] CString.bytes := by
  obtain ⟨data, hparse, hmeant⟩ := meant_publish buffer hframe hqos htopic hid hfits
  exact ⟨data, hparse, hmeant.qos, hmeant.packetId, hmeant.message⟩

/-- The wait for an acknowledgement ends with it. -/
theorem act_awaitAck {header : Nat} {type : MessageType} {packetId : UInt16} {server : ServerRef}
    {incoming : List (List UInt8)} {buffer : Memory} {null : Status}
    {finish : Status → Memory → Returned} {next : Memory → Serve Returned}
    (htype : type ∈ [MessageType.puback, .pubrec, .pubrel, .pubcomp])
    (hheader : (UInt8.ofNat header).toNat >>> 4 = type.code) (hid : packetId.toNat < 256) :
    Duet.act transport (makeIdMessage header packetId :: incoming)
        (awaitThen server buffer (Response.acknowledges type packetId) null finish next)
      = some (next (buffer.write (makeIdMessage header packetId)), incoming, []) := by
  obtain ⟨resp, hparse, hacknowledges⟩ := parse_idMessage buffer htype hheader hid
  exact act_awaitThen hparse hacknowledges

theorem cString_bytes (str : CString) : cString str.bytes = str.bytes := by
  rw [cString, List.takeWhile_eq_self_iff]
  intro byte hmem
  have hne : byte ≠ 0 := fun heq => str.noNul (heq ▸ hmem)
  simpa using hne

theorem strncpy_bytes (str : CString) : strncpy str.bytes = str.bytes := by
  simp [strncpy, cString_bytes]

/-! ### The handshakes -/

/-- Both calls have succeeded, the receiver has the sender's message, and the packet id of the
PUBLISH unless there was none. -/
structure Agreed (msg : Option CString) (qos : QoS) (sent received : Returned) : Prop where
  sentOk : sent.status = .ok
  receivedOk : received.status = .ok
  message : ∃ size : UInt16, received.message = some (msg.elim [] CString.bytes, size) ∧
    size.toNat = (msg.elim [] CString.bytes).length
  packetId : received.packetId = if qos = QoS0 then none else some sent.client.publishPacketId

/-- A state in which both calls are through and no frame is left. -/
structure Concluded (msg : Option CString) (qos : QoS) (nextId : UInt16)
    (final : Duet.State ServerCall ServerAnswer (List UInt8) Returned Returned) : Prop where
  finished : ∃ sent received, final.Finished sent received ∧ Agreed msg qos sent received ∧
    sent.client.publishPacketId = nextId
  toLeft : final.toLeft = []
  toRight : final.toRight = []

section Handshake

variable {state : Duet.State ServerCall ServerAnswer (List UInt8) Returned Returned}
  {final : Duet.State ServerCall ServerAnswer (List UInt8) Returned Returned}

theorem exec_left {left : Serve Returned} {toLeft sent : List (List UInt8)}
    {schedule : List Duet.Side}
    (hact : Duet.act transport state.toLeft state.left = some (left, toLeft, sent))
    (hrest : Run.exec (Duet.step transport)
      { state with left, toLeft, toRight := state.toRight ++ sent } schedule = some final) :
    Run.exec (Duet.step transport) state (.left :: schedule) = some final :=
  Run.exec_cons_eq_some.mpr ⟨_, Duet.step_left_eq_some.mpr ⟨_, _, _, hact, rfl⟩, hrest⟩

theorem exec_right {right : Serve Returned} {toRight sent : List (List UInt8)}
    {schedule : List Duet.Side}
    (hact : Duet.act transport state.toRight state.right = some (right, toRight, sent))
    (hrest : Run.exec (Duet.step transport)
      { state with right, toRight, toLeft := state.toLeft ++ sent } schedule = some final) :
    Run.exec (Duet.step transport) state (.right :: schedule) = some final :=
  Run.exec_cons_eq_some.mpr ⟨_, Duet.step_right_eq_some.mpr ⟨_, _, _, hact, rfl⟩, hrest⟩

variable {sender receiver : SmqttClient} {senderBuffer receiverBuffer : Memory} {topic : CString}
  {msg : Option CString} {retain : Bool}

/-- What the receiver stores of a message that was read as it was meant. -/
theorem message_of_bytes {buffer : Memory} {data : PublishData}
    (hmessage : data.message.bytes buffer = msg.elim [] CString.bytes) :
    ∃ size : UInt16, some (strncpy (data.message.bytes buffer), data.message.size)
        = some (msg.elim [] CString.bytes, size) ∧
      size.toNat = (msg.elim [] CString.bytes).length := by
  refine ⟨data.message.size, ?_, ?_⟩
  · rw [hmessage]
    cases msg with
    | none => rfl
    | some msg => exact congrArg (fun bytes => some (bytes, _)) (strncpy_bytes msg)
  · rw [← hmessage, Slice.bytes, Memory.length_slice]

/-- At QoS 0 the counter is not looked at. -/
theorem makePublishMessage_qos0 (topic : CString) (retain : Bool) (msg : Option CString)
    (left right : UInt16) :
    makePublishMessage topic left QoS0 retain msg
      = makePublishMessage topic right QoS0 retain msg := by
  have hnone : ¬ QoS1 ≤ QoS0 := by decide
  simp [makePublishMessage, hnone]

theorem handshake_qos0 {frame : List UInt8} (hconnected : sender.connected)
    (htopic : strlen topic < 256)
    (hframe : makePublishMessage topic sender.publishPacketId QoS0 retain msg = frame)
    (hfits : frame.length ≤ 1024) :
    ∃ schedule final, Run.exec (Duet.step transport)
        (conversation sender receiver senderBuffer receiverBuffer topic msg QoS0 retain) schedule
          = some final ∧ Concluded msg QoS0 sender.publishPacketId final := by
  have hsend : Duet.act transport [] (smqttPublish sender senderBuffer topic msg QoS0 retain)
      = some (pure (finish sender .ok senderBuffer), [], [frame]) := by
    rw [smqttPublish, if_pos hconnected, hframe]
    rfl
  have hwithoutId : makePublishMessage topic 0 QoS0 retain msg = frame :=
    (makePublishMessage_qos0 topic retain msg 0 sender.publishPacketId).trans hframe
  obtain ⟨data, hparse, hqos, hpacketId, hmessage⟩ :=
    parse_publish receiverBuffer hwithoutId (by decide) htopic (by decide) hfits
  have hreceive : Duet.act transport [frame] (smqttGetNextMessage receiver receiverBuffer)
      = some (pure (finishMessage receiver (receiverBuffer.write frame) data .ok
          (receiverBuffer.write frame)), [], []) := by
    rw [act_getNextMessage hparse, receiveMessage, if_pos hqos]
  refine ⟨[.left, .right], _, exec_left hsend (exec_right hreceive rfl), ⟨?_, rfl, rfl⟩⟩
  refine ⟨_, _, ⟨rfl, rfl⟩, ⟨rfl, rfl, message_of_bytes hmessage, ?_⟩, rfl⟩
  simp [finishMessage, hpacketId]

/-- The id that the next acknowledged publish takes. -/
def SmqttClient.withNextId (client : SmqttClient) : SmqttClient :=
  { client with publishPacketId := client.publishPacketId + 1 }

theorem nextId_lt (hid : sender.publishPacketId.toNat < 255) :
    sender.withNextId.publishPacketId.toNat < 256 ∧ sender.withNextId.publishPacketId ≠ 0 := by
  have hvalue : sender.withNextId.publishPacketId.toNat = sender.publishPacketId.toNat + 1 := by
    change (sender.publishPacketId + 1).toNat = _
    rw [UInt16.toNat_add]
    simp
    omega
  refine ⟨by omega, fun heq => ?_⟩
  rw [heq] at hvalue
  simp at hvalue

theorem handshake_qos1 {frame : List UInt8} (hconnected : sender.connected)
    (hid : sender.publishPacketId.toNat < 255) (htopic : strlen topic < 256)
    (hframe : makePublishMessage topic sender.withNextId.publishPacketId QoS1 retain msg = frame)
    (hfits : frame.length ≤ 1024) :
    ∃ schedule final, Run.exec (Duet.step transport)
        (conversation sender receiver senderBuffer receiverBuffer topic msg QoS1 retain) schedule
          = some final ∧ Concluded msg QoS1 sender.withNextId.publishPacketId final := by
  obtain ⟨hlt, hne⟩ := nextId_lt hid
  generalize hclient : sender.withNextId = client at hlt hne hframe ⊢
  have hsend : Duet.act transport [] (smqttPublish sender senderBuffer topic msg QoS1 retain)
      = some (awaitThen client.server senderBuffer
          (Response.acknowledges .puback client.publishPacketId) .badMessage (finish client)
          (fun buffer => pure (finish client .ok buffer)), [], [frame]) := by
    rw [smqttPublish, if_pos hconnected, ← hframe, ← hclient]
    rfl
  obtain ⟨data, hparse, hqos, hpacketId, hmessage⟩ :=
    parse_publish receiverBuffer hframe (by decide) htopic hlt hfits
  have hpacketId : data.packetId = client.publishPacketId := hpacketId
  have hreceive : Duet.act transport [frame] (smqttGetNextMessage receiver receiverBuffer)
      = some (sendThen receiver.server (makePubackMessage client.publishPacketId)
          (fun stat => finishMessage receiver (receiverBuffer.write frame) data stat
            (receiverBuffer.write frame))
          (pure (finishMessage receiver (receiverBuffer.write frame) data .ok
            (receiverBuffer.write frame))), [], []) := by
    rw [act_getNextMessage hparse, receiveMessage, if_neg (by simp [hqos, QoS0, QoS1]), if_pos hqos,
      hpacketId]
  have hack : Duet.act transport [makePubackMessage client.publishPacketId]
      (awaitThen client.server senderBuffer (Response.acknowledges .puback client.publishPacketId)
        .badMessage (finish client) fun buffer => pure (finish client .ok buffer))
      = some (pure (finish client .ok
          (senderBuffer.write (makePubackMessage client.publishPacketId))), [], []) :=
    act_awaitAck (by simp) rfl hlt
  refine ⟨[.left, .right, .right, .left], _,
    exec_left hsend (exec_right hreceive (exec_right rfl (exec_left hack rfl))),
    ⟨?_, rfl, rfl⟩⟩
  refine ⟨_, _, ⟨rfl, rfl⟩, ⟨rfl, rfl, message_of_bytes hmessage, ?_⟩, rfl⟩
  simp [finishMessage, finish, hpacketId, hne, QoS0, QoS1]

theorem handshake_qos2 {frame : List UInt8} (hconnected : sender.connected)
    (hid : sender.publishPacketId.toNat < 255) (htopic : strlen topic < 256)
    (hframe : makePublishMessage topic sender.withNextId.publishPacketId QoS2 retain msg = frame)
    (hfits : frame.length ≤ 1024) :
    ∃ schedule final, Run.exec (Duet.step transport)
        (conversation sender receiver senderBuffer receiverBuffer topic msg QoS2 retain) schedule
          = some final ∧ Concluded msg QoS2 sender.withNextId.publishPacketId final := by
  obtain ⟨hlt, hne⟩ := nextId_lt hid
  generalize hclient : sender.withNextId = client at hlt hne hframe ⊢
  have hsend : Duet.act transport [] (smqttPublish sender senderBuffer topic msg QoS2 retain)
      = some (awaitThen client.server senderBuffer
          (Response.acknowledges .pubrec client.publishPacketId) (.number (-1)) (finish client)
          (completePublish client), [], [frame]) := by
    rw [smqttPublish, if_pos hconnected, ← hframe, ← hclient]
    rfl
  obtain ⟨data, hparse, hqos, hpacketId, hmessage⟩ :=
    parse_publish receiverBuffer hframe (by decide) htopic hlt hfits
  have hpacketId : data.packetId = client.publishPacketId := hpacketId
  generalize hstored : receiverBuffer.write frame = stored at hparse hmessage
  have hreceive : Duet.act transport [frame] (smqttGetNextMessage receiver receiverBuffer)
      = some (sendThen receiver.server (makePubrecMessage client.publishPacketId)
          (fun stat => finishMessage receiver stored data stat stored)
          (awaitThen receiver.server stored (Response.acknowledges .pubrel client.publishPacketId)
            .badMessage (finishMessage receiver stored data) fun buffer =>
              sendThen receiver.server (makePubcompMessage client.publishPacketId)
                (fun stat => finishMessage receiver stored data stat buffer)
                (pure (finishMessage receiver stored data .ok buffer))), [], []) := by
    rw [act_getNextMessage (hstored ▸ hparse), receiveMessage, if_neg (by simp [hqos, QoS0, QoS2]),
      if_neg (by simp [hqos, QoS1, QoS2]), if_pos hqos, hpacketId, hstored]
  have hpubrec : Duet.act transport [makePubrecMessage client.publishPacketId]
      (awaitThen client.server senderBuffer (Response.acknowledges .pubrec client.publishPacketId)
        (.number (-1)) (finish client) (completePublish client))
      = some (completePublish client
          (senderBuffer.write (makePubrecMessage client.publishPacketId)), [], []) :=
    act_awaitAck (by simp) rfl hlt
  have hpubrel : Duet.act transport [makePubrelMessage client.publishPacketId]
      (awaitThen receiver.server stored (Response.acknowledges .pubrel client.publishPacketId)
        .badMessage (finishMessage receiver stored data) fun buffer =>
          sendThen receiver.server (makePubcompMessage client.publishPacketId)
            (fun stat => finishMessage receiver stored data stat buffer)
            (pure (finishMessage receiver stored data .ok buffer)))
      = some (sendThen receiver.server (makePubcompMessage client.publishPacketId)
          (fun stat => finishMessage receiver stored data stat
            (stored.write (makePubrelMessage client.publishPacketId)))
          (pure (finishMessage receiver stored data .ok
            (stored.write (makePubrelMessage client.publishPacketId)))), [], []) :=
    act_awaitAck (by simp) rfl hlt
  have hpubcomp (buffer : Memory) : Duet.act transport [makePubcompMessage client.publishPacketId]
      (awaitThen client.server buffer (Response.acknowledges .pubcomp client.publishPacketId)
        .badMessage (finish client) fun buffer => pure (finish client .ok buffer))
      = some (pure (finish client .ok
          (buffer.write (makePubcompMessage client.publishPacketId))), [], []) :=
    act_awaitAck (by simp) rfl hlt
  refine ⟨[.left, .right, .right, .left, .left, .right, .right, .left], _,
    exec_left hsend (exec_right hreceive (exec_right rfl (exec_left hpubrec
      (exec_left rfl (exec_right hpubrel (exec_right rfl
        (exec_left (hpubcomp _) rfl))))))), ⟨?_, rfl, rfl⟩⟩
  refine ⟨_, _, ⟨rfl, rfl⟩, ⟨rfl, rfl, message_of_bytes hmessage, ?_⟩, rfl⟩
  simp [finishMessage, finish, hpacketId, hne, QoS0, QoS2]

end Handshake

/-- **Sender and receiver agree.** Whatever the schedule, the two calls come to an end in which both
have succeeded, the receiver has the message and the packet id, and no frame is left over. -/
theorem publish_received {sender : SmqttClient} {topic : CString} {msg : Option CString} {qos : QoS}
    {retain : Bool} {nextId : UInt16} (receiver : SmqttClient) (senderBuffer receiverBuffer : Memory)
    (hconnected : sender.connected) (hid : sender.publishPacketId.toNat < 255) (hqos : qos ≤ QoS2)
    (hnext : nextId = if qos = QoS0 then sender.publishPacketId else sender.publishPacketId + 1)
    (htopic : strlen topic < 256)
    (hfits : (makePublishMessage topic nextId qos retain msg).length ≤ 1024) :
    ∃ final, Concluded msg qos nextId final ∧ ∀ begun middle,
      Run.exec (Duet.step transport)
          (conversation sender receiver senderBuffer receiverBuffer topic msg qos retain) begun
        = some middle →
      ∃ rest, Run.exec (Duet.step transport) middle rest = some final := by
  have hshake : ∃ schedule final, Run.exec (Duet.step transport)
      (conversation sender receiver senderBuffer receiverBuffer topic msg qos retain) schedule
        = some final ∧ Concluded msg qos nextId final := by
    obtain rfl | rfl | rfl := qos_cases hqos
    · obtain rfl : nextId = sender.publishPacketId := hnext
      exact handshake_qos0 hconnected htopic rfl hfits
    · obtain rfl : nextId = sender.withNextId.publishPacketId := hnext
      exact handshake_qos1 hconnected hid htopic rfl hfits
    · obtain rfl : nextId = sender.withNextId.publishPacketId := hnext
      exact handshake_qos2 hconnected hid htopic rfl hfits
  obtain ⟨schedule, final, hrun, hconcluded⟩ := hshake
  refine ⟨final, hconcluded, fun begun middle hbegun => ?_⟩
  obtain ⟨sent, received, hfinished, -⟩ := hconcluded.finished
  obtain ⟨rest, hrest, -⟩ := Duet.every_schedule_finishes hrun hfinished hbegun
  exact ⟨rest, hrest⟩

/-- A retained message at QoS 2, whose PUBLISH takes the id 8. -/
theorem retained_message_received : ∃ (sender receiver : SmqttClient) (topic msg : CString)
    (final : Duet.State ServerCall ServerAnswer (List UInt8) Returned Returned),
    sender.publishPacketId = 7 ∧ msg.bytes = [104, 105] ∧
      Concluded (some msg) QoS2 8 final ∧ ∀ begun middle, Run.exec (Duet.step transport)
          (conversation sender receiver (fun _ => 0) (fun _ => 1) topic (some msg) QoS2 true) begun
            = some middle →
        ∃ rest, Run.exec (Duet.step transport) middle rest = some final := by
  let client : SmqttClient := ⟨[], [], 1883, true, 7, 1, 0, 0⟩
  let topic : CString := ⟨[116, 47, 97], by decide⟩
  let msg : CString := ⟨[104, 105], by decide⟩
  obtain ⟨final, hconcluded, hschedules⟩ := publish_received client (fun _ => 0) (fun _ => 1)
    (rfl : client.connected) (show client.publishPacketId.toNat < 255 by decide)
    (show QoS2 ≤ QoS2 by decide) rfl (show strlen topic < 256 by decide)
    (show (makePublishMessage topic 8 QoS2 true (some msg)).length ≤ 1024 by decide)
  exact ⟨client, client, topic, msg, final, rfl, rfl, hconcluded, hschedules⟩

end Smqtt
