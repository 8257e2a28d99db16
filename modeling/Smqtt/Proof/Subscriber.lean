import Smqtt.Proof.Provenance
import Smqtt.Proof.Streams

/-!
# A subscriber behind a socket

The session thread with `network_receive` under it, on a stream of bytes that a broker has written:
messages, releases of messages and acknowledgements, one frame behind the other. From the bytes to
`msg_callback`, the messages shown are those that stand in the stream.
-/

namespace Smqtt

/-! ### What the broker sends -/

inductive BrokerPacket where
  | publish (sent : Publish) (packetId : UInt16)
  | pubrel (packetId : UInt16)
  | puback (packetId : UInt16)
  | pubrec (packetId : UInt16)
  | pubcomp (packetId : UInt16)
  | pingresp

def Publish.message (publish : Publish) : Message :=
  ⟨publish.topic.bytes, publish.msg.elim [] CString.bytes, publish.qos, publish.retain⟩

namespace BrokerPacket

def encoder : BrokerPacket → MakeMessage
  | publish sent packetId => .publish sent.topic packetId sent.qos sent.retain sent.msg
  | pubrel packetId => .pubrel packetId
  | puback packetId => .puback packetId
  | pubrec packetId => .pubrec packetId
  | pubcomp packetId => .pubcomp packetId
  | pingresp => .pingresp

def frame (packet : BrokerPacket) : List UInt8 := packet.encoder.frame

def packetId : BrokerPacket → UInt16
  | publish _ packetId => packetId
  | pubrel packetId => packetId
  | puback packetId => packetId
  | pubrec packetId => packetId
  | pubcomp packetId => packetId
  | pingresp => 0

/-- What `network_receive` and `deserialize_response` can cope with: a length of one byte, an id
that fits into a byte, and a topic whose length does. -/
structure Receivable (packet : BrokerPacket) : Prop where
  short : packet.frame.length ≤ 129
  packetId : packet.packetId.toNat < 256
  publish : ∀ sent packetId, packet = .publish sent packetId →
    sent.qos ≤ QoS2 ∧ strlen sent.topic < 256

/-- The messages at QoS 2 that wait for their release. -/
def store (kept : UInt16 → Option Message) : BrokerPacket → UInt16 → Option Message
  | publish sent packetId =>
      if sent.qos = QoS2 then Function.update kept packetId (some sent.message) else kept
  | pubrel packetId => Function.update kept packetId none
  | _ => kept

/-- The message that a packet makes appear. -/
def shows (kept : UInt16 → Option Message) : BrokerPacket → List Message
  | publish sent _ => if sent.qos = QoS2 then [] else [sent.message]
  | pubrel packetId => (kept packetId).toList
  | _ => []

def keptBy (packets : List BrokerPacket) : UInt16 → Option Message :=
  packets.foldl store fun _ => none

def shownFrom (kept : UInt16 → Option Message) : List BrokerPacket → List Message
  | [] => []
  | packet :: packets => packet.shows kept ++ shownFrom (packet.store kept) packets

/-- What a subscriber is to be shown. -/
def shownBy (packets : List BrokerPacket) : List Message := shownFrom (fun _ => none) packets

/-- A message at QoS 2 does not come under an id under which another waits for its release. -/
def Fresh (kept : UInt16 → Option Message) : BrokerPacket → Prop
  | publish sent packetId => sent.qos = QoS2 → kept packetId = none
  | _ => True

def UnrepeatedFrom (kept : UInt16 → Option Message) : List BrokerPacket → Prop
  | [] => True
  | packet :: packets => packet.Fresh kept ∧ UnrepeatedFrom (packet.store kept) packets

def Unrepeated (packets : List BrokerPacket) : Prop := UnrepeatedFrom (fun _ => none) packets

theorem keptBy_concat (packets : List BrokerPacket) (packet : BrokerPacket) :
    keptBy (packets ++ [packet]) = packet.store (keptBy packets) := by
  rw [keptBy, List.foldl_append]
  rfl

theorem shownFrom_append (kept : UInt16 → Option Message) (left right : List BrokerPacket) :
    shownFrom kept (left ++ right)
      = shownFrom kept left ++ shownFrom (left.foldl store kept) right := by
  induction left generalizing kept with
  | nil => rfl
  | cons packet left ih =>
      rw [List.cons_append, shownFrom, ih, shownFrom, List.append_assoc]
      rfl

theorem UnrepeatedFrom.fresh {kept : UInt16 → Option Message} {taken left : List BrokerPacket}
    {packet : BrokerPacket} (hunrepeated : UnrepeatedFrom kept (taken ++ packet :: left)) :
    packet.Fresh (taken.foldl store kept) := by
  induction taken generalizing kept with
  | nil => exact hunrepeated.1
  | cons first taken ih => exact ih hunrepeated.2

theorem shownBy_concat (packets : List BrokerPacket) (packet : BrokerPacket) :
    shownBy (packets ++ [packet]) = shownBy packets ++ packet.shows (keptBy packets) := by
  rw [shownBy, shownFrom_append, shownFrom, shownFrom, List.append_nil]
  rfl

/-! ### What is made of a packet -/

/-- The packet has come in as it was meant. -/
def Carried : BrokerPacket → Inbound → Prop
  | publish sent packetId, (buffer, resp) => ∃ data, resp = .publish data ∧
      data.Meant buffer sent.topic packetId sent.qos sent.retain sent.msg
  | pubrel packetId, (_, resp) => resp = .pubrel packetId
  | _, (_, resp) => (∀ data, resp ≠ .publish data) ∧ ∀ packetId, resp ≠ .pubrel packetId

theorem read_of_meant {buffer : Memory} {data : PublishData} {sent : Publish} {packetId : UInt16}
    (hmeant : data.Meant buffer sent.topic packetId sent.qos sent.retain sent.msg) :
    data.read buffer = sent.message := by
  have hpayload : cString (sent.msg.elim [] CString.bytes) = sent.msg.elim [] CString.bytes := by
    cases sent.msg with
    | none => rfl
    | some msg => exact cString_bytes msg
  rw [PublishData.read, hmeant.topic, hmeant.message, hmeant.qos, hmeant.retain, cString_bytes,
    hpayload, Publish.message]

/-- An acknowledgement of a publish is neither a message nor a release. -/
theorem parse_acknowledgement {header : Nat} {type : MessageType} {packetId : UInt16}
    (buffer : Memory) (htype : type ∈ [MessageType.puback, .pubrec, .pubrel, .pubcomp])
    (hne : type ≠ .pubrel) (hheader : (UInt8.ofNat header).toNat >>> 4 = type.code)
    (hid : packetId.toNat < 256) :
    ∃ resp, parseBuffer (buffer.write (makeIdMessage header packetId))
        (makeIdMessage header packetId).length = some resp ∧
      (∀ data, resp ≠ .publish data) ∧ ∀ packetId, resp ≠ .pubrel packetId := by
  obtain ⟨resp, hparse, hresp⟩ := parse_idMessage buffer htype hheader hid
  obtain ⟨heq, hsome⟩ := of_decide_eq_true hresp
  refine ⟨resp, hparse, ?_, ?_⟩
  · rintro data rfl
    cases hsome
  · rintro other rfl
    exact hne heq.symm

theorem parse_pubrel {packetId : UInt16} (buffer : Memory) (hid : packetId.toNat < 256) :
    parseBuffer (buffer.write (makePubrelMessage packetId)) (makePubrelMessage packetId).length
      = some (.pubrel packetId) := by
  have hheader : (UInt8.ofNat (packMessageType .pubrel ||| (QoS1.toNat <<< 1))).toNat >>> 4
      = MessageType.pubrel.code := by decide
  obtain ⟨resp, hparse, hresp⟩ := parse_idMessage buffer (by simp) hheader hid
  obtain ⟨htype, hsome⟩ := of_decide_eq_true hresp
  cases resp with
  | pubrel other =>
      obtain rfl : other = packetId := Option.some.inj hsome
      exact hparse
  | _ => simp [Response.type] at htype

theorem parse_pingresp (buffer : Memory) :
    parseBuffer (buffer.write makePingrespMessage) makePingrespMessage.length = some .pingresp := by
  have hbytes := Memory.holds_write buffer makePingrespMessage
  generalize buffer.write _ = memory at hbytes ⊢
  have hfirst : memory 0 = 0xD0 := hbytes 0 (by decide)
  have hlength : memory 1 = 0 := hbytes 1 (by decide)
  have hsize : (decodeSize 1 2).eval memory = (some 0, 1) := by
    rw [decodeSize]
    simp only [Interaction.eval_bind]
    rw [eval_decodeSizeLoop_last (by decide) (by rw [hlength]; decide), hlength]
    rfl
  change (deserializeResponse 2).eval memory = _
  rw [deserializeResponse]
  simp only [Interaction.eval_bind, eval_readByte, hsize, hfirst]
  rfl

/-- What comes off the socket for a packet is the packet. -/
theorem carried_parse {packet : BrokerPacket} (hreceivable : packet.Receivable) (buffer : Memory) :
    ∃ resp, parseBuffer (buffer.write packet.frame) packet.frame.length = some resp ∧
      packet.Carried (buffer.write packet.frame, resp) := by
  have hid := hreceivable.packetId
  cases packet with
  | publish sent packetId =>
      obtain ⟨hqos, htopic⟩ := hreceivable.publish sent packetId rfl
      have hfits : (sent.frame packetId).length ≤ 1024 :=
        le_trans hreceivable.short (show 129 ≤ 1024 by decide)
      obtain ⟨data, hparse, hmeant⟩ :=
        meant_publish buffer (rfl : _ = sent.frame packetId) hqos htopic hid hfits
      exact ⟨.publish data, hparse, data, rfl, hmeant⟩
  | pubrel packetId => exact ⟨.pubrel packetId, parse_pubrel buffer hid, rfl⟩
  | puback packetId =>
      have hheader : (UInt8.ofNat (packMessageType .puback)).toNat >>> 4
          = MessageType.puback.code := by decide
      exact parse_acknowledgement buffer (by simp) (by simp) hheader hid
  | pubrec packetId =>
      have hheader : (UInt8.ofNat (packMessageType .pubrec)).toNat >>> 4
          = MessageType.pubrec.code := by decide
      exact parse_acknowledgement buffer (by simp) (by simp) hheader hid
  | pubcomp packetId =>
      have hheader : (UInt8.ofNat (packMessageType .pubcomp)).toNat >>> 4
          = MessageType.pubcomp.code := by decide
      exact parse_acknowledgement buffer (by simp) (by simp) hheader hid
  | pingresp => exact ⟨.pingresp, parse_pingresp buffer, by simp, by simp⟩

theorem takePacket_frame {packet : BrokerPacket} (hreceivable : packet.Receivable)
    (rest : List UInt8) : takePacket (packet.frame ++ rest) = some (packet.frame, rest) :=
  MakeMessage.delimits_of_short hreceivable.short rest

theorem length_frame_pos {packet : BrokerPacket} (hreceivable : packet.Receivable) :
    0 < packet.frame.length := by
  obtain ⟨header, length, body, -, hframe, -⟩ :=
    takePacket_eq_some.mp (takePacket_frame hreceivable [])
  rw [hframe]
  exact Nat.succ_pos _

/-! ### What is seen of the packets -/

/-- The packets have come in one after the other. -/
inductive Told : List BrokerPacket → List Inbound → Prop
  | nil : Told [] []
  | concat {packets : List BrokerPacket} {history : List Inbound} {packet : BrokerPacket}
      {inbound : Inbound} (htold : Told packets history) (hcarried : packet.Carried inbound) :
      Told (packets ++ [packet]) (history ++ [inbound])

theorem Told.of_concat {packets : List BrokerPacket} {history : List Inbound} {inbound : Inbound}
    (htold : Told packets (history ++ [inbound])) :
    ∃ before packet, packets = before ++ [packet] ∧ Told before history ∧
      packet.Carried inbound := by
  generalize hwhole : history ++ [inbound] = whole at htold
  cases htold with
  | nil => simp at hwhole
  | concat hbefore hcarried =>
      obtain ⟨rfl, hlast⟩ := List.append_inj' hwhole rfl
      obtain rfl := List.singleton_inj.mp hlast
      exact ⟨_, _, rfl, hbefore, hcarried⟩

theorem pending_concat_of_carried {packet : BrokerPacket} {inbound : Inbound}
    {history : List Inbound} (hcarried : packet.Carried inbound) :
    pending (history ++ [inbound]) = packet.store (pending history) := by
  obtain ⟨buffer, resp⟩ := inbound
  rw [pending_concat]
  cases packet with
  | publish sent packetId =>
      obtain ⟨data, rfl, hmeant⟩ := hcarried
      dsimp only
      rw [hmeant.qos, hmeant.packetId, read_of_meant hmeant, store]
      by_cases htwo : sent.qos = QoS2
      · have hzero : ¬ QoS2 = QoS0 := by decide
        rw [htwo, if_pos rfl, if_pos rfl, if_neg hzero]
      · rw [if_neg htwo, if_neg htwo]
  | pubrel packetId =>
      obtain rfl : resp = .pubrel packetId := hcarried
      rfl
  | _ =>
      obtain ⟨hpublish, hpubrel⟩ := hcarried
      cases resp with
      | publish data => exact absurd rfl (hpublish data)
      | pubrel packetId => exact absurd rfl (hpubrel packetId)
      | _ => rfl

end BrokerPacket

def Observation.message : Observation → Option Message
  | delivered message => some message
  | _ => none

namespace BrokerPacket

theorem reaction_of_carried {packet : BrokerPacket} {inbound : Inbound} {history : List Inbound}
    (hreceivable : packet.Receivable) (hcarried : packet.Carried inbound) :
    (reaction history inbound).filterMap Observation.message
      = packet.shows (pending history) := by
  obtain ⟨buffer, resp⟩ := inbound
  cases packet with
  | publish sent packetId =>
      obtain ⟨hqos, -⟩ := hreceivable.publish sent packetId rfl
      obtain ⟨data, rfl, hmeant⟩ := hcarried
      dsimp only [reaction]
      rw [hmeant.qos, read_of_meant hmeant, shows]
      obtain hzero | hone | htwo := qos_cases hqos
      · rw [hzero]
        rfl
      · rw [hone]
        rfl
      · rw [htwo]
        rfl
  | pubrel packetId =>
      obtain rfl : resp = .pubrel packetId := hcarried
      dsimp only [reaction]
      rw [shows]
      cases pending history packetId <;> rfl
  | _ =>
      obtain ⟨hpublish, hpubrel⟩ := hcarried
      cases resp with
      | publish data => exact absurd rfl (hpublish data)
      | pubrel packetId => exact absurd rfl (hpubrel packetId)
      | _ => rfl

theorem Told.pending_eq {packets : List BrokerPacket} {history : List Inbound}
    (htold : Told packets history) : pending history = keptBy packets := by
  induction htold with
  | nil => rfl
  | concat _ hcarried ih => rw [pending_concat_of_carried hcarried, ih, keptBy_concat]

theorem Told.shown_eq {packets : List BrokerPacket} {history : List Inbound}
    (htold : Told packets history) (hreceivable : ∀ packet ∈ packets, packet.Receivable) :
    (expected history).filterMap Observation.message = shownBy packets := by
  induction htold with
  | nil => rfl
  | concat hbefore hcarried ih =>
      obtain ⟨hpackets, hpacket⟩ := List.forall_mem_append.mp hreceivable
      rw [expected_concat, List.filterMap_append, ih hpackets, List.filterMap_cons_none rfl,
        reaction_of_carried (hpacket _ List.mem_cons_self) hcarried, hbefore.pending_eq,
        shownBy_concat]

end BrokerPacket

/-! ### The session thread on a stream -/

variable {Tid : Type}

/-- A system, and the bytes that are still to come from its broker. -/
structure Online (Tid : Type) where
  system : System Tid
  incoming : List UInt8

/-- What a thread does, but for `server_receive`, which has only the outcome of its `select` left to
the environment. -/
inductive OnlineLabel (Tid : Type) where
  | act (label : Label Tid)
  | receive (ready : Bool)

def Label.receives : Label Tid → Bool
  | sessionReceive _ _ _ => true
  | _ => false

/-- How many steps there are at most to the next reception. -/
def SessionPc.stepsToReceive : SessionPc → Nat
  | requeueing _ => 1
  | sending _ => 2
  | top => 3
  | registering _ => 4
  | replying _ => 5
  | handling _ => 6
  | _ => 0

def OnlineLabel.isSession : OnlineLabel Tid → Bool
  | act label => label.isSession
  | receive _ => true

/-- Publishes and pings with a callback, and successful sends. -/
def OnlineLabel.plain : OnlineLabel Tid → Bool
  | act label => label.answered && label.acknowledges
  | receive _ => true

namespace Online

variable [DecidableEq Tid] (shortfall : Shortfall)

/-- A packet is parsed if there is one. -/
def receive (online : Online Tid) (ready : Bool) : Option (Online Tid) :=
  let ((size, buffer), incoming) := (networkReceive online.system.client.receiveBuffer).run
    (streamSocket shortfall ready) online.incoming
  let resp := if 0 < size then parseBuffer buffer size else none
  (online.system.step (.sessionReceive buffer size resp)).map fun system => ⟨system, incoming⟩

def step (online : Online Tid) : OnlineLabel Tid → Option (Online Tid)
  | .act label =>
      if label.receives then none
      else (online.system.step label).map fun system => { online with system }
  | .receive ready => online.receive shortfall ready

omit [DecidableEq Tid] in
/-- A client that is connected, with what its broker will send. -/
def start (uninitialised : Client) (callback msgCbContext : Nat) (bufferCount : UInt16)
    (bufferSize : Nat) (packets : List BrokerPacket) : Online Tid where
  system := .init (connectedClient uninitialised (some callback) msgCbContext) bufferCount
    bufferSize
  incoming := packets.flatMap BrokerPacket.frame

omit [DecidableEq Tid] in
/-- Some packets have been received as they were meant, and the others are still in the stream. -/
structure Reading (packets : List BrokerPacket) (online : Online Tid) : Prop where
  delivering : online.system.Delivering
  split : ∃ taken left, packets = taken ++ left ∧
    online.incoming = left.flatMap BrokerPacket.frame ∧
    BrokerPacket.Told taken online.system.inbound

end Online

namespace System

variable [DecidableEq Tid] {system next : System Tid}

/-- Only a reception brings a packet. -/
theorem inbound_step {label : Label Tid} (hlabel : label.receives = false)
    (hstep : system.step label = some next) : next.inbound = system.inbound := by
  cases label with
  | sessionTop =>
      obtain ⟨-, -, rfl⟩ := step_sessionTop.mp hstep
      obtain ⟨-, htop⟩ | ⟨-, -, htop⟩ | ⟨slot, rest, -, -, htop⟩ := system.sessionTop_cases
      · rw [htop]
        rfl
      · rw [htop]
        rfl
      · rw [htop]
        rfl
  | sessionSend sent =>
      obtain ⟨slot, -, rfl⟩ := step_sessionSend.mp hstep
      exact inbound_log rfl
  | sessionRequeue =>
      obtain ⟨slot, -, -, rfl⟩ := step_sessionRequeue.mp hstep
      rfl
  | sessionReceive buffer size resp => cases hlabel
  | sessionHandle =>
      obtain ⟨resp, -, -, rfl⟩ := step_sessionHandle.mp hstep
      exact inbound_log (handleResponse_outcome system.client resp).inbound_eq_nil
  | sessionReply sent =>
      obtain ⟨reply, -, rfl⟩ := step_sessionReply.mp hstep
      apply inbound_log
      rw [List.filterMap_cons_none rfl]
      exact (afterReply_outcome _ reply sent).inbound_eq_nil
  | sessionRegister =>
      obtain ⟨waiting, -, -, rfl⟩ := step_sessionRegister.mp hstep
      rfl
  | _ =>
      obtain ⟨-, -, -, -, -, events, hevents, hapi⟩ :=
        apiFrame_step (by simp [Label.isSession]) hstep
      have hnil : events.filterMap Event.inbound = [] :=
        List.filterMap_eq_nil_iff.mpr fun event hmem =>
          (Event.observation_of_api (hapi event hmem)).1
      simp [inbound, hevents, hnil]

end System

namespace Online

variable [DecidableEq Tid] {shortfall : Shortfall} {packets : List BrokerPacket}
  {online next : Online Tid}

theorem Reading.act {label : Label Tid} (hreading : online.Reading packets)
    (hplain : (OnlineLabel.act label).plain)
    (hstep : online.step shortfall (.act label) = some next) : next.Reading packets := by
  obtain ⟨hreceives, hsome⟩ : label.receives = false ∧
      (online.system.step label).map (fun system => { online with system }) = some next := by
    simpa [step] using hstep
  obtain ⟨system, hsystem, rfl⟩ := Option.map_eq_some_iff.mp hsome
  obtain ⟨hanswered, hacknowledges⟩ := Bool.and_eq_true_iff.mp hplain
  have hscope : online.system.deliveryScope label := by
    cases label with
    | sessionReceive buffer size resp => cases hreceives
    | _ =>
        simpa [System.deliveryScope, Label.decodes, System.unrepeated]
          using ⟨hanswered, hacknowledges⟩
  obtain ⟨taken, left, hpackets, hincoming, htold⟩ := hreading.split
  refine ⟨System.delivering_step hreading.delivering hscope hsystem, taken, left, hpackets,
    hincoming, ?_⟩
  rwa [System.inbound_step hreceives hsystem]

/-- A call that gets nothing. -/
theorem Reading.receive_nothing {buffer : Memory} {size : Int} {resp : Option Response}
    {system : System Tid} (hreading : online.Reading packets) (hsize : ¬ 0 < size)
    (hresp : resp = none)
    (hstep : online.system.step (.sessionReceive buffer size resp) = some system) :
    Reading packets ⟨system, online.incoming⟩ := by
  subst hresp
  obtain ⟨hpc, rfl⟩ := System.step_sessionReceive.mp hstep
  have hscope : online.system.deliveryScope (.sessionReceive buffer size none) := by
    simp [System.deliveryScope, Label.answered, Label.decodes, Label.acknowledges,
      System.unrepeated, hsize]
  obtain ⟨taken, left, hpackets, hincoming, htold⟩ := hreading.split
  have hinbound : (online.system.sessionReceive buffer size none).inbound
      = online.system.inbound := by
    rw [System.sessionReceive_of_nothing hsize]
    rfl
  refine ⟨System.delivering_step hreading.delivering hscope hstep, taken, left, hpackets,
    hincoming, ?_⟩
  rwa [hinbound]

omit [DecidableEq Tid] in
/-- A message at QoS 2 comes under an id that is free. -/
theorem unrepeated_of_carried {system : System Tid} {taken left : List BrokerPacket}
    {packet : BrokerPacket} {buffer : Memory} {resp : Response} (size : Int)
    (hunrepeated : BrokerPacket.Unrepeated (taken ++ packet :: left))
    (htold : BrokerPacket.Told taken system.inbound) (hcarried : packet.Carried (buffer, resp)) :
    system.unrepeated (.sessionReceive buffer size (some resp)) := by
  cases resp with
  | publish data =>
      apply decide_eq_true
      intro hqos
      cases packet with
      | publish sent packetId =>
          obtain ⟨data, hdata, hmeant⟩ := hcarried
          obtain rfl := Response.publish.inj hdata
          have htwo : sent.qos = QoS2 := hmeant.qos.symm.trans hqos
          have hzero : ¬ QoS2 = QoS0 := by decide
          rw [htold.pending_eq, hmeant.packetId, htwo, if_neg hzero]
          exact hunrepeated.fresh htwo
      | pubrel packetId => cases hcarried
      | _ => exact absurd rfl (hcarried.1 data)
  | _ => rfl

theorem Reading.receive_packet {taken left : List BrokerPacket} {packet : BrokerPacket}
    {system : System Tid} (hdelivering : online.system.Delivering)
    (hunrepeated : BrokerPacket.Unrepeated (taken ++ packet :: left))
    (htold : BrokerPacket.Told taken online.system.inbound) (hreceivable : packet.Receivable)
    (hstep : online.system.step (.sessionReceive
      (online.system.client.receiveBuffer.write packet.frame) packet.frame.length
      (parseBuffer (online.system.client.receiveBuffer.write packet.frame) packet.frame.length))
        = some system) :
    Reading (taken ++ packet :: left) ⟨system, left.flatMap BrokerPacket.frame⟩ := by
  obtain ⟨resp, hparse, hcarried⟩ :=
    BrokerPacket.carried_parse hreceivable online.system.client.receiveBuffer
  have hpositive : (0 : Int) < packet.frame.length :=
    Int.natCast_pos.mpr (BrokerPacket.length_frame_pos hreceivable)
  have hscope : online.system.deliveryScope (.sessionReceive
      (online.system.client.receiveBuffer.write packet.frame) packet.frame.length (some resp)) := by
    simp only [System.deliveryScope, Bool.and_eq_true]
    refine ⟨⟨⟨decide_eq_true fun _ => rfl, decide_eq_true fun _ => ?_⟩, rfl⟩,
      unrepeated_of_carried _ hunrepeated htold hcarried⟩
    exact hparse.symm
  rw [hparse] at hstep
  obtain ⟨hpc, rfl⟩ := System.step_sessionReceive.mp hstep
  refine ⟨System.delivering_step hdelivering hscope hstep, taken ++ [packet], left, by simp, rfl,
    ?_⟩
  rw [System.sessionReceive_of_packet hpositive]
  have hinbound (events : List Event) (buffer : Memory) :
      (events ++ [Event.received buffer resp]).filterMap Event.inbound
        = events.filterMap Event.inbound ++ [(buffer, resp)] := by
    rw [List.filterMap_append]
    rfl
  unfold System.inbound
  rw [hinbound]
  exact htold.concat hcarried

omit [DecidableEq Tid] in
theorem run_networkReceive_empty (hquiet : ∀ count, shortfall [] count = (none, []))
    (buffer : Memory) : (networkReceive buffer).run (streamSocket shortfall true) []
      = ((0, buffer), []) := by
  simp [networkReceive, select, recv, streamSocket, hquiet]

theorem Reading.receive {ready : Bool} (hquiet : ∀ count, shortfall [] count = (none, []))
    (hunrepeated : BrokerPacket.Unrepeated packets)
    (hreceivable : ∀ packet ∈ packets, packet.Receivable) (hreading : online.Reading packets)
    (hstep : online.step shortfall (.receive ready) = some next) : next.Reading packets := by
  have hreceive : online.receive shortfall ready = some next := hstep
  obtain ⟨taken, left, hpackets, hincoming, htold⟩ := hreading.split
  have hnothing (hrun : (networkReceive online.system.client.receiveBuffer).run
      (streamSocket shortfall ready) online.incoming
        = ((0, online.system.client.receiveBuffer), online.incoming)) : next.Reading packets := by
    rw [Online.receive, hrun] at hreceive
    obtain ⟨system, hsystem, rfl⟩ := Option.map_eq_some_iff.mp hreceive
    exact hreading.receive_nothing (lt_irrefl 0) (if_neg (lt_irrefl 0)) hsystem
  cases ready with
  | false => exact hnothing (run_networkReceive_unready online.incoming)
  | true =>
      cases left with
      | nil =>
          rw [List.flatMap_nil] at hincoming
          apply hnothing
          rw [hincoming]
          exact run_networkReceive_empty hquiet _
      | cons packet left =>
          have hpacket : packet.Receivable := hreceivable packet (by simp [hpackets])
          rw [List.flatMap_cons] at hincoming
          have hrun := networkReceive_takePacket shortfall online.system.client.receiveBuffer
            (BrokerPacket.takePacket_frame hpacket (left.flatMap BrokerPacket.frame))
          have hpositive : (0 : Int) < packet.frame.length :=
            Int.natCast_pos.mpr (BrokerPacket.length_frame_pos hpacket)
          rw [Online.receive, hincoming, hrun] at hreceive
          dsimp only at hreceive
          rw [if_pos hpositive] at hreceive
          obtain ⟨system, hsystem, rfl⟩ := Option.map_eq_some_iff.mp hreceive
          subst hpackets
          exact receive_packet hreading.delivering hunrepeated htold hpacket hsystem

theorem Reading.step {label : OnlineLabel Tid}
    (hquiet : ∀ count, shortfall [] count = (none, []))
    (hunrepeated : BrokerPacket.Unrepeated packets)
    (hreceivable : ∀ packet ∈ packets, packet.Receivable) (hreading : online.Reading packets)
    (hplain : label.plain) (hstep : online.step shortfall label = some next) :
    next.Reading packets := by
  cases label with
  | act label => exact hreading.act hplain hstep
  | receive ready => exact hreading.receive hquiet hunrepeated hreceivable hstep

omit [DecidableEq Tid] in
theorem deliveries_eq (system : System Tid) :
    system.deliveries = system.observed.filterMap Observation.message := by
  rw [System.deliveries, System.observed, List.filterMap_filterMap]
  congr 1
  funext event
  cases event with
  | replied reply sent => cases reply <;> rfl
  | _ => rfl

/-- Where a subscriber stands in the stream: some packets have been handled, one may be in hand, and
the others are still to come. What has been shown is what the first bring. -/
def Shows (packets : List BrokerPacket) (online : Online Tid) : Prop :=
  ∃ (handled : List BrokerPacket) (current : Option BrokerPacket) (left : List BrokerPacket),
    packets = handled ++ current.toList ++ left ∧
    online.incoming = left.flatMap BrokerPacket.frame ∧
    online.system.deliveries = BrokerPacket.shownBy handled ∧
    (current.isSome ↔ online.system.session.handles)

omit [DecidableEq Tid] in
theorem Reading.shows (hreceivable : ∀ packet ∈ packets, packet.Receivable)
    (hreading : online.Reading packets) : online.Shows packets := by
  obtain ⟨taken, left, hpackets, hincoming, htold⟩ := hreading.split
  obtain ⟨history, current, hinbound, hobserved, hhandles⟩ :=
    hreading.delivering.position.asExpected
  have htaken : ∀ packet ∈ taken, packet.Receivable :=
    fun packet hmem => hreceivable packet (by simp [hpackets, hmem])
  have hdeliveries : online.system.deliveries
      = (expected history).filterMap Observation.message := by
    rw [deliveries_eq, hobserved, List.filterMap_append]
    cases current <;> exact List.append_nil _
  cases current with
  | none =>
      rw [Option.toList_none, List.append_nil] at hinbound
      rw [hinbound] at htold
      refine ⟨taken, none, left, ?_, hincoming, hdeliveries.trans (htold.shown_eq htaken), hhandles⟩
      rw [hpackets, Option.toList_none, List.append_nil]
  | some inbound =>
      rw [hinbound] at htold
      obtain ⟨before, packet, rfl, hbefore, -⟩ := htold.of_concat
      have hshown := hbefore.shown_eq (List.forall_mem_append.mp htaken).1
      exact ⟨before, some packet, left, hpackets, hincoming, hdeliveries.trans hshown, hhandles⟩

omit [DecidableEq Tid] in
/-- Nobody keeps the session thread from going on. -/
structure Free (packets : List BrokerPacket) (online : Online Tid) : Prop where
  reading : online.Reading packets
  mutex : online.system.mutex = none
  ready : online.system.client.readyToDisconnect = false
  session : online.system.session ≠ .ended

omit [DecidableEq Tid] in
theorem Free.receiving (hfree : online.Free packets)
    (hpc : online.system.session.stepsToReceive = 0) : online.system.session = .receiving := by
  have hsound := hfree.reading.delivering.sound.session
  cases hsession : online.system.session with
  | receiving => rfl
  | ended => exact absurd hsession hfree.session
  | crashed =>
      rw [hsession] at hsound
      exact hsound.elim
  | _ => simp [hsession, SessionPc.stepsToReceive] at hpc

theorem Free.step {label : OnlineLabel Tid}
    (hquiet : ∀ count, shortfall [] count = (none, []))
    (hunrepeated : BrokerPacket.Unrepeated packets)
    (hreceivable : ∀ packet ∈ packets, packet.Receivable) (hfree : online.Free packets)
    (hplain : label.plain) (hstep : online.step shortfall label = some next)
    (hmutex : next.system.mutex = online.system.mutex)
    (hready : next.system.client.readyToDisconnect = online.system.client.readyToDisconnect)
    (hsession : next.system.session ≠ .ended) : next.Free packets where
  reading := hfree.reading.step hquiet hunrepeated hreceivable hplain hstep
  mutex := hmutex.trans hfree.mutex
  ready := hready.trans hfree.ready
  session := hsession

end Online

end Smqtt
