import Smqtt.Proof.ConnectFrame

/-!
# Frames that say where they end

Every encoder writes a header byte, a length and a body. The length is a sum of its own, kept in
another type than the body takes, and `encode_size` cuts it off at four bytes without anyone looking
at its result. A frame delimits itself if the length can be read and is that of the body.
-/

namespace Smqtt

/-- As many results as a `uint16_t` can count. -/
abbrev SubResults := { results : List SubResult // results.length < 2 ^ 16 }

/-- A call of one of the encoders, with whatever it can be given. -/
inductive MakeMessage where
  | connect (clientId : CString) (user pw : Option CString) (keepAliveSec : UInt8)
      (cleanSession : Bool) (willQos : QoS) (willRetain : Bool) (will : Option Will)
  | connack (type : UInt8)
  | disconnect
  | publish (topic : CString) (packetId : UInt16) (qos : QoS) (retain : Bool) (msg : Option CString)
  | puback (packetId : UInt16)
  | pubrec (packetId : UInt16)
  | pubrel (packetId : UInt16)
  | pubcomp (packetId : UInt16)
  | subscribe (packetId : UInt16) (topics : List (CString × QoS))
  | suback (packetId : UInt16) (results : SubResults)
  | unsubscribe (packetId : UInt16) (topics : List CString)
  | unsuback (packetId : UInt16)
  | pingreq
  | pingresp

namespace MakeMessage

/-- What stands in the buffer afterwards; its length is the size that is returned. -/
def frame : MakeMessage → List UInt8
  | connect clientId user pw keepAliveSec cleanSession willQos willRetain will =>
      makeConnectMessage clientId user pw keepAliveSec cleanSession willQos willRetain will
  | connack type => makeConnackMessage type
  | disconnect => makeDisconnectMessage
  | publish topic packetId qos retain msg => makePublishMessage topic packetId qos retain msg
  | puback packetId => makePubackMessage packetId
  | pubrec packetId => makePubrecMessage packetId
  | pubrel packetId => makePubrelMessage packetId
  | pubcomp packetId => makePubcompMessage packetId
  | subscribe packetId topics => makeSubscribeMessage packetId topics
  | suback packetId results => makeSubackMessage packetId results.1
  | unsubscribe packetId topics => makeUnsubscribeMessage packetId topics
  | unsuback packetId => makeUnsubackMessage packetId
  | pingreq => makePingreqMessage
  | pingresp => makePingrespMessage

/-- How much is to be written behind the length. -/
def bodySize : MakeMessage → Nat
  | connect clientId user pw _ _ _ _ will =>
      8 + strlen protocolName + strlen clientId + willLen will + optionalLen user + optionalLen pw
  | connack _ => 2
  | publish topic _ qos _ msg =>
      2 + strlen topic + (if QoS1 ≤ qos then 2 else 0) + msg.elim 0 strlen
  | puback _ => 2
  | pubrec _ => 2
  | pubrel _ => 2
  | pubcomp _ => 2
  | subscribe _ topics => 2 + topicsSize (topics.map Prod.fst) 1
  | suback _ results => 2 + results.1.length
  | unsubscribe _ topics => 2 + topicsSize topics 0
  | unsuback _ => 2
  | disconnect => 0
  | pingreq => 0
  | pingresp => 0

/-- The length that is announced: the message of a PUBLISH and the topics of a list are added up in a
`uint16_t`. -/
def declared : MakeMessage → Nat
  | publish topic _ qos _ msg =>
      2 + strlen topic + (if QoS1 ≤ qos then 2 else 0) + (msg.elim 0 strlen) % 2 ^ 16
  | subscribe _ topics => 2 + topicsSize (topics.map Prod.fst) 1 % 2 ^ 16
  | unsubscribe _ topics => 2 + topicsSize topics 0 % 2 ^ 16
  | message => message.bodySize

theorem makeIdMessage_frame (header : Nat) (packetId : UInt16) :
    makeIdMessage header packetId
      = UInt8.ofNat header :: ((encodeSize 2).2 ++ [0, UInt8.ofNat packetId.toNat]) := by
  simp [makeIdMessage, serLen]

theorem makeConnackMessage_frame (type : UInt8) :
    makeConnackMessage type
      = UInt8.ofNat (packMessageType .connack) :: ((encodeSize 2).2 ++ [0, type]) := by
  simp [makeConnackMessage, serLen]

theorem makeDisconnectMessage_frame :
    makeDisconnectMessage
      = UInt8.ofNat (packMessageType .disconnect) :: ((encodeSize 0).2 ++ []) := by
  decide

theorem makePingMessage_frame (type : MessageType) :
    makePingMessage type = UInt8.ofNat (packMessageType type) :: ((encodeSize 0).2 ++ []) := by
  simp [makePingMessage, serLen]

/-- All frames are laid out in the same way. -/
theorem frame_eq (message : MakeMessage) : ∃ header body,
    message.frame = header :: ((encodeSize message.declared).2 ++ body) ∧
      body.length = message.bodySize := by
  cases message with
  | connect clientId user pw keepAliveSec cleanSession willQos willRetain will =>
      have hlength := length_connectBody clientId user pw keepAliveSec cleanSession willQos willRetain
        will
      refine ⟨0x10, connectBody clientId user pw keepAliveSec cleanSession willQos willRetain will, ?_,
        hlength⟩
      rw [frame, makeConnectMessage_eq, hlength]
      rfl
  | publish topic packetId qos retain msg =>
      refine ⟨_, _, makePublishMessage_frame topic packetId qos retain msg, ?_⟩
      rw [length_topicFrame, List.length_append, bodySize, ← Nat.add_assoc]
      congr 1
      · split <;> rfl
      · cases msg <;> rfl
  | subscribe packetId topics =>
      refine ⟨_, _, makeSubscribeMessage_eq packetId topics, ?_⟩
      rw [List.length_cons, List.length_cons,
        length_topicFrames Prod.fst (fun topic : CString × QoS => [UInt8.ofNat topic.2.toNat]) 1
          (fun _ => rfl)]
      exact Nat.add_comm _ 2
  | suback packetId results =>
      refine ⟨_, _, makeSubackMessage_frame packetId results.1, ?_⟩
      rw [List.length_cons, List.length_cons, List.length_map]
      exact Nat.add_comm _ 2
  | unsubscribe packetId topics =>
      refine ⟨_, _, makeUnsubscribeMessage_eq packetId topics, ?_⟩
      rw [List.length_cons, List.length_cons,
        length_topicFrames (fun topic => topic) (fun _ => []) 0 (fun _ => rfl), List.map_id']
      exact Nat.add_comm _ 2
  | puback packetId => exact ⟨_, _, makeIdMessage_frame _ packetId, rfl⟩
  | pubrec packetId => exact ⟨_, _, makeIdMessage_frame _ packetId, rfl⟩
  | pubrel packetId => exact ⟨_, _, makeIdMessage_frame _ packetId, rfl⟩
  | pubcomp packetId => exact ⟨_, _, makeIdMessage_frame _ packetId, rfl⟩
  | unsuback packetId => exact ⟨_, _, makeIdMessage_frame _ packetId, rfl⟩
  | connack type => exact ⟨_, _, makeConnackMessage_frame type, rfl⟩
  | disconnect => exact ⟨_, [], makeDisconnectMessage_frame, rfl⟩
  | pingreq => exact ⟨_, [], makePingMessage_frame .pingreq, rfl⟩
  | pingresp => exact ⟨_, [], makePingMessage_frame .pingresp, rfl⟩

/-- The length can be read, and with it the frame ends where the encoder says. -/
def DelimitsItself (message : MakeMessage) (behind : Memory) : Prop :=
  ∃ size used, (decodeSize 1 message.frame.length).eval (behind.write message.frame)
      = (some size, used) ∧
    message.frame.length = 1 + used + size

end MakeMessage

/-! ### The length -/

/-- A size that does not fit is cut off behind four bytes, the last of which announces another. -/
theorem encodeSizeLoop_overflow {fuel size : Nat} (hsize : 128 ^ fuel ≤ size) :
    (encodeSizeLoop fuel size).2.length = fuel ∧
      ∀ byte ∈ (encodeSizeLoop fuel size).2, 128 ≤ byte.toNat := by
  induction fuel generalizing size with
  | zero => exact ⟨rfl, by simp [encodeSizeLoop]⟩
  | succ fuel ih =>
      have hquotient : 128 ^ fuel ≤ size / 128 := by
        rwa [Nat.le_div_iff_mul_le (by omega), ← Nat.pow_succ]
      have hpos : 0 < size / 128 := (Nat.pow_pos (by omega)).trans_le hquotient
      have hdigit : size % 128 ||| 0x80 = size % 128 + 128 := digit_or_high (by omega)
      obtain ⟨hlength, hhigh⟩ := ih hquotient
      simp only [encodeSizeLoop, gt_iff_lt, hpos, if_true, hdigit, if_neg (Nat.pos_iff_ne_zero.mp hpos),
        List.length_cons, hlength, List.forall_mem_cons, true_and]
      refine ⟨?_, hhigh⟩
      rw [UInt8.toNat_ofNat']
      omega

theorem encodeSize_overflow {size : Nat} (hsize : Wire.lengthLimit ≤ size) :
    (encodeSize size).2.length = 4 ∧ ∀ byte ∈ (encodeSize size).2, 128 ≤ byte.toNat :=
  @encodeSizeLoop_overflow 4 size hsize

theorem decodeSize_overflow {memory : Memory} {length size : Nat}
    (hsize : Wire.lengthLimit ≤ size) (hholds : memory.Holds 1 (encodeSize size).2)
    (hlength : 4 ≤ length) : ((decodeSize 1 length).eval memory).1 = none := by
  obtain ⟨hfour, hhigh⟩ := encodeSize_overflow hsize
  rw [← Option.not_isSome_iff_eq_none, isSome_decodeSize, not_not]
  refine ⟨hlength, fun index hindex => ?_⟩
  rw [hholds index (hfour.symm ▸ hindex)]
  exact hhigh _ (List.getElem_mem _)

/-- What a reader makes of a header byte, a length and a body. -/
theorem delimits_iff {frame body : List UInt8} {header : UInt8} {declared : Nat}
    (hframe : frame = header :: ((encodeSize declared).2 ++ body)) (behind : Memory) :
    (∃ size used, (decodeSize 1 frame.length).eval (behind.write frame) = (some size, used) ∧
      frame.length = 1 + used + size) ↔ declared < Wire.lengthLimit ∧ body.length = declared := by
  have hholds : (behind.write frame).Holds 1 (encodeSize declared).2 := by
    have hall := behind.holds_write frame
    rw [hframe, Memory.holds_cons, Memory.holds_append] at hall
    exact hframe ▸ hall.2.1
  have hlength : frame.length = 1 + ((encodeSize declared).2.length + body.length) := by
    rw [hframe, List.length_cons, List.length_append, Nat.add_comm]
  by_cases hdeclared : declared < Wire.lengthLimit
  · rw [encodeSize_snd hdeclared] at hholds hlength
    rw [eval_decodeSize_encode hdeclared hholds (by omega)]
    constructor
    · rintro ⟨size, used, heq, hsize⟩
      obtain ⟨hsame, rfl⟩ := Prod.mk.inj heq
      obtain rfl := Option.some.inj hsame
      exact ⟨hdeclared, by omega⟩
    · rintro ⟨-, hbody⟩
      exact ⟨_, _, rfl, by omega⟩
  · obtain ⟨hfour, -⟩ := encodeSize_overflow (not_lt.mp hdeclared)
    have hnone := decodeSize_overflow (not_lt.mp hdeclared) hholds
      (by omega : 4 ≤ frame.length)
    refine iff_of_false ?_ fun hboth => hdeclared hboth.1
    rintro ⟨size, used, heq, -⟩
    rw [heq] at hnone
    cases hnone

/-! ### The limits -/

/-- The sums that are kept in 16 bits do not wrap, and the body has a length that can be written. -/
def MakeMessage.FitsItsLength : MakeMessage → Prop
  | publish topic _ qos _ msg =>
      msg.elim 0 strlen < 65536 ∧
        2 + strlen topic + (if QoS1 ≤ qos then 2 else 0) + msg.elim 0 strlen < 2 ^ 28
  | subscribe _ topics => (topics.map fun topic => 2 + strlen topic.1 + 1).sum < 65536
  | unsubscribe _ topics => (topics.map fun topic => 2 + strlen topic).sum < 65536
  | connect clientId user pw _ _ _ _ will =>
      8 + strlen protocolName + strlen clientId + willLen will + optionalLen user + optionalLen pw
        < 2 ^ 28
  | _ => True

/-- A frame delimits itself exactly if its body fits into the length field. -/
theorem delimitsItself_iff (message : MakeMessage) (behind : Memory) :
    message.DelimitsItself behind ↔ message.FitsItsLength := by
  obtain ⟨header, body, hframe, hbody⟩ := message.frame_eq
  rw [MakeMessage.DelimitsItself, delimits_iff hframe, hbody]
  cases message with
  | publish topic packetId qos retain msg =>
      simp only [MakeMessage.declared, MakeMessage.bodySize, MakeMessage.FitsItsLength,
        Wire.lengthLimit]
      omega
  | subscribe packetId topics =>
      simp only [MakeMessage.declared, MakeMessage.bodySize, MakeMessage.FitsItsLength,
        Wire.lengthLimit, topicsSize, List.map_map, Function.comp_def]
      omega
  | unsubscribe packetId topics =>
      simp only [MakeMessage.declared, MakeMessage.bodySize, MakeMessage.FitsItsLength,
        Wire.lengthLimit, topicsSize, Nat.add_zero]
      omega
  | suback packetId results =>
      have hcount := results.2
      refine iff_of_true ⟨?_, rfl⟩ trivial
      change 2 + results.1.length < 2 ^ 28
      omega
  | _ => simp [MakeMessage.declared, MakeMessage.bodySize, MakeMessage.FitsItsLength, Wire.lengthLimit]

end Smqtt
