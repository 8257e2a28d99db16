import Smqtt.Messages
import Smqtt.Wire

/-!
# Where the encoders keep to the wire format

`MSB` casts to a byte before it masks, so the high byte of every 16-bit field is sent as zero, and
two of the lengths are accumulated in a `uint16_t`. An encoder's frame is the standard one exactly
when none of its fields needs that high byte and none of its lengths wraps.
-/

namespace Smqtt

/-! ### The serialization macros -/

@[simp]
theorem msb_eq_zero (value : Nat) : msb value = 0 := by
  have hshift : (value % 256) >>> 8 = 0 := by
    rw [Nat.shiftRight_eq_div_pow]
    omega
  rw [msb, Nat.shiftRight_and_distrib, hshift, Nat.zero_and]
  rfl

@[simp]
theorem lsb_eq (value : Nat) : lsb value = UInt8.ofNat value := by
  have hmask : (value % 256) &&& 0x00FF = value % 256 := by
    rw [show (0x00FF : Nat) = 2 ^ 8 - 1 from rfl, Nat.and_two_pow_sub_one_eq_mod]
    omega
  rw [lsb, hmask]
  apply UInt8.toNat_inj.mp
  simp

@[simp]
theorem written_cursorInit : cursorInit.written = [] := rfl

@[simp]
theorem written_serByte (cursor : Cursor) (byte : Nat) :
    (serByte cursor byte).written = cursor.written ++ [UInt8.ofNat byte] := rfl

@[simp]
theorem written_serShort (cursor : Cursor) (value : Nat) :
    (serShort cursor value).written = cursor.written ++ [0, UInt8.ofNat value] := by
  simp [serShort]

@[simp]
theorem written_serString (cursor : Cursor) (str : CString) :
    (serString cursor str).written = cursor.written ++ str.bytes := rfl

theorem digit_or_high {digit : Nat} (hdigit : digit < 128) : digit ||| 0x80 = digit + 128 := by
  rw [Nat.or_comm, show (0x80 : Nat) = 2 ^ 7 * 1 from rfl, ← Nat.two_pow_add_eq_or_of_lt hdigit]
  omega

theorem encodeSizeLoop_snd (fuel size : Nat) (hsize : size < 128 ^ fuel) :
    (encodeSizeLoop fuel size).2 = Base128.encode fuel size := by
  induction fuel generalizing size with
  | zero => rfl
  | succ fuel ih =>
      by_cases hlt : size < 128
      · have hquotient : size / 128 = 0 := by omega
        simp [encodeSizeLoop, Base128.encode_of_lt hlt, hquotient, Nat.mod_eq_of_lt hlt]
      · have hquotient : 0 < size / 128 := by omega
        have hbound : size / 128 < 128 ^ fuel := by
          rw [Nat.div_lt_iff_lt_mul (by omega), ← Nat.pow_succ]
          exact hsize
        have hdigit : size % 128 ||| 0x80 = size % 128 + 128 := digit_or_high (by omega)
        rw [Base128.encode_of_le (by omega)]
        simp only [encodeSizeLoop, gt_iff_lt, hquotient, if_true, hdigit,
          if_neg (Nat.pos_iff_ne_zero.mp hquotient), ih _ hbound]

theorem encodeSize_snd {size : Nat} (hsize : size < Wire.lengthLimit) :
    (encodeSize size).2 = Base128.encode 4 size :=
  encodeSizeLoop_snd 4 size (by simpa [Wire.lengthLimit] using hsize)

/-- A 16-bit field is sent right exactly when its high byte is zero. -/
theorem short_eq_iff {value : Nat} (hvalue : value < 2 ^ 16) (left right : List UInt8) :
    0 :: UInt8.ofNat value :: left = Wire.short value ++ right ↔ value < 256 ∧ left = right := by
  have hlow : UInt8.ofNat (value % 256) = UInt8.ofNat value := by
    apply UInt8.toNat_inj.mp
    simp
  have hhigh : (0 : UInt8) = UInt8.ofNat (value / 256) ↔ value < 256 := by
    rw [← UInt8.toNat_inj]
    simp only [UInt8.toNat_ofNat', UInt8.toNat_zero]
    omega
  simp only [Wire.short, List.cons_append, List.nil_append, List.cons.injEq, hlow, hhigh, true_and]

/-! ### The frames, written out -/

theorem written_foldl {α : Type} (ser : Cursor → α → Cursor) (bytes : α → List UInt8)
    (hser : ∀ cursor item, (ser cursor item).written = cursor.written ++ bytes item)
    (items : List α) (cursor : Cursor) :
    (items.foldl ser cursor).written = cursor.written ++ items.flatMap bytes := by
  induction items generalizing cursor with
  | nil => simp
  | cons item items ih => simp [ih, hser]

/-- What the encoders send for one topic, with the byte that may follow it. -/
def topicFrame (topic : CString) (last : List UInt8) : List UInt8 :=
  0 :: UInt8.ofNat (strlen topic) :: (topic.bytes ++ last)

/-- The sum of the sizes of the topics, before it is cut to 16 bits. -/
def topicsSize (topics : List CString) (extra : Nat) : Nat :=
  (topics.map fun topic => 2 + strlen topic + extra).sum

@[simp]
theorem length_topicFrame (topic : CString) (last : List UInt8) :
    (topicFrame topic last).length = 2 + strlen topic + last.length := by
  simp [topicFrame, strlen]
  omega

theorem length_topicFrames {α : Type} (name : α → CString) (last : α → List UInt8) (extra : Nat)
    (hlast : ∀ topic, (last topic).length = extra) (topics : List α) :
    (topics.flatMap fun topic => topicFrame (name topic) (last topic)).length
      = topicsSize (topics.map name) extra := by
  simp only [List.length_flatMap, length_topicFrame, hlast, topicsSize, List.map_map,
    Function.comp_def]

theorem getUtf8StringSize_eq (topics : List CString) (includeQos : Bool) :
    getUtf8StringSize topics includeQos
      = topicsSize topics (if includeQos then 1 else 0) % 2 ^ 16 := by
  have hfold : ∀ total, topics.foldl (fun total topic =>
      let total := (total + (2 + strlen topic)) % 2 ^ 16
      if includeQos then (total + 1) % 2 ^ 16 else total) (total % 2 ^ 16)
        = (total + topicsSize topics (if includeQos then 1 else 0)) % 2 ^ 16 := by
    induction topics with
    | nil => simp [topicsSize]
    | cons topic topics ih =>
        intro total
        have hnext := ih (total + (2 + strlen topic + if includeQos then 1 else 0))
        simp only [topicsSize, List.map_cons, List.sum_cons] at hnext ⊢
        rw [← Nat.add_assoc, ← hnext, List.foldl_cons]
        congr 1
        cases includeQos <;> simp only [if_true, Bool.false_eq_true, if_false] <;> omega
  simpa [getUtf8StringSize] using hfold 0

theorem makePublishMessage_frame (topic : CString) (packetId : UInt16) (qos : QoS) (retain : Bool)
    (msg : Option CString) :
    makePublishMessage topic packetId qos retain msg
      = UInt8.ofNat (packMessageType .publish ||| (qos.toNat <<< 1) % 2 ^ 32
          ||| (boolToBit retain &&& 0x1)) ::
        ((encodeSize (2 + strlen topic + (if QoS1 ≤ qos then 2 else 0)
            + (msg.elim 0 strlen) % 2 ^ 16)).2
          ++ topicFrame topic ((if QoS1 ≤ qos then [0, UInt8.ofNat packetId.toNat] else [])
            ++ msg.elim [] CString.bytes)) := by
  by_cases hqos : QoS1 ≤ qos <;> cases msg <;> simp [makePublishMessage, serLen, topicFrame, hqos]

theorem makePublishMessage_eq (topic : CString) (packetId : UInt16) (qos : Wire.Qos) (retain : Bool)
    (msg : Option CString) :
    makePublishMessage topic packetId (UInt32.ofNat qos.code) retain msg
      = Wire.fixedHeader 3 false qos.code retain ::
        ((encodeSize (2 + strlen topic + (if qos = .atMostOnce then 0 else 2)
            + (msg.elim 0 strlen) % 2 ^ 16)).2
          ++ topicFrame topic ((if qos = .atMostOnce then [] else [0, UInt8.ofNat packetId.toNat])
            ++ msg.elim [] CString.bytes)) := by
  rw [makePublishMessage_frame]
  cases qos <;> cases retain <;> rfl

theorem makeIdMessage_eq (header : Nat) (packetId : UInt16) :
    makeIdMessage header packetId = [UInt8.ofNat header, 2, 0, UInt8.ofNat packetId.toNat] := by
  simp [makeIdMessage, serLen, encodeSize, encodeSizeLoop]

theorem length_makeIdMessage (header : Nat) (packetId : UInt16) :
    (makeIdMessage header packetId).length = 4 := by
  rw [makeIdMessage_eq]
  rfl

theorem makeSubscribeMessage_eq (packetId : UInt16) (topics : List (CString × QoS)) :
    makeSubscribeMessage packetId topics
      = Wire.fixedHeader 8 false 1 false ::
        ((encodeSize (2 + topicsSize (topics.map Prod.fst) 1 % 2 ^ 16)).2
          ++ 0 :: UInt8.ofNat packetId.toNat ::
            topics.flatMap fun topic => topicFrame topic.1 [UInt8.ofNat topic.2.toNat]) := by
  have hfold := written_foldl
    (fun cursor (topic : CString × QoS) =>
      serByte (serString (serShort cursor (strlen topic.1)) topic.1) topic.2.toNat)
    (fun topic => topicFrame topic.1 [UInt8.ofNat topic.2.toNat])
    (by intro cursor topic; simp [topicFrame])
  simp only [makeSubscribeMessage, getUtf8StringSize_eq, hfold]
  simp [serLen, packMessageType, MessageType.code, QoS1, Wire.fixedHeader, Wire.bit]

theorem makeUnsubscribeMessage_eq (packetId : UInt16) (topics : List CString) :
    makeUnsubscribeMessage packetId topics
      = Wire.fixedHeader 10 false 1 false ::
        ((encodeSize (2 + topicsSize topics 0 % 2 ^ 16)).2
          ++ 0 :: UInt8.ofNat packetId.toNat :: topics.flatMap fun topic => topicFrame topic []) := by
  have hfold := written_foldl
    (fun cursor topic => serString (serShort cursor (strlen topic)) topic)
    (fun topic => topicFrame topic []) (by intro cursor topic; simp [topicFrame])
  simp only [makeUnsubscribeMessage, getUtf8StringSize_eq, hfold]
  simp [serLen, packMessageType, MessageType.code, QoS1, Wire.fixedHeader, Wire.bit]

/-- The success flag and the QoS of a result, as a grant or a refusal. -/
def grantOf (result : Bool × Wire.Qos) : Option Wire.Qos := if result.1 then some result.2 else none

theorem makeSubackMessage_frame (packetId : UInt16) (results : List SubResult) :
    makeSubackMessage packetId results
      = Wire.fixedHeader 9 false 0 false ::
        ((encodeSize (2 + results.length)).2
          ++ 0 :: UInt8.ofNat packetId.toNat :: results.map fun result =>
            UInt8.ofNat (if result.success then result.qos.toNat else 0x80)) := by
  have hfold := written_foldl
    (fun cursor (result : SubResult) =>
      serByte cursor (if result.success then result.qos.toNat else 0x80))
    (fun result => [UInt8.ofNat (if result.success then result.qos.toNat else 0x80)])
    (by intro cursor result; rfl)
  simp only [makeSubackMessage, hfold, ← List.map_eq_flatMap]
  simp [serLen, packMessageType, MessageType.code, Wire.fixedHeader, Wire.bit]

theorem makeSubackMessage_eq (packetId : UInt16) (results : List (Bool × Wire.Qos)) :
    makeSubackMessage packetId (results.map fun result => ⟨result.1, UInt32.ofNat result.2.code⟩)
      = Wire.fixedHeader 9 false 0 false ::
        ((encodeSize (2 + results.length)).2
          ++ 0 :: UInt8.ofNat packetId.toNat ::
            results.map fun result => Wire.grant (grantOf result)) := by
  have hgrant : ∀ result : Bool × Wire.Qos,
      UInt8.ofNat (if result.1 then (UInt32.ofNat result.2.code).toNat else 0x80)
        = Wire.grant (grantOf result) := by
    rintro ⟨success, qos⟩
    cases success <;> cases qos <;> rfl
  rw [makeSubackMessage_frame, List.length_map, List.map_map]
  simp only [Function.comp_def, hgrant]

/-! ### The calls -/

/-- A call of one of the encoders that carry a packet id, a topic or a payload. -/
inductive EncoderCall where
  | publish (topic : CString) (packetId : UInt16) (qos : Wire.Qos) (retain : Bool)
      (msg : Option CString)
  | subscribe (packetId : UInt16) (topics : List (CString × Wire.Qos))
  | unsubscribe (packetId : UInt16) (topics : List CString)
  | suback (packetId : UInt16) (results : List (Bool × Wire.Qos))
  | puback (packetId : UInt16)
  | pubrec (packetId : UInt16)
  | pubrel (packetId : UInt16)
  | pubcomp (packetId : UInt16)
  | unsuback (packetId : UInt16)

namespace EncoderCall

/-- The bytes the encoder produces. -/
def frame : EncoderCall → List UInt8
  | publish topic packetId qos retain msg =>
      makePublishMessage topic packetId (UInt32.ofNat qos.code) retain msg
  | subscribe packetId topics =>
      makeSubscribeMessage packetId (topics.map fun topic => (topic.1, UInt32.ofNat topic.2.code))
  | unsubscribe packetId topics => makeUnsubscribeMessage packetId topics
  | suback packetId results =>
      makeSubackMessage packetId (results.map fun result => ⟨result.1, UInt32.ofNat result.2.code⟩)
  | puback packetId => makePubackMessage packetId
  | pubrec packetId => makePubrecMessage packetId
  | pubrel packetId => makePubrelMessage packetId
  | pubcomp packetId => makePubcompMessage packetId
  | unsuback packetId => makeUnsubackMessage packetId

def delivery (packetId : UInt16) : Wire.Qos → Wire.Delivery
  | .atMostOnce => .atMostOnce
  | .atLeastOnce => .atLeastOnce packetId
  | .exactlyOnce => .exactlyOnce packetId

/-- The packet the caller asks for. -/
def packet : EncoderCall → Wire.Packet
  | publish topic packetId qos retain msg =>
      .publish false retain (delivery packetId qos) topic.bytes (msg.elim [] CString.bytes)
  | subscribe packetId topics =>
      .subscribe false packetId (topics.map fun topic => (topic.1.bytes, topic.2))
  | unsubscribe packetId topics => .unsubscribe false packetId (topics.map CString.bytes)
  | suback packetId results => .suback packetId (results.map grantOf)
  | puback packetId => .puback packetId
  | pubrec packetId => .pubrec packetId
  | pubrel packetId => .pubrel false packetId
  | pubcomp packetId => .pubcomp packetId
  | unsuback packetId => .unsuback packetId

/-- The strings sent with their length in front. -/
def strings : EncoderCall → List CString
  | publish topic _ _ _ _ => [topic]
  | subscribe _ topics => topics.map Prod.fst
  | unsubscribe _ topics => topics
  | _ => []

/-- The `topic_count` argument. -/
def topicCount : EncoderCall → Nat
  | subscribe _ topics => topics.length
  | unsubscribe _ topics => topics.length
  | suback _ results => results.length
  | _ => 0

/-- The packet id that is sent; a QoS 0 PUBLISH sends none. -/
def sentId : EncoderCall → Option UInt16
  | publish _ packetId qos _ _ => (delivery packetId qos).packetId
  | subscribe packetId _ => some packetId
  | unsubscribe packetId _ => some packetId
  | suback packetId _ => some packetId
  | puback packetId => some packetId
  | pubrec packetId => some packetId
  | pubrel packetId => some packetId
  | pubcomp packetId => some packetId
  | unsuback packetId => some packetId

/-- The part of the remaining length that the encoder keeps in a `uint16_t`. -/
def shortTotal : EncoderCall → Nat
  | publish _ _ _ _ msg => msg.elim 0 strlen
  | subscribe _ topics => topicsSize (topics.map Prod.fst) 1
  | unsubscribe _ topics => topicsSize topics 0
  | _ => 0

/-- Arguments the wire format has room for. -/
structure InRange (call : EncoderCall) : Prop where
  strings : ∀ str ∈ call.strings, strlen str < 2 ^ 16
  topicCount : call.topicCount < 2 ^ 16
  remaining : call.packet.body.length < Wire.lengthLimit

/-- No 16-bit field needs its high byte and no 16-bit total wraps. -/
structure Narrow (call : EncoderCall) : Prop where
  packetId : ∀ packetId ∈ call.sentId, packetId.toNat < 256
  strings : ∀ str ∈ call.strings, strlen str < 256
  total : call.shortTotal < 2 ^ 16

end EncoderCall

theorem length_eq_iff {left right : Nat} (hleft : left < Wire.lengthLimit)
    (hright : right < Wire.lengthLimit) (leftRest rightRest : List UInt8) :
    Base128.encode 4 left ++ leftRest = Base128.encode 4 right ++ rightRest ↔
      left = right ∧ leftRest = rightRest := by
  constructor
  · exact Base128.encode_append_inj (by simpa [Wire.lengthLimit] using hleft)
      (by simpa [Wire.lengthLimit] using hright)
  · rintro ⟨rfl, rfl⟩
    rfl

theorem topicFrame_append (topic : CString) (left right : List UInt8) :
    topicFrame topic left ++ right = topicFrame topic (left ++ right) := by
  simp [topicFrame]

theorem topicFrame_eq_iff {topic : CString} (htopic : strlen topic < 2 ^ 16)
    (left right : List UInt8) :
    topicFrame topic left = Wire.string topic.bytes ++ right ↔ strlen topic < 256 ∧ left = right := by
  rw [topicFrame, Wire.string, List.append_assoc, show topic.bytes.length = strlen topic from rfl,
    short_eq_iff htopic, List.append_cancel_left_eq]

/-- The topics of a list are sent right exactly when each of them is short. -/
theorem topics_eq_iff {α : Type} (name : α → CString) (last : α → List UInt8) (topics : List α)
    (htopics : ∀ topic ∈ topics, strlen (name topic) < 2 ^ 16) :
    (topics.flatMap fun topic => topicFrame (name topic) (last topic))
        = (topics.flatMap fun topic => Wire.string (name topic).bytes ++ last topic) ↔
      ∀ topic ∈ topics, strlen (name topic) < 256 := by
  induction topics with
  | nil => simp
  | cons topic topics ih =>
      simp only [List.forall_mem_cons] at htopics ⊢
      rw [List.flatMap_cons, List.flatMap_cons, topicFrame_append, List.append_assoc,
        topicFrame_eq_iff htopics.1, List.append_cancel_left_eq]
      exact and_congr_right fun _ => ih htopics.2

theorem length_topics {α : Type} (name : α → CString) (last : α → List UInt8) (extra : Nat)
    (hlast : ∀ topic, (last topic).length = extra) (topics : List α) :
    (topics.flatMap fun topic => Wire.string (name topic).bytes ++ last topic).length
      = topicsSize (topics.map name) extra := by
  induction topics with
  | nil => rfl
  | cons topic topics ih =>
      simp only [List.flatMap_cons, List.length_append, Wire.length_string, hlast, ih, topicsSize,
        List.map_cons, List.sum_cons, strlen]

theorem makeIdMessage_eq_iff {header : Nat} {wireHeader : UInt8}
    (hheader : UInt8.ofNat header = wireHeader) (packetId : UInt16) :
    makeIdMessage header packetId
        = wireHeader :: (Base128.encode 4 (Wire.short packetId.toNat).length
            ++ Wire.short packetId.toNat) ↔
      packetId.toNat < 256 := by
  have hshort := short_eq_iff packetId.toNat_lt [] []
  rw [List.append_nil] at hshort
  rw [makeIdMessage_eq, hheader]
  change wireHeader :: 2 :: [0, UInt8.ofNat packetId.toNat]
    = wireHeader :: 2 :: Wire.short packetId.toNat ↔ _
  rw [List.cons_inj_right, List.cons_inj_right, hshort]
  exact and_iff_left rfl

/-- Two frames with the same header agree when their length fields and the rest of them do. -/
theorem frame_eq_iff (header : UInt8) {sent actual : Nat} {left right : List UInt8}
    (hlength : right.length = actual) (hsent : sent ≤ actual) (hactual : actual < Wire.lengthLimit) :
    header :: ((encodeSize sent).2 ++ left)
        = header :: (Base128.encode 4 right.length ++ right) ↔
      sent = actual ∧ left = right := by
  rw [List.cons_inj_right, encodeSize_snd (by omega), hlength, length_eq_iff (by omega) hactual]

theorem publish_eq_iff {topic : CString} {packetId : UInt16} {qos : Wire.Qos} {retain : Bool}
    {msg : Option CString}
    (hrange : (EncoderCall.publish topic packetId qos retain msg).InRange) :
    (EncoderCall.publish topic packetId qos retain msg).frame
        = (EncoderCall.publish topic packetId qos retain msg).packet.encode ↔
      (EncoderCall.publish topic packetId qos retain msg).Narrow := by
  have htopic : strlen topic < 2 ^ 16 := hrange.strings topic (by simp [EncoderCall.strings])
  have hlength : (Wire.string topic.bytes ++ (EncoderCall.delivery packetId qos).idField
        ++ msg.elim [] CString.bytes).length
      = 2 + strlen topic + (if qos = .atMostOnce then 0 else 2) + msg.elim 0 strlen := by
    cases qos <;> cases msg <;> simp [EncoderCall.delivery, Wire.Delivery.idField,
      Wire.Delivery.packetId, strlen] <;> omega
  have hremaining : _ < Wire.lengthLimit := hlength ▸ hrange.remaining
  have hmod := Nat.mod_le (msg.elim 0 strlen) (2 ^ 16)
  have hsent : (if qos = .atMostOnce then [] else [0, UInt8.ofNat packetId.toNat])
        ++ msg.elim [] CString.bytes
      = (EncoderCall.delivery packetId qos).idField ++ msg.elim [] CString.bytes ↔
      ∀ sent ∈ (EncoderCall.delivery packetId qos).packetId, sent.toNat < 256 := by
    have hshort := short_eq_iff packetId.toNat_lt (msg.elim [] CString.bytes)
      (msg.elim [] CString.bytes)
    cases qos with
    | atMostOnce => simp [EncoderCall.delivery, Wire.Delivery.idField, Wire.Delivery.packetId]
    | atLeastOnce =>
        simpa [EncoderCall.delivery, Wire.Delivery.idField, Wire.Delivery.packetId] using hshort
    | exactlyOnce =>
        simpa [EncoderCall.delivery, Wire.Delivery.idField, Wire.Delivery.packetId] using hshort
  have hlong : 2 + strlen topic + (if qos = .atMostOnce then 0 else 2) + msg.elim 0 strlen % 2 ^ 16
        = 2 + strlen topic + (if qos = .atMostOnce then 0 else 2) + msg.elim 0 strlen ↔
      msg.elim 0 strlen < 2 ^ 16 := by
    omega
  rw [EncoderCall.frame, makePublishMessage_eq]
  change _ = Wire.fixedHeader 3 false (EncoderCall.delivery packetId qos).qos.code retain :: _ ↔ _
  rw [show (EncoderCall.delivery packetId qos).qos = qos by cases qos <;> rfl]
  refine (frame_eq_iff _ hlength (Nat.add_le_add_left hmod _) hremaining).trans ?_
  rw [hlong, List.append_assoc, topicFrame_eq_iff htopic, hsent]
  constructor
  · rintro ⟨htotal, hshort, hid⟩
    exact ⟨hid, by simpa [EncoderCall.strings] using hshort, htotal⟩
  · rintro ⟨hid, hshort, htotal⟩
    exact ⟨htotal, hshort topic (by simp [EncoderCall.strings]), hid⟩

/-- The frames of SUBSCRIBE and UNSUBSCRIBE: an id and a list of topics. -/
theorem topicList_eq_iff {α : Type} (header : UInt8) (packetId : UInt16) (name : α → CString)
    (last : α → List UInt8) (extra : Nat) (hlast : ∀ topic, (last topic).length = extra)
    (topics : List α) (htopics : ∀ topic ∈ topics, strlen (name topic) < 2 ^ 16)
    (hremaining : (Wire.short packetId.toNat
      ++ topics.flatMap fun topic => Wire.string (name topic).bytes ++ last topic).length
        < Wire.lengthLimit) :
    header :: ((encodeSize (2 + topicsSize (topics.map name) extra % 2 ^ 16)).2
          ++ 0 :: UInt8.ofNat packetId.toNat ::
            topics.flatMap fun topic => topicFrame (name topic) (last topic))
        = header :: (Base128.encode 4 (Wire.short packetId.toNat
            ++ topics.flatMap fun topic => Wire.string (name topic).bytes ++ last topic).length
          ++ (Wire.short packetId.toNat
            ++ topics.flatMap fun topic => Wire.string (name topic).bytes ++ last topic)) ↔
      packetId.toNat < 256 ∧ (∀ topic ∈ topics, strlen (name topic) < 256) ∧
        topicsSize (topics.map name) extra < 2 ^ 16 := by
  have hlength : (Wire.short packetId.toNat
      ++ topics.flatMap fun topic => Wire.string (name topic).bytes ++ last topic).length
        = 2 + topicsSize (topics.map name) extra := by
    rw [List.length_append, length_topics name last extra hlast, Wire.length_short]
  have hmod := Nat.mod_le (topicsSize (topics.map name) extra) (2 ^ 16)
  rw [frame_eq_iff header hlength (by omega) (hlength ▸ hremaining), short_eq_iff packetId.toNat_lt,
    topics_eq_iff name last topics htopics]
  have hwrap : 2 + topicsSize (topics.map name) extra % 2 ^ 16
        = 2 + topicsSize (topics.map name) extra ↔ topicsSize (topics.map name) extra < 2 ^ 16 := by
    omega
  rw [hwrap]
  tauto

theorem subscribe_eq_iff {packetId : UInt16} {topics : List (CString × Wire.Qos)}
    (hrange : (EncoderCall.subscribe packetId topics).InRange) :
    (EncoderCall.subscribe packetId topics).frame
        = (EncoderCall.subscribe packetId topics).packet.encode ↔
      (EncoderCall.subscribe packetId topics).Narrow := by
  have hstrings : ∀ topic ∈ topics, strlen topic.1 < 2 ^ 16 := by
    intro topic hmem
    exact hrange.strings topic.1 (List.mem_map_of_mem hmem)
  have hbody : (EncoderCall.subscribe packetId topics).packet.body
      = Wire.short packetId.toNat
        ++ topics.flatMap fun topic => Wire.string topic.1.bytes ++ [UInt8.ofNat topic.2.code] := by
    simp [EncoderCall.packet, Wire.Packet.body, List.flatMap_map, Wire.subscription]
  rw [EncoderCall.frame, makeSubscribeMessage_eq, Wire.Packet.encode, hbody]
  have hcode : ∀ qos : Wire.Qos, (UInt32.ofNat qos.code).toNat = qos.code := by
    intro qos
    cases qos <;> rfl
  simp only [List.map_map, List.flatMap_map, hcode]
  refine (topicList_eq_iff _ packetId Prod.fst (fun topic => [UInt8.ofNat topic.2.code]) 1
    (fun _ => rfl) topics hstrings (hbody ▸ hrange.remaining)).trans ?_
  constructor
  · rintro ⟨hid, hshort, htotal⟩
    exact ⟨by simpa [EncoderCall.sentId] using hid,
      by simpa [EncoderCall.strings] using hshort, htotal⟩
  · rintro ⟨hid, hshort, htotal⟩
    exact ⟨hid packetId rfl, fun topic hmem => hshort topic.1 (List.mem_map_of_mem hmem), htotal⟩

theorem unsubscribe_eq_iff {packetId : UInt16} {topics : List CString}
    (hrange : (EncoderCall.unsubscribe packetId topics).InRange) :
    (EncoderCall.unsubscribe packetId topics).frame
        = (EncoderCall.unsubscribe packetId topics).packet.encode ↔
      (EncoderCall.unsubscribe packetId topics).Narrow := by
  have hbody : (EncoderCall.unsubscribe packetId topics).packet.body
      = Wire.short packetId.toNat
        ++ topics.flatMap fun topic => Wire.string topic.bytes ++ [] := by
    simp [EncoderCall.packet, Wire.Packet.body, List.flatMap_map]
  have hframe := topicList_eq_iff (Wire.fixedHeader 10 false 1 false) packetId id
    (fun _ => []) 0 (fun _ => rfl) topics hrange.strings (hbody ▸ hrange.remaining)
  rw [List.map_id] at hframe
  rw [EncoderCall.frame, makeUnsubscribeMessage_eq, Wire.Packet.encode, hbody]
  apply hframe.trans
  constructor
  · rintro ⟨hid, hshort, htotal⟩
    exact ⟨by simpa [EncoderCall.sentId] using hid, hshort, htotal⟩
  · rintro ⟨hid, hshort, htotal⟩
    exact ⟨hid packetId rfl, hshort, htotal⟩

theorem suback_eq_iff {packetId : UInt16} {results : List (Bool × Wire.Qos)}
    (hrange : (EncoderCall.suback packetId results).InRange) :
    (EncoderCall.suback packetId results).frame
        = (EncoderCall.suback packetId results).packet.encode ↔ packetId.toNat < 256 := by
  have hlength : (Wire.short packetId.toNat
      ++ (results.map grantOf).map Wire.grant).length = 2 + results.length := by
    simp
  rw [EncoderCall.frame, makeSubackMessage_eq]
  refine (frame_eq_iff _ hlength le_rfl (hlength ▸ hrange.remaining)).trans ?_
  rw [short_eq_iff packetId.toNat_lt, List.map_map]
  simp [Function.comp_def]

/-- **Encoder conformance.** Over arguments that the wire format has room for, an encoder sends the
packet it is asked for exactly when no 16-bit field needs its high byte and no 16-bit total wraps. -/
theorem encoder_frame_eq_iff (call : EncoderCall) (hrange : call.InRange) :
    call.frame = call.packet.encode ↔ call.Narrow := by
  have hnarrow : ∀ packetId : UInt16, call.sentId = some packetId → call.strings = [] →
      call.shortTotal = 0 → (call.Narrow ↔ packetId.toNat < 256) := by
    intro packetId hid hstrings htotal
    constructor
    · intro h
      exact h.packetId packetId (by rw [hid]; rfl)
    · intro h
      exact ⟨by simpa [hid] using h, by simp [hstrings], by simp [htotal]⟩
  cases call with
  | publish topic packetId qos retain msg => exact publish_eq_iff hrange
  | subscribe packetId topics => exact subscribe_eq_iff hrange
  | unsubscribe packetId topics => exact unsubscribe_eq_iff hrange
  | suback packetId results =>
      exact (suback_eq_iff hrange).trans (hnarrow packetId rfl rfl rfl).symm
  | puback packetId | pubrec packetId | pubrel packetId | pubcomp packetId | unsuback packetId =>
      exact (makeIdMessage_eq_iff rfl packetId).trans (hnarrow packetId rfl rfl rfl).symm

/-- A PUBACK with packet id 256 goes out with packet id 0. -/
theorem puback_frame_ne : (EncoderCall.puback 256).InRange ∧
    (EncoderCall.puback 256).frame ≠ (EncoderCall.puback 256).packet.encode :=
  ⟨⟨by simp [EncoderCall.strings], by decide, by decide⟩, by decide⟩

theorem publish_frame_eq : ∃ call : EncoderCall, call.InRange ∧ call.sentId = some 7 ∧
    call.frame = call.packet.encode := by
  let topic : CString := ⟨[116, 47, 97], by decide⟩
  have hrange : (EncoderCall.publish topic 7 .atLeastOnce true (some topic)).InRange :=
    ⟨by simp [EncoderCall.strings, strlen, topic], by decide, by decide⟩
  exact ⟨_, hrange, rfl, (encoder_frame_eq_iff _ hrange).mpr
    ⟨by simp [EncoderCall.sentId, EncoderCall.delivery, Wire.Delivery.packetId],
      by simp [EncoderCall.strings, strlen, topic], by decide⟩⟩

end Smqtt
