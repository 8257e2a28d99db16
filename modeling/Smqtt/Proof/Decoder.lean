import Smqtt.Proof.Encoders

/-!
# Where the parser keeps to the wire format

`short_from_buffer` shifts the high byte out of the result, so a 16-bit field is read as its low
byte. A packet is parsed right exactly when none of its ids and string lengths needs the high byte;
the segment sizes, which count the fixed header instead of the packet id, are off by one at most and
never lose a topic.
-/

namespace Smqtt

/-! ### Reading bytes -/

@[simp]
theorem eval_readByte (memory : Memory) (index : Nat) :
    (readByte index).eval memory = memory index := rfl

@[simp]
theorem eval_shortFromBuffer (memory : Memory) (index : Nat) :
    (shortFromBuffer index).eval memory = (memory (index + 1)).toUInt16 := by
  have hhigh : ((memory index).toNat <<< 16) % 2 ^ 16 = 0 := by
    rw [Nat.shiftLeft_eq, Nat.mul_mod_left]
  simp only [shortFromBuffer, Interaction.eval_bind, eval_readByte, Interaction.eval_pure, hhigh,
    Nat.zero_or]
  rw [UInt16.ofNat_uInt8ToNat]

@[simp]
theorem eval_parseString (memory : Memory) (offset : Nat) :
    (parseString offset).eval memory = ⟨offset + 2, (memory (offset + 1)).toUInt16⟩ := by
  simp [parseString]

theorem low_of_holds {memory : Memory} {offset value : Nat}
    (hholds : memory.Holds offset (Wire.short value)) :
    (memory (offset + 1)).toUInt16.toNat = value % 256 := by
  have hlow := hholds 1 (by simp)
  rw [hlow]
  simp [Wire.short]

theorem and_high_eq_zero_iff (byte : UInt8) : byte.toNat &&& 0x80 = 0 ↔ byte.toNat < 128 := by
  have hbyte := byte.toNat_lt
  rw [show (0x80 : Nat) = 2 ^ 7 from rfl, Nat.and_two_pow, Nat.testBit_eq_decide_div_mod_eq]
  by_cases hlt : byte.toNat < 128
  · simp [hlt]
    omega
  · simp [hlt]
    omega

theorem and_low_eq_mod (value : Nat) : value &&& 127 = value % 128 :=
  Nat.and_two_pow_sub_one_eq_mod value 7

/-! ### The length -/

section DecodeSize

variable {memory : Memory} {fuel buffer bufferEnd size value multiplier used : Nat} {digit : UInt8}

theorem eval_decodeSizeLoop_last (hbuffer : buffer ≤ bufferEnd) (hlast : (memory buffer).toNat < 128) :
    (decodeSizeLoop bufferEnd (fuel + 1) buffer value multiplier used digit).eval memory
      = (value + (memory buffer).toNat * multiplier, used + 1, memory buffer) := by
  rw [decodeSizeLoop, if_pos hbuffer]
  simp only [Interaction.eval_bind, eval_readByte, Interaction.eval_pure,
    (and_high_eq_zero_iff _).mpr hlast, if_true, and_low_eq_mod, Nat.mod_eq_of_lt hlast]

theorem eval_decodeSizeLoop_continue (hbuffer : buffer ≤ bufferEnd)
    (hmore : 128 ≤ (memory buffer).toNat) :
    (decodeSizeLoop bufferEnd (fuel + 1) buffer value multiplier used digit).eval memory
      = (decodeSizeLoop bufferEnd fuel (buffer + 1)
          (value + ((memory buffer).toNat - 128) * multiplier) (multiplier * 128) (used + 1)
          (memory buffer)).eval memory := by
  have hbyte := (memory buffer).toNat_lt
  have hhigh : ¬ (memory buffer).toNat &&& 0x80 = 0 := by
    rw [and_high_eq_zero_iff]
    omega
  rw [decodeSizeLoop, if_pos hbuffer]
  simp only [Interaction.eval_bind, eval_readByte, hhigh, if_false, and_low_eq_mod]
  rw [show (memory buffer).toNat % 128 = (memory buffer).toNat - 128 by omega]

/-- The length loop at the last byte of a length that stands in memory. -/
theorem eval_decodeSizeLoop_encode_last (hsize : size < 128)
    (hholds : memory.Holds buffer (Base128.encode (fuel + 1) size))
    (hend : buffer + (Base128.encode (fuel + 1) size).length ≤ bufferEnd + 1) :
    ∃ last : UInt8, last.toNat < 128 ∧
      (decodeSizeLoop bufferEnd (fuel + 1) buffer value multiplier used digit).eval memory
        = (value + size * multiplier, used + (Base128.encode (fuel + 1) size).length, last) := by
  rw [Base128.encode_of_lt hsize] at hholds hend ⊢
  obtain ⟨hbyte, -⟩ := Memory.holds_cons.mp hholds
  have hnat : (memory buffer).toNat = size := by
    rw [hbyte, UInt8.toNat_ofNat']
    omega
  rw [List.length_singleton] at hend
  exact ⟨memory buffer, by omega, hnat ▸ eval_decodeSizeLoop_last (by omega) (by omega)⟩

/-- The length loop on a length that stands in memory. -/
theorem eval_decodeSizeLoop_encode (hsize : size < 128 ^ (fuel + 1))
    (hholds : memory.Holds buffer (Base128.encode (fuel + 1) size))
    (hend : buffer + (Base128.encode (fuel + 1) size).length ≤ bufferEnd + 1) :
    ∃ last : UInt8, last.toNat < 128 ∧
      (decodeSizeLoop bufferEnd (fuel + 1) buffer value multiplier used digit).eval memory
        = (value + size * multiplier, used + (Base128.encode (fuel + 1) size).length, last) := by
  induction fuel generalizing buffer size value multiplier used digit with
  | zero =>
      exact eval_decodeSizeLoop_encode_last (by simpa using hsize) hholds hend
  | succ fuel ih =>
      by_cases hlt : size < 128
      · exact eval_decodeSizeLoop_encode_last hlt hholds hend
      · rw [Base128.encode_of_le (by omega)] at hholds hend ⊢
        obtain ⟨hbyte, htail⟩ := Memory.holds_cons.mp hholds
        have hnat : (memory buffer).toNat = size % 128 + 128 := by
          rw [hbyte, UInt8.toNat_ofNat']
          omega
        have hquotient : size / 128 < 128 ^ (fuel + 1) := by
          rw [Nat.div_lt_iff_lt_mul (by omega), ← Nat.pow_succ]
          exact hsize
        rw [List.length_cons] at hend
        obtain ⟨last, hlast, heval⟩ := ih hquotient htail (by omega)
        refine ⟨last, hlast, ?_⟩
        rw [eval_decodeSizeLoop_continue (by omega) (by omega), heval, hnat, Nat.add_sub_cancel]
        have hsplit : size * multiplier
            = size % 128 * multiplier + size / 128 * (multiplier * 128) := by
          conv_lhs => rw [← Nat.mod_add_div size 128]
          ring
        rw [hsplit, List.length_cons]
        simp only [Prod.mk.injEq, and_true]
        omega

theorem eval_decodeSize_encode (hsize : size < Wire.lengthLimit)
    (hholds : memory.Holds buffer (Base128.encode 4 size))
    (hend : buffer + (Base128.encode 4 size).length ≤ bufferEnd + 1) :
    (decodeSize buffer bufferEnd).eval memory = (some size, (Base128.encode 4 size).length) := by
  have hsize : size < 128 ^ 4 := by simpa [Wire.lengthLimit] using hsize
  obtain ⟨last, hlast, heval⟩ :=
    @eval_decodeSizeLoop_encode memory 3 buffer bufferEnd size 0 1 0 0 hsize hholds hend
  have hlow := (and_high_eq_zero_iff last).mpr hlast
  simp [decodeSize, heval, hlow]

/-- The loop runs out of positions exactly if each byte it may read announces another one. -/
theorem decodeSizeLoop_exhausted (memory : Memory)
    (bufferEnd fuel buffer value multiplier used : Nat) (digit : UInt8) :
    let result := (decodeSizeLoop bufferEnd (fuel + 1) buffer value multiplier used digit).eval memory
    (result.2.1 = used + (fuel + 1) ∧ 128 ≤ result.2.2.toNat) ↔
      buffer + fuel ≤ bufferEnd ∧ ∀ index < fuel + 1, 128 ≤ (memory (buffer + index)).toNat := by
  induction fuel generalizing buffer value multiplier used digit with
  | zero =>
      by_cases hbuffer : buffer ≤ bufferEnd
      · by_cases hlast : (memory buffer).toNat < 128
        · simp [eval_decodeSizeLoop_last hbuffer hlast, hlast]
        · rw [not_lt] at hlast
          simp [decodeSizeLoop, hlast, hbuffer]
      · simp [decodeSizeLoop, hbuffer]
  | succ fuel ih =>
      by_cases hbuffer : buffer ≤ bufferEnd
      · by_cases hlast : (memory buffer).toNat < 128
        · rw [Nat.forall_lt_succ_left]
          simp [eval_decodeSizeLoop_last hbuffer hlast, hlast]
        · rw [not_lt] at hlast
          have hrest := ih (buffer + 1) (value + ((memory buffer).toNat - 128) * multiplier)
            (multiplier * 128) (used + 1) (memory buffer)
          rw [eval_decodeSizeLoop_continue hbuffer hlast, Nat.forall_lt_succ_left,
            show used + (fuel + 1 + 1) = used + 1 + (fuel + 1) by omega,
            show buffer + (fuel + 1) = buffer + 1 + fuel by omega]
          refine hrest.trans (and_congr_right fun _ => ?_)
          simp only [Nat.add_zero, hlast, true_and, Nat.add_assoc, Nat.add_comm 1]
      · have hend : ¬ buffer + (fuel + 1) ≤ bufferEnd := by omega
        simp [decodeSizeLoop, hbuffer, hend]

/-- `decode_size` gives up behind the fourth byte that announces another one. -/
theorem isSome_decodeSize (memory : Memory) (length : Nat) :
    ((decodeSize 1 length).eval memory).1.isSome ↔
      ¬ (4 ≤ length ∧ ∀ index < 4, 128 ≤ (memory (1 + index)).toNat) := by
  have hloop := decodeSizeLoop_exhausted memory length 3 1 0 1 0 0
  simp only [Nat.zero_add, Nat.reduceAdd] at hloop
  rw [← hloop]
  simp only [decodeSize, Interaction.eval_bind, Interaction.eval_ite, Interaction.eval_pure, ne_eq,
    and_high_eq_zero_iff, not_lt]
  split_ifs with hexhausted <;> simp [hexhausted]

end DecodeSize

/-- What is parsed is parsed by its type, from the end of its length on. -/
theorem exists_deserializeBody_of_eval {memory : Memory} {length : Nat} {response : Response}
    (heval : (deserializeResponse length).eval memory = some response) :
    ∃ type totalSize offset, offset = 1 + ((decodeSize 1 length).eval memory).2 ∧
      response = (deserializeBody type (memory 0) totalSize offset).eval memory := by
  simp only [deserializeResponse, Interaction.eval_bind, eval_readByte] at heval
  split at heval
  · rename_i totalSize type _ _
    rw [Interaction.eval_map, Option.some.injEq] at heval
    exact ⟨type, totalSize, _, rfl, heval.symm⟩
  · cases heval

theorem toUInt16_lt (byte : UInt8) : byte.toUInt16.toNat < 256 := by
  rw [UInt8.toNat_toUInt16]
  exact byte.toNat_lt

/-! ### The packets and what they are parsed to -/

/-- The packets a parse can return: strings and payloads of less than 64 kB, and no more topics or
results than the parser's arrays hold. -/
def Wire.Packet.Parsable : Wire.Packet → Prop
  | publish _ _ _ topic payload => topic.length < 2 ^ 16 ∧ payload.length < 2 ^ 16
  | subscribe _ _ topics =>
      topics.length ≤ maxTopics ∧ ∀ topic ∈ topics, topic.1 ≠ [] ∧ topic.1.length < 2 ^ 16
  | suback _ results => results.length ≤ maxTopics
  | unsubscribe _ _ topics =>
      topics.length ≤ maxTopics ∧ ∀ topic ∈ topics, topic ≠ [] ∧ topic.length < 2 ^ 16
  | _ => True

/-- The message type, under the parser's name for it. -/
def Wire.Packet.type : Wire.Packet → MessageType
  | publish _ _ _ _ _ => .publish
  | puback _ => .puback
  | pubrec _ => .pubrec
  | pubrel _ _ => .pubrel
  | pubcomp _ => .pubcomp
  | subscribe _ _ _ => .subscribe
  | suback _ _ => .suback
  | unsubscribe _ _ _ => .unsubscribe
  | unsuback _ => .unsuback

/-- The strings with a length in front. -/
def Wire.Packet.topics : Wire.Packet → List (List UInt8)
  | publish _ _ _ topic _ => [topic]
  | subscribe _ _ topics => topics.map Prod.fst
  | unsubscribe _ _ topics => topics
  | _ => []

def Wire.Packet.packetId : Wire.Packet → Option UInt16
  | publish _ _ delivery _ _ => delivery.packetId
  | puback packetId => some packetId
  | pubrec packetId => some packetId
  | pubrel _ packetId => some packetId
  | pubcomp packetId => some packetId
  | subscribe _ packetId _ => some packetId
  | suback packetId _ => some packetId
  | unsubscribe _ packetId _ => some packetId
  | unsuback packetId => some packetId

/-- No 16-bit field of the packet needs its high byte. -/
structure Wire.Packet.LowBytes (packet : Wire.Packet) : Prop where
  packetId : ∀ packetId ∈ packet.packetId, packetId.toNat < 256
  topics : ∀ topic ∈ packet.topics, topic.length < 256

def subResultOf : Option Wire.Qos → SubResult
  | none => ⟨false, QoS0⟩
  | some qos => ⟨true, UInt32.ofNat qos.code⟩

/-- The parsed packet is this one: the same type, and every field as sent. -/
def Response.Carries (memory : Memory) : Wire.Packet → Response → Prop
  | .publish _ retain delivery topic payload, .publish data =>
      data.qos = UInt32.ofNat delivery.qos.code ∧ data.retain = retain ∧
      data.packetId = delivery.packetId.getD 0 ∧ data.topic.bytes memory = topic ∧
      data.message.bytes memory = payload
  | .puback packetId, .puback parsed => parsed = packetId
  | .pubrec packetId, .pubrec parsed => parsed = packetId
  | .pubrel _ packetId, .pubrel parsed => parsed = packetId
  | .pubcomp packetId, .pubcomp parsed => parsed = packetId
  | .subscribe _ packetId topics, .subscribe parsed entries =>
      parsed = packetId ∧
      entries.map (fun entry => (entry.topic.bytes memory, entry.qos))
        = topics.map fun topic => (topic.1, some (UInt32.ofNat topic.2.code))
  | .suback packetId results, .suback parsed parsedResults =>
      parsed = packetId ∧ parsedResults = results.map subResultOf
  | .unsubscribe _ packetId topics, .unsubscribe parsed entries =>
      parsed = packetId ∧ entries.map (fun entry => entry.topic.bytes memory) = topics
  | .unsuback packetId, .unsuback parsed => parsed = packetId
  | _, _ => False

/-! ### The fixed header -/

theorem toNat_fixedHeader {type qos : Nat} (htype : type < 16) (hqos : qos < 4) (dup retain : Bool) :
    (Wire.fixedHeader type dup qos retain).toNat
      = 16 * type + 8 * Wire.bit dup + 2 * qos + Wire.bit retain := by
  have hbit : ∀ flag : Bool, Wire.bit flag ≤ 1 := by decide
  have hdup := hbit dup
  have hretain := hbit retain
  rw [Wire.fixedHeader, UInt8.toNat_ofNat']
  omega

theorem code_lt (qos : Wire.Qos) : qos.code < 4 := by
  cases qos <;> decide

theorem nibble_fixedHeader {type qos : Nat} (htype : type < 16) (hqos : qos < 4)
    (dup retain : Bool) : (Wire.fixedHeader type dup qos retain).toNat >>> 4 = type := by
  have hbit : ∀ flag : Bool, Wire.bit flag ≤ 1 := by decide
  have hdup := hbit dup
  have hretain := hbit retain
  rw [toNat_fixedHeader htype hqos, Nat.shiftRight_eq_div_pow]
  omega

theorem nibble_header (packet : Wire.Packet) :
    packet.header.toNat >>> 4 = packet.type.code := by
  cases packet with
  | publish dup retain delivery topic payload =>
      exact nibble_fixedHeader (by decide) (code_lt delivery.qos) dup retain
  | pubrel dup packetId => exact nibble_fixedHeader (by decide) (by decide) dup false
  | subscribe dup packetId topics => exact nibble_fixedHeader (by decide) (by decide) dup false
  | unsubscribe dup packetId topics => exact nibble_fixedHeader (by decide) (by decide) dup false
  | puback packetId => exact nibble_fixedHeader (by decide) (by decide) false false
  | pubrec packetId => exact nibble_fixedHeader (by decide) (by decide) false false
  | pubcomp packetId => exact nibble_fixedHeader (by decide) (by decide) false false
  | suback packetId results => exact nibble_fixedHeader (by decide) (by decide) false false
  | unsuback packetId => exact nibble_fixedHeader (by decide) (by decide) false false

theorem ofCode_code (type : MessageType) : MessageType.ofCode type.code = some type := by
  cases type <;> rfl

/-- Behind the fixed header the parser knows the type and the number of bytes that follow. -/
theorem eval_deserializeResponse_frame {memory : Memory} {header : UInt8} {type : MessageType}
    {sent length : Nat} {rest : List UInt8} (hsent : sent < Wire.lengthLimit)
    (htype : header.toNat >>> 4 = type.code)
    (hlength : (Base128.encode 4 sent).length ≤ length)
    (hholds : memory.Holds 0 (header :: (Base128.encode 4 sent ++ rest))) :
    (deserializeResponse length).eval memory
        = some ((deserializeBody type header sent (1 + (Base128.encode 4 sent).length)).eval memory) ∧
      memory.Holds (1 + (Base128.encode 4 sent).length) rest := by
  obtain ⟨hfirst, hrest⟩ := Memory.holds_cons.mp hholds
  obtain ⟨hsize, hafter⟩ := Memory.holds_append.mp hrest
  have hdecode := eval_decodeSize_encode hsent hsize (by omega : _ ≤ length + 1)
  refine ⟨?_, by simpa using hafter⟩
  simp only [deserializeResponse, Interaction.eval_bind, eval_readByte, hfirst, htype, ofCode_code]
  rw [Nat.zero_add] at hdecode
  simp only [hdecode, Interaction.eval_map]

theorem eval_deserializeResponse {memory : Memory} {packet : Wire.Packet}
    (hbody : packet.body.length < Wire.lengthLimit) (hholds : memory.Holds 0 packet.encode) :
    (deserializeResponse packet.encode.length).eval memory
        = some ((deserializeBody packet.type packet.header packet.body.length
            (1 + (Base128.encode 4 packet.body.length).length)).eval memory) ∧
      memory.Holds (1 + (Base128.encode 4 packet.body.length).length) packet.body := by
  refine eval_deserializeResponse_frame hbody (nibble_header packet) ?_ hholds
  simp [Wire.Packet.encode]
  omega

theorem length_flatMap_le {α : Type} (items : List α) (write : α → List UInt8) (bound : Nat)
    (hbound : ∀ item ∈ items, (write item).length ≤ bound) :
    (items.flatMap write).length ≤ items.length * bound := by
  rw [List.length_flatMap]
  have hsum := List.sum_le_card_nsmul (items.map fun item => (write item).length) bound
    (by simpa using hbound)
  simpa using hsum

theorem length_body_lt {packet : Wire.Packet} (hparsable : packet.Parsable) :
    packet.body.length < Wire.lengthLimit := by
  cases packet with
  | publish dup retain delivery topic payload =>
      obtain ⟨htopic, hpayload⟩ := hparsable
      have hid : delivery.idField.length ≤ 2 := by
        cases delivery <;> simp [Wire.Delivery.idField, Wire.Delivery.packetId]
      simp only [Wire.Packet.body, Wire.lengthLimit, List.length_append, Wire.length_string]
      omega
  | subscribe dup packetId topics =>
      obtain ⟨hcount, htopics⟩ := hparsable
      have hsum := length_flatMap_le topics Wire.subscription (3 + 2 ^ 16) fun topic hmem => by
        have htopic := (htopics topic hmem).2
        rw [Wire.length_subscription]
        omega
      simp only [Wire.Packet.body, Wire.lengthLimit, List.length_append, Wire.length_short,
        maxTopics] at *
      omega
  | unsubscribe dup packetId topics =>
      obtain ⟨hcount, htopics⟩ := hparsable
      have hsum := length_flatMap_le topics Wire.string (3 + 2 ^ 16) fun topic hmem => by
        have htopic := (htopics topic hmem).2
        rw [Wire.length_string]
        omega
      simp only [Wire.Packet.body, Wire.lengthLimit, List.length_append, Wire.length_short,
        maxTopics] at *
      omega
  | suback packetId results =>
      have hcount : results.length ≤ 32 := hparsable
      simp only [Wire.Packet.body, Wire.lengthLimit, List.length_append, Wire.length_short,
        List.length_map]
      omega
  | puback packetId => simp [Wire.Packet.body, Wire.lengthLimit]
  | pubrec packetId => simp [Wire.Packet.body, Wire.lengthLimit]
  | pubrel dup packetId => simp [Wire.Packet.body, Wire.lengthLimit]
  | pubcomp packetId => simp [Wire.Packet.body, Wire.lengthLimit]
  | unsuback packetId => simp [Wire.Packet.body, Wire.lengthLimit]

/-! ### The bodies -/

theorem type_deserializeBody (type : MessageType) (first : UInt8) (totalSize offset : Nat)
    (memory : Memory) :
    ((deserializeBody type first totalSize offset).eval memory).type = type := by
  cases type with
  | publish =>
      simp only [deserializeBody, deserializePublish, Interaction.eval_bind, Interaction.eval_ite]
      split_ifs <;> rfl
  | _ => simp [deserializeBody, deserializeConnect, Response.type]

theorem low_eq_iff {memory : Memory} {offset : Nat} {packetId : UInt16}
    (hholds : memory.Holds offset (Wire.short packetId.toNat)) :
    (memory (offset + 1)).toUInt16 = packetId ↔ packetId.toNat < 256 := by
  rw [← UInt16.toNat_inj, low_of_holds hholds]
  omega

theorem sizeSub_of_le {left right : Nat} (hle : right ≤ left) (hleft : left < 2 ^ 64) :
    sizeSub left right = left - right := by
  unfold sizeSub
  omega

theorem segmentSize_of_le {totalSize offset : Nat} (hle : offset ≤ totalSize)
    (htotal : totalSize < 2 ^ 32) : segmentSize totalSize offset = totalSize - offset := by
  rw [segmentSize, sizeSub_of_le hle (by omega)]
  omega

/-- Whatever stands in memory, a parsed topic is shorter than 256 bytes. -/
theorem size_lt_of_mem_fillTopicLoop {memory : Memory} {withQos : Bool} {max fuel curr : Nat}
    {entry : TopicEntry} (hmem : entry ∈ (fillTopicLoop withQos max fuel curr).eval memory) :
    entry.topic.size.toNat < 256 := by
  induction fuel generalizing curr with
  | zero => simp [fillTopicLoop] at hmem
  | succ fuel ih =>
      have hbyte := (memory (curr + 1)).toNat_lt
      rw [fillTopicLoop] at hmem
      by_cases hmax : curr + 2 ≤ max
      · rw [if_pos hmax] at hmem
        cases withQos with
        | true =>
            simp only [if_true, Interaction.eval_bind, eval_shortFromBuffer, eval_readByte,
              Interaction.eval_pure, List.mem_cons] at hmem
            obtain rfl | hmem := hmem
            · simpa using hbyte
            · exact ih hmem
        | false =>
            simp only [Bool.false_eq_true, if_false, Interaction.eval_bind, eval_shortFromBuffer,
              Interaction.eval_pure, List.mem_cons] at hmem
            obtain rfl | hmem := hmem
            · simpa using hbyte
            · exact ih hmem
      · simp [hmax] at hmem

/-- One element of a topic list as it stands on the wire, with the QoS byte of a SUBSCRIBE. -/
def topicField (topic : List UInt8 × Option UInt8) : List UInt8 :=
  Wire.string topic.1 ++ topic.2.toList

/-- The topic loop on a list that stands in memory. The end it is given can be off, as long as it
reaches over the length of the last topic and not over another one. -/
theorem eval_fillTopicLoop {memory : Memory} {withQos : Bool} {max fuel curr : Nat}
    {topics : List (List UInt8 × Option UInt8)} (hcount : topics.length ≤ fuel)
    (hwith : ∀ topic ∈ topics, topic.2.isSome = withQos)
    (hshort : ∀ topic ∈ topics, topic.1.length < 256)
    (hholds : memory.Holds curr (topics.flatMap topicField))
    (hmax : max < curr + (topics.flatMap topicField).length + 2)
    (hlast : ∀ last ∈ topics.getLast?,
      curr + (topics.flatMap topicField).length + 2 ≤ max + (topicField last).length) :
    ((fillTopicLoop withQos max fuel curr).eval memory).map
        (fun entry => (entry.topic.bytes memory, entry.qos))
      = topics.map fun topic => (topic.1, topic.2.map UInt8.toUInt32) := by
  induction topics generalizing fuel curr with
  | nil =>
      cases fuel with
      | zero => rfl
      | succ fuel =>
          have hstop : ¬ curr + 2 ≤ max := by
            simp at hmax
            omega
          rw [fillTopicLoop, if_neg hstop]
          rfl
  | cons topic topics ih =>
      obtain ⟨hfirst, hshortRest⟩ := List.forall_mem_cons.mp hshort
      obtain ⟨hqos, hwithRest⟩ := List.forall_mem_cons.mp hwith
      cases fuel with
      | zero => simp at hcount
      | succ fuel =>
          -- a topic in front of the last one ends before it
          have hmore : curr + 2 ≤ max := by
            obtain ⟨last, hgetLast⟩ : ∃ last, (topic :: topics).getLast? = some last :=
              Option.isSome_iff_exists.mp (by simp)
            have hreach := hlast last hgetLast
            have hfield : (topicField last).length ≤ ((topic :: topics).flatMap topicField).length := by
              rw [List.length_flatMap]
              exact List.le_sum_of_mem (List.mem_map_of_mem (List.mem_of_getLast? hgetLast))
            omega
          have hlastRest : ∀ last ∈ topics.getLast?, curr + (topicField topic).length
              + (topics.flatMap topicField).length + 2 ≤ max + (topicField last).length := by
            intro last hgetLast
            have hreach := hlast last (by
              rw [List.getLast?_cons, Option.mem_def.mp hgetLast]
              rfl)
            rw [List.flatMap_cons, List.length_append] at hreach
            omega
          obtain ⟨name, qos⟩ := topic
          simp only [List.flatMap_cons, List.length_append] at hmax
          rw [List.flatMap_cons, topicField, Memory.holds_append, Memory.holds_append, Wire.string,
            Memory.holds_append] at hholds
          obtain ⟨⟨⟨hlength, hname⟩, hlast⟩, hrest⟩ := hholds
          have hsize : (memory (curr + 1)).toUInt16.toNat = name.length := by
            rw [low_of_holds hlength, Nat.mod_eq_of_lt hfirst]
          have hbytes : memory.slice (curr + 2) name.length = name := by
            simpa using hname.slice_eq
          have hfieldLength : (topicField (name, qos)).length
              = 2 + name.length + qos.toList.length := by
            simp [topicField]
          rw [hfieldLength] at hlastRest hmax
          have hnext : memory.Holds (curr + (2 + name.length + qos.toList.length))
              (topics.flatMap topicField) := by
            simpa [← Nat.add_assoc] using hrest
          have hih := ih (Nat.le_of_succ_le_succ hcount) hwithRest hshortRest hnext (by omega)
            hlastRest
          rw [fillTopicLoop, if_pos hmore]
          cases qos with
          | none =>
              obtain rfl : withQos = false := hqos.symm
              simp only [Option.toList_none, List.length_nil, Nat.add_zero, ← Nat.add_assoc] at hih
              simpa [hsize, Slice.bytes, hbytes] using hih
          | some qos =>
              obtain rfl : withQos = true := hqos.symm
              have hqosByte : memory (curr + 2 + name.length) = qos := by
                have hhead := (Memory.holds_cons.mp hlast).1
                simpa [← Nat.add_assoc] using hhead
              simp only [Option.toList_some, List.length_singleton, ← Nat.add_assoc] at hih
              simpa [hsize, Slice.bytes, hbytes, hqosByte] using hih

/-- The result loop on results that stand in memory: as many of them as it has positions and segment
for. -/
theorem eval_fillSubresultLoop {memory : Memory} {max fuel curr : Nat}
    {results : List (Option Wire.Qos)} (hmax : max ≤ curr + results.length)
    (hholds : memory.Holds curr (results.map Wire.grant)) :
    (fillSubresultLoop max fuel curr).eval memory
      = (results.take (min fuel (max - curr))).map subResultOf := by
  induction fuel generalizing curr results with
  | zero => simp [fillSubresultLoop]
  | succ fuel ih =>
      by_cases hmore : curr + 1 ≤ max
      · cases results with
        | nil =>
            rw [List.length_nil] at hmax
            omega
        | cons result results =>
            obtain ⟨hbyte, hrest⟩ := Memory.holds_cons.mp hholds
            rw [List.length_cons] at hmax
            have hih := ih (by omega) hrest
            have hresult : SubResult.mk (qosReturnOk (Wire.grant result))
                (qosReturnQos (Wire.grant result)) = subResultOf result := by
              cases result with
              | none => rfl
              | some qos => cases qos <;> rfl
            have htake : min (fuel + 1) (max - curr) = min fuel (max - (curr + 1)) + 1 := by omega
            calc (fillSubresultLoop max (fuel + 1) curr).eval memory
                = ⟨qosReturnOk (Wire.grant result), qosReturnQos (Wire.grant result)⟩
                    :: (fillSubresultLoop max fuel (curr + 1)).eval memory := by
                  rw [fillSubresultLoop, if_pos hmore, Interaction.eval_bind, eval_readByte, hbyte,
                    Interaction.eval_bind, Interaction.eval_pure]
              _ = subResultOf result
                    :: (results.take (min fuel (max - (curr + 1)))).map subResultOf := by
                  rw [hresult, hih]
              _ = ((result :: results).take (min (fuel + 1) (max - curr))).map subResultOf := by
                  rw [htake, List.take_succ_cons, List.map_cons]
      · have htake : min (fuel + 1) (max - curr) = 0 := by omega
        rw [fillSubresultLoop, if_neg hmore, htake]
        rfl

theorem qos_fixedHeader {qos : Nat} (hqos : qos < 4) (dup retain : Bool) :
    ((Wire.fixedHeader 3 dup qos retain).toNat >>> 1) &&& 0x03 = qos := by
  rw [toNat_fixedHeader (by decide) hqos, Nat.and_two_pow_sub_one_eq_mod _ 2,
    Nat.shiftRight_eq_div_pow]
  cases dup <;> cases retain <;> simp [Wire.bit] <;> omega

theorem retain_fixedHeader {qos : Nat} (hqos : qos < 4) (dup retain : Bool) :
    decide ((Wire.fixedHeader 3 dup qos retain).toNat &&& 0x01 ≠ 0) = retain := by
  rw [toNat_fixedHeader (by decide) hqos, Nat.and_one_is_mod]
  cases dup <;> cases retain <;> simp [Wire.bit] <;> omega

/-- What a PUBLISH is parsed to: the positions follow from the topic length that was read. -/
theorem eval_deserializePublish (memory : Memory) (dup retain : Bool) (delivery : Wire.Delivery)
    (totalSize offset : Nat) {size : UInt16} (hsize : (memory (offset + 1)).toUInt16 = size) :
    (deserializePublish (Wire.fixedHeader 3 dup delivery.qos.code retain) totalSize offset).eval
        memory
      = .publish {
          qos := UInt32.ofNat delivery.qos.code
          retain
          topic := ⟨offset + 2, size⟩
          packetId := if delivery.packetId = none then 0
            else (memory (offset + 2 + size.toNat + 1)).toUInt16
          message := ⟨offset + 2 + size.toNat + delivery.idField.length,
            UInt16.ofNat (sizeSub totalSize (2 + size.toNat + delivery.idField.length))⟩ } := by
  have hcode := code_lt delivery.qos
  simp only [deserializePublish, qos_fixedHeader hcode, Interaction.eval_bind, eval_parseString,
    hsize, retain_fixedHeader hcode]
  rw [show offset + 2 + size.toNat + 2 - offset = 2 + size.toNat + 2 by omega,
    show offset + 2 + size.toNat - offset = 2 + size.toNat by omega]
  cases delivery with
  | atMostOnce => rfl
  | atLeastOnce packetId =>
      have hid : QoS1 ≤ UInt32.ofNat 1 := by decide
      simp only [Wire.Delivery.qos, Wire.Qos.code, hid, if_true, Interaction.eval_bind,
        eval_shortFromBuffer]
      rfl
  | exactlyOnce packetId =>
      have hid : QoS1 ≤ UInt32.ofNat 2 := by decide
      simp only [Wire.Delivery.qos, Wire.Qos.code, hid, if_true, Interaction.eval_bind,
        eval_shortFromBuffer]
      rfl

theorem length_encode_eq_one {value : Nat} (hvalue : value < 128) :
    (Base128.encode 4 value).length = 1 := by
  rw [Base128.encode_of_lt hvalue, List.length_singleton]

section Bodies

variable {memory : Memory} {offset : Nat}

theorem publish_carries_iff {dup retain : Bool} {delivery : Wire.Delivery}
    {topic payload : List UInt8}
    (hparsable : (Wire.Packet.publish dup retain delivery topic payload).Parsable)
    (hholds : memory.Holds offset (Wire.Packet.publish dup retain delivery topic payload).body) :
    ((deserializePublish (Wire.fixedHeader 3 dup delivery.qos.code retain)
          (Wire.Packet.publish dup retain delivery topic payload).body.length offset).eval
        memory).Carries memory (.publish dup retain delivery topic payload) ↔
      (Wire.Packet.publish dup retain delivery topic payload).LowBytes := by
  obtain ⟨htopic, hpayload⟩ := hparsable
  rw [Wire.Packet.body, Memory.holds_append, Memory.holds_append, Wire.string,
    Memory.holds_append] at hholds
  obtain ⟨⟨⟨hlength, hname⟩, hid⟩, hmessage⟩ := hholds
  simp only [List.length_append, Wire.length_short, ← Nat.add_assoc] at hname hid hmessage
  have hlow := low_of_holds hlength
  generalize hsize : (memory (offset + 1)).toUInt16 = size at hlow
  have hpacketId : size.toNat = topic.length →
      ((if delivery.packetId = none then 0
          else (memory (offset + 2 + size.toNat + 1)).toUInt16) = delivery.packetId.getD 0 ↔
        ∀ packetId ∈ delivery.packetId, packetId.toNat < 256) := by
    intro hsize
    rw [hsize]
    cases delivery with
    | atMostOnce => simp [Wire.Delivery.packetId]
    | atLeastOnce packetId => simpa [Wire.Delivery.packetId] using low_eq_iff hid
    | exactlyOnce packetId => simpa [Wire.Delivery.packetId] using low_eq_iff hid
  have hname := hname.slice_eq
  have hmessage := hmessage.slice_eq
  rw [eval_deserializePublish memory dup retain delivery _ offset hsize]
  constructor
  · rintro ⟨-, -, hcarried, htopicBytes, -⟩
    have hlengthEq : size.toNat = topic.length := by
      rw [← htopicBytes, Slice.bytes, Memory.length_slice]
    refine ⟨(hpacketId hlengthEq).mp hcarried, ?_⟩
    simp only [Wire.Packet.topics, List.mem_singleton, forall_eq]
    omega
  · rintro ⟨hids, htopics⟩
    have hshort : topic.length < 256 := htopics topic (by simp [Wire.Packet.topics])
    have hlengthEq : size.toNat = topic.length := by omega
    have htotal : sizeSub (Wire.Packet.publish dup retain delivery topic payload).body.length
        (2 + size.toNat + delivery.idField.length) = payload.length := by
      have hlengthId : delivery.idField.length ≤ 2 := by
        cases delivery <;> simp [Wire.Delivery.idField, Wire.Delivery.packetId]
      simp only [Wire.Packet.body, List.length_append, Wire.length_string]
      rw [sizeSub_of_le (by omega) (by omega)]
      omega
    refine ⟨rfl, rfl, (hpacketId hlengthEq).mpr hids, ?_, ?_⟩
    · rw [Slice.bytes, hlengthEq, hname]
    · rw [Slice.bytes, htotal, UInt16.toNat_ofNat_of_lt' hpayload, hlengthEq, hmessage]

/-- The segment misses as many results as the length field has bytes behind its first, but these are
behind the capacity of the arrays. -/
theorem eval_deserializeBody_suback {results : List (Option Wire.Qos)} {used : Nat}
    (hcount : results.length < 2 ^ 16)
    (hused : (Base128.encode 4 (2 + results.length)).length = used)
    (hholds : memory.Holds (1 + used + 2) (results.map Wire.grant)) (first : UInt8) :
    (deserializeBody .suback first (2 + results.length) (1 + used)).eval memory
      = .suback (memory (1 + used + 1)).toUInt16 ((results.take maxTopics).map subResultOf) := by
  have hpos : 0 < used := hused ▸ Base128.length_encode_pos 3 (2 + results.length)
  have hle : used ≤ 4 := hused ▸ Base128.length_encode_le 4 (2 + results.length)
  have hone : 2 + results.length < 128 → used = 1 := fun hlt => hused ▸ length_encode_eq_one hlt
  have hfits : used ≤ results.length + 1 := by
    by_cases hlt : 2 + results.length < 128
    · have := hone hlt
      omega
    · omega
  have hsegment : segmentSize (2 + results.length) (1 + used) = results.length + 1 - used := by
    rw [segmentSize_of_le (by omega) (by omega)]
    omega
  have hreach : results.take (min maxTopics (results.length + 1 - used)) = results.take maxTopics := by
    by_cases hlt : 2 + results.length < 128
    · rw [hone hlt, Nat.add_sub_cancel, ← List.take_take, List.take_length]
    · rw [Nat.min_eq_left]
      rw [maxTopics]
      omega
  simp only [deserializeBody, Interaction.eval_bind, eval_shortFromBuffer, Interaction.eval_pure,
    fillSubresultArrays, hsegment]
  rw [eval_fillSubresultLoop (by omega) hholds, Nat.add_sub_cancel_left, hreach]

theorem suback_carries_iff {packetId : UInt16} {results : List (Option Wire.Qos)}
    (hparsable : (Wire.Packet.suback packetId results).Parsable) {used : Nat}
    (hused : (Base128.encode 4 (Wire.Packet.suback packetId results).body.length).length = used)
    (hholds : memory.Holds (1 + used) (Wire.Packet.suback packetId results).body) (first : UInt8) :
    ((deserializeBody .suback first (Wire.Packet.suback packetId results).body.length
        (1 + used)).eval memory).Carries memory (.suback packetId results) ↔
      (Wire.Packet.suback packetId results).LowBytes := by
  obtain ⟨hid, hresults⟩ := Memory.holds_append.mp hholds
  have hcount : results.length ≤ maxTopics := hparsable
  have hlength : (Wire.Packet.suback packetId results).body.length = 2 + results.length := by
    simp [Wire.Packet.body]
  rw [hlength] at hused ⊢
  rw [eval_deserializeBody_suback (hcount.trans_lt (by decide)) hused hresults,
    List.take_of_length_le hcount]
  constructor
  · rintro ⟨hcarried, -⟩
    exact ⟨by simpa [Wire.Packet.packetId] using (low_eq_iff hid).mp hcarried,
      by simp [Wire.Packet.topics]⟩
  · rintro ⟨hids, -⟩
    exact ⟨(low_eq_iff hid).mpr (hids packetId rfl), rfl⟩

theorem length_lt_of_fillTopicArrays {bytecount : Nat} {withQos : Bool} {topics : List (List UInt8)}
    (hparsed : ((fillTopicArrays offset bytecount withQos).eval memory).map
      (fun entry => entry.topic.bytes memory) = topics) :
    ∀ topic ∈ topics, topic.length < 256 := by
  intro topic hmem
  rw [← hparsed, List.mem_map] at hmem
  obtain ⟨entry, hentry, rfl⟩ := hmem
  rw [Slice.bytes, Memory.length_slice]
  exact size_lt_of_mem_fillTopicLoop hentry

/-- The length field of a topic list that fits into the arrays takes one byte or two. -/
theorem length_topicFields_le {topics : List (List UInt8 × Option UInt8)}
    (hcount : topics.length ≤ maxTopics) (hshort : ∀ topic ∈ topics, topic.1.length < 256) :
    (topics.flatMap topicField).length ≤ 32 * 258 := by
  have hsum := length_flatMap_le topics topicField 258 fun topic hmem => by
    have hname := hshort topic hmem
    have hqos : topic.2.toList.length ≤ 1 := by cases topic.2 <;> simp
    rw [topicField, List.length_append, Wire.length_string]
    omega
  exact hsum.trans (Nat.mul_le_mul_right 258 hcount)

/-- The segment size misses as many bytes of the list as the length field has behind its first. -/
theorem segmentSize_topicFields {fieldLength used : Nat} (hfield : fieldLength ≤ 32 * 258)
    (hused : (Base128.encode 4 (2 + fieldLength)).length = used) :
    segmentSize (2 + fieldLength) (1 + used) = fieldLength + 1 - used ∧ 1 ≤ used ∧ used ≤ 2 ∧
      (used = 1 ↔ 2 + fieldLength < 128) ∧ used ≤ fieldLength + 1 := by
  have hpos : 0 < used := hused ▸ Base128.length_encode_pos 3 (2 + fieldLength)
  have hlimit : 2 + fieldLength < 128 ^ 2 := by omega
  have hle : used ≤ 2 := hused ▸ Base128.length_encode_le_of_lt (show 1 ≤ 3 by decide) hlimit
  have hone : used = 1 ↔ 2 + fieldLength < 128 := by
    constructor
    · intro hone
      by_contra hlong
      rw [Base128.encode_of_le (by omega), List.length_cons] at hused
      have hmore : 0 < (Base128.encode 3 ((2 + fieldLength) / 128)).length :=
        Base128.length_encode_pos 2 _
      omega
    · exact fun hlt => hused ▸ length_encode_eq_one hlt
  have hfits : used ≤ fieldLength + 1 := by
    by_cases hlt : 2 + fieldLength < 128
    · have := hone.mpr hlt
      omega
    · omega
  refine ⟨?_, hpos, hle, hone, hfits⟩
  rw [segmentSize_of_le (by omega) (by omega)]
  omega

/-- A topic list of a SUBSCRIBE or an UNSUBSCRIBE, behind the fixed header and the packet id. -/
theorem eval_fillTopicArrays {withQos : Bool} {packetId : UInt16}
    {topics : List (List UInt8 × Option UInt8)} {used : Nat} (hcount : topics.length ≤ maxTopics)
    (hwith : ∀ topic ∈ topics, topic.2.isSome = withQos)
    (hshort : ∀ topic ∈ topics, topic.1.length < 256)
    (hused : (Base128.encode 4
      (Wire.short packetId.toNat ++ topics.flatMap topicField).length).length = used)
    (hlast : ∀ last ∈ topics.getLast?, used < (topicField last).length)
    (hholds : memory.Holds (1 + used + 2) (topics.flatMap topicField)) :
    ((fillTopicArrays (1 + used + 2) (segmentSize
        (Wire.short packetId.toNat ++ topics.flatMap topicField).length (1 + used)) withQos).eval
          memory).map (fun entry => (entry.topic.bytes memory, entry.qos))
      = topics.map fun topic => (topic.1, topic.2.map UInt8.toUInt32) := by
  have hlength : (Wire.short packetId.toNat ++ topics.flatMap topicField).length
      = 2 + (topics.flatMap topicField).length := by
    simp
  rw [hlength] at hused ⊢
  obtain ⟨hsegment, hpos, -, -, hfits⟩ :=
    segmentSize_topicFields (length_topicFields_le hcount hshort) hused
  rw [hsegment]
  refine eval_fillTopicLoop hcount hwith hshort hholds (by omega) fun last hgetLast => ?_
  have hreach := hlast last hgetLast
  omega

theorem subscribe_carries_iff {dup : Bool} {packetId : UInt16} {topics : List (List UInt8 × Wire.Qos)}
    (hcount : topics.length ≤ maxTopics) {used : Nat}
    (hused : (Base128.encode 4 (Wire.Packet.subscribe dup packetId topics).body.length).length = used)
    (hholds : memory.Holds (1 + used) (Wire.Packet.subscribe dup packetId topics).body)
    (first : UInt8) :
    ((deserializeBody .subscribe first (Wire.Packet.subscribe dup packetId topics).body.length
        (1 + used)).eval memory).Carries memory (.subscribe dup packetId topics) ↔
      (Wire.Packet.subscribe dup packetId topics).LowBytes := by
  obtain ⟨hid, hlist⟩ := Memory.holds_append.mp hholds
  simp only [deserializeBody, Interaction.eval_bind, eval_shortFromBuffer, Interaction.eval_pure]
  have hfield : topics.flatMap Wire.subscription
      = (topics.map fun topic => (topic.1, some (UInt8.ofNat topic.2.code))).flatMap topicField := by
    rw [List.flatMap_map]
    rfl
  constructor
  · rintro ⟨hcarried, hentries⟩
    refine ⟨by simpa [Wire.Packet.packetId] using (low_eq_iff hid).mp hcarried, ?_⟩
    apply length_lt_of_fillTopicArrays
    simpa [Function.comp_def, Wire.Packet.topics] using congrArg (List.map Prod.fst) hentries
  · rintro ⟨hids, hshort⟩
    refine ⟨(low_eq_iff hid).mpr (hids packetId rfl), ?_⟩
    have hfields : ∀ field ∈ topics.map fun topic => (topic.1, some (UInt8.ofNat topic.2.code)),
        field.2.isSome = true ∧ field.1.length < 256 := by
      refine List.forall_mem_map.mpr fun topic hmem => ?_
      exact ⟨rfl, hshort topic.1 (List.mem_map_of_mem hmem)⟩
    have hcountFields : (topics.map fun topic =>
        (topic.1, some (UInt8.ofNat topic.2.code))).length ≤ maxTopics := by
      simpa using hcount
    have hshortFields := fun field hmem => (hfields field hmem).2
    rw [Wire.Packet.body, hfield] at hused ⊢
    rw [hfield, Wire.length_short] at hlist
    have htwo := segmentSize_topicFields (length_topicFields_le hcountFields hshortFields)
      (by simpa using hused)
    -- the QoS byte makes up for the byte that the segment misses
    have hreach : ∀ last ∈ (topics.map fun topic =>
        (topic.1, some (UInt8.ofNat topic.2.code))).getLast?, used < (topicField last).length := by
      intro last hgetLast
      obtain ⟨topic, -, rfl⟩ := List.mem_map.mp (List.mem_of_getLast? (Option.mem_def.mp hgetLast))
      simp only [topicField, List.length_append, Wire.length_string, Option.toList_some,
        List.length_singleton]
      omega
    rw [eval_fillTopicArrays hcountFields (fun field hmem => (hfields field hmem).1) hshortFields
      hused hreach hlist, List.map_map]
    refine List.map_congr_left fun topic _ => ?_
    obtain ⟨name, qos⟩ := topic
    cases qos <;> rfl

/-- No QoS byte follows the last topic of an UNSUBSCRIBE, which has to reach over what the segment
misses by itself. -/
theorem unsubscribe_carries_iff {dup : Bool} {packetId : UInt16} {topics : List (List UInt8)}
    (hcount : topics.length ≤ maxTopics) {used : Nat}
    (hused :
      (Base128.encode 4 (Wire.Packet.unsubscribe dup packetId topics).body.length).length = used)
    (hlast : ∀ last ∈ topics.getLast?, used = 1 ∨ last ≠ [])
    (hholds : memory.Holds (1 + used) (Wire.Packet.unsubscribe dup packetId topics).body)
    (first : UInt8) :
    ((deserializeBody .unsubscribe first (Wire.Packet.unsubscribe dup packetId topics).body.length
        (1 + used)).eval memory).Carries memory (.unsubscribe dup packetId topics) ↔
      (Wire.Packet.unsubscribe dup packetId topics).LowBytes := by
  obtain ⟨hid, hlist⟩ := Memory.holds_append.mp hholds
  simp only [deserializeBody, Interaction.eval_bind, eval_shortFromBuffer, Interaction.eval_pure]
  have hfield : topics.flatMap Wire.string
      = (topics.map fun topic => (topic, none)).flatMap topicField := by
    rw [List.flatMap_map]
    simp [topicField]
  constructor
  · rintro ⟨hcarried, hentries⟩
    refine ⟨by simpa [Wire.Packet.packetId] using (low_eq_iff hid).mp hcarried, ?_⟩
    exact length_lt_of_fillTopicArrays hentries
  · rintro ⟨hids, hshort⟩
    refine ⟨(low_eq_iff hid).mpr (hids packetId rfl), ?_⟩
    have hfields : ∀ field ∈ topics.map fun topic => (topic, (none : Option UInt8)),
        field.2.isSome = false ∧ field.1.length < 256 := by
      refine List.forall_mem_map.mpr fun topic hmem => ?_
      exact ⟨rfl, hshort topic hmem⟩
    have hcountFields : (topics.map fun topic => (topic, (none : Option UInt8))).length
        ≤ maxTopics := by
      simpa using hcount
    have hshortFields := fun field hmem => (hfields field hmem).2
    rw [Wire.Packet.body, hfield] at hused ⊢
    rw [hfield, Wire.length_short] at hlist
    have htwo := segmentSize_topicFields (length_topicFields_le hcountFields hshortFields)
      (by simpa using hused)
    have hreach : ∀ last ∈ (topics.map fun topic => (topic, (none : Option UInt8))).getLast?,
        used < (topicField last).length := by
      intro last hgetLast
      rw [List.getLast?_map, Option.mem_map] at hgetLast
      obtain ⟨topic, hgetLast, rfl⟩ := hgetLast
      simp only [topicField, List.length_append, Wire.length_string, Option.toList_none,
        List.length_nil]
      obtain hone | hne := hlast topic hgetLast
      · omega
      · have hpos := List.length_pos_iff.mpr hne
        omega
    have hfill := eval_fillTopicArrays hcountFields (fun field hmem => (hfields field hmem).1)
      hshortFields hused hreach hlist
    simpa [Function.comp_def] using congrArg (List.map Prod.fst) hfill

theorem id_carries_iff (packet : Wire.Packet) {packetId : UInt16}
    (hid : packet.packetId = some packetId) (htopics : packet.topics = [])
    (hholds : memory.Holds offset (Wire.short packetId.toNat)) :
    (memory (offset + 1)).toUInt16 = packetId ↔ packet.LowBytes := by
  rw [low_eq_iff hholds]
  constructor
  · intro hlow
    exact ⟨by simpa [hid] using hlow, by simp [htopics]⟩
  · intro hlow
    exact hlow.packetId packetId hid

end Bodies

/-- **Decoder conformance.** Of every packet it has room for the parser returns the right fields
exactly when the packet id and the topic lengths fit into one byte. -/
theorem deserializeResponse_carries_iff {memory : Memory} {packet : Wire.Packet}
    (hparsable : packet.Parsable) (hholds : memory.Holds 0 packet.encode) :
    (∃ response, (deserializeResponse packet.encode.length).eval memory = some response ∧
      response.Carries memory packet) ↔ packet.LowBytes := by
  obtain ⟨heval, hbody⟩ := eval_deserializeResponse (length_body_lt hparsable) hholds
  simp only [heval, Option.some.injEq, exists_eq_left']
  generalize hused : (Base128.encode 4 packet.body.length).length = used at hbody
  cases packet with
  | publish dup retain delivery topic payload => exact publish_carries_iff hparsable hbody
  | subscribe dup packetId topics => exact subscribe_carries_iff hparsable.1 hused hbody _
  | unsubscribe dup packetId topics =>
      refine unsubscribe_carries_iff hparsable.1 hused (fun last hgetLast => .inr ?_) hbody _
      exact (hparsable.2 last (List.mem_of_getLast? hgetLast)).1
  | suback packetId results => exact suback_carries_iff hparsable hused hbody _
  | puback packetId =>
      have hid := id_carries_iff (.puback packetId) rfl rfl hbody
      simpa [deserializeBody, Wire.Packet.type, Response.Carries] using hid
  | pubrec packetId =>
      have hid := id_carries_iff (.pubrec packetId) rfl rfl hbody
      simpa [deserializeBody, Wire.Packet.type, Response.Carries] using hid
  | pubrel dup packetId =>
      have hid := id_carries_iff (.pubrel dup packetId) rfl rfl hbody
      simpa [deserializeBody, Wire.Packet.type, Response.Carries] using hid
  | pubcomp packetId =>
      have hid := id_carries_iff (.pubcomp packetId) rfl rfl hbody
      simpa [deserializeBody, Wire.Packet.type, Response.Carries] using hid
  | unsuback packetId =>
      have hid := id_carries_iff (.unsuback packetId) rfl rfl hbody
      simpa [deserializeBody, Wire.Packet.type, Response.Carries] using hid

/-- The PUBACK of packet id 256 is read as one of packet id 0. -/
theorem puback_parsed_as_zero : ∃ (memory : Memory) (packet : Wire.Packet), packet.Parsable ∧
    memory.Holds 0 packet.encode ∧
    (deserializeResponse packet.encode.length).eval memory = some (.puback 0) ∧
    ¬ ∃ response, (deserializeResponse packet.encode.length).eval memory = some response ∧
      response.Carries memory packet := by
  let memory : Memory := Memory.write (fun _ => 0) (Wire.Packet.puback 256).encode
  have heval : (deserializeResponse (Wire.Packet.puback 256).encode.length).eval memory
      = some (.puback 0) := by decide
  refine ⟨memory, .puback 256, trivial, Memory.holds_write _ _, heval, ?_⟩
  rintro ⟨response, hparsed, hcarries⟩
  obtain rfl := Option.some.inj (heval.symm.trans hparsed)
  exact absurd hcarries (show (0 : UInt16) ≠ 256 by decide)

theorem unsubscribe_parsed : ∃ (memory : Memory) (packet : Wire.Packet), packet.Parsable ∧
    memory.Holds 0 packet.encode ∧ packet.topics.length = 2 ∧
    ∃ response, (deserializeResponse packet.encode.length).eval memory = some response ∧
      response.Carries memory packet := by
  let packet : Wire.Packet := .unsubscribe false 7 [[116, 47, 97], [98]]
  have hparsable : packet.Parsable := ⟨by decide, by simp⟩
  have hholds := Memory.holds_write (fun _ => 0) packet.encode
  exact ⟨_, packet, hparsable, hholds, rfl, (deserializeResponse_carries_iff hparsable hholds).mpr
    ⟨by simp [packet, Wire.Packet.packetId], by simp [packet, Wire.Packet.topics]⟩⟩

end Smqtt
