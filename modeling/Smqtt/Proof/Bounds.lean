import Smqtt.Proof.Known

/-!
# What the parser reads

Apart from the length, which `decode_size` looks for up to and including the first byte behind the
buffer, nothing that is read is compared with the end of the buffer. Every string length that is
announced is believed. The parser keeps within the buffer exactly if what is announced ends in it.
-/

namespace Smqtt

open Interaction

/-! ### Where what is announced ends -/

/-- The end of a string that is announced at an offset. -/
def stringEnd (memory : Memory) (offset : Nat) : Nat := offset + 2 + (memory (offset + 1)).toNat

def optionalEnd (memory : Memory) (present : Bool) (offset : Nat) : Nat :=
  if present then stringEnd memory offset else offset

def connectEnd (memory : Memory) (offset : Nat) : Nat :=
  let version := stringEnd memory offset
  let flags := memory (version + 1)
  let clientId := stringEnd memory (version + 4)
  let willTopic := optionalEnd memory (flagBit flags 0x04 2) clientId
  let willMessage := optionalEnd memory (flagBit flags 0x04 2) willTopic
  let user := optionalEnd memory (flagBit flags 0x80 7) willMessage
  optionalEnd memory (flagBit flags 0x40 6) user

/-- The message takes what the topic and the packet id leave of the packet, modulo 2^16. -/
def publishEnd (memory : Memory) (totalSize offset : Nat) : Nat :=
  let withId := QoS1 ≤ UInt32.ofNat (((memory 0).toNat >>> 1) &&& 0x03)
  let message := stringEnd memory offset + if withId then 2 else 0
  message + (UInt16.ofNat (sizeSub totalSize (message - offset))).toNat

/-- The end of the topics that begin before `max`, each followed by `extra` bytes. -/
def topicsEnd (memory : Memory) (extra max : Nat) : Nat → Nat → Nat
  | 0, curr => curr
  | fuel + 1, curr =>
      if curr + 2 ≤ max then topicsEnd memory extra max fuel (stringEnd memory curr + extra)
      else curr

def bodyEnd (memory : Memory) (totalSize offset : Nat) : MessageType → Nat
  | .connect => connectEnd memory offset
  | .publish => publishEnd memory totalSize offset
  | .subscribe =>
      topicsEnd memory 1 (offset + 2 + segmentSize totalSize offset) maxTopics (offset + 2)
  | .unsubscribe =>
      topicsEnd memory 0 (offset + 2 + segmentSize totalSize offset) maxTopics (offset + 2)
  | .suback => offset + 2 + min maxTopics (segmentSize totalSize offset)
  | .connack => offset + 2
  | .puback => offset + 2
  | .pubrec => offset + 2
  | .pubrel => offset + 2
  | .pubcomp => offset + 2
  | .unsuback => offset + 2
  | .pingreq => offset
  | .pingresp => offset
  | .disconnect => offset

/-- The end of what a packet announces: of its length, if there is no more to it, or of its body. -/
def packetEnd (memory : Memory) (length : Nat) : Nat :=
  match lengthEnd memory length 4 1 with
  | none => 5
  | some last =>
      match MessageType.ofCode ((memory 0).toNat >>> 4) with
      | none => last + 1
      | some type => bodyEnd memory (lengthValue memory length 4 1) (1 + last) type

/-! ### What is read and what is returned -/

def TopicEntry.slices (topics : List TopicEntry) : List Slice := topics.map TopicEntry.topic

/-- The parts of the buffer that a response points to. -/
def Response.slices : Response → List Slice
  | connect data =>
      data.name :: data.clientId :: (data.willTopic.toList ++ data.willMessage.toList
        ++ data.user.toList ++ data.pw.toList)
  | publish data => [data.topic, data.message]
  | subscribe _ topics => TopicEntry.slices topics
  | unsubscribe _ topics => TopicEntry.slices topics
  | _ => []

def Slice.EndsWithin (length : Nat) (slice : Slice) : Prop :=
  slice.offset + slice.size.toNat ≤ length

/-- Every byte that is read has an index below the length. -/
def ReadsWithin {α : Type} (memory : Memory) (length : Nat) (parse : Parse α) : Prop :=
  ∀ index ∈ parse.calls memory, index < length

/-- So does every byte that is read for a response or that it points to. -/
def Bounded (memory : Memory) (length : Nat) : Prop :=
  ReadsWithin memory length (deserializeResponse length) ∧
    ∀ resp, (deserializeResponse length).eval memory = some resp →
      ∀ slice ∈ resp.slices, slice.EndsWithin length

section Reads

variable {α β : Type} {memory : Memory} {length : Nat}

@[simp]
theorem readsWithin_pure (value : α) : ReadsWithin memory length (pure value : Parse α) := by
  simp [ReadsWithin]

@[simp]
theorem readsWithin_bind (parse : Parse α) (f : α → Parse β) :
    ReadsWithin memory length (parse >>= f) ↔
      ReadsWithin memory length parse ∧ ReadsWithin memory length (f (parse.eval memory)) := by
  simp only [ReadsWithin, calls_bind, List.forall_mem_append]

@[simp]
theorem readsWithin_map (parse : Parse α) (f : α → β) :
    ReadsWithin memory length (f <$> parse) ↔ ReadsWithin memory length parse := by
  change ReadsWithin memory length (parse >>= fun value => pure (f value)) ↔ _
  simp

@[simp]
theorem readsWithin_readByte (index : Nat) :
    ReadsWithin memory length (readByte index) ↔ index < length := by
  simp [ReadsWithin, readByte]

@[simp]
theorem readsWithin_shortFromBuffer (index : Nat) :
    ReadsWithin memory length (shortFromBuffer index) ↔ index + 2 ≤ length := by
  simp only [shortFromBuffer, readsWithin_bind, readsWithin_readByte, readsWithin_pure, and_true]
  omega

@[simp]
theorem readsWithin_parseString (offset : Nat) :
    ReadsWithin memory length (parseString offset) ↔ offset + 2 ≤ length := by
  simp [parseString]

/-- The bytes of the length are read one after the other. -/
theorem calls_decodeSizeLoop (memory : Memory) (bufferEnd fuel buffer value multiplier used : Nat)
    (digit : UInt8) : ∃ count,
    (decodeSizeLoop bufferEnd fuel buffer value multiplier used digit).calls memory
        = List.range' buffer count ∧
      ((decodeSizeLoop bufferEnd fuel buffer value multiplier used digit).eval memory).2.1
        = used + count := by
  induction fuel generalizing buffer value multiplier used digit with
  | zero => exact ⟨0, rfl, rfl⟩
  | succ fuel ih =>
      by_cases hbuffer : buffer ≤ bufferEnd
      · by_cases hlast : (memory buffer).toNat &&& 0x80 = 0
        · refine ⟨1, ?_, ?_⟩ <;> simp [decodeSizeLoop, hbuffer, hlast, readByte]
        · obtain ⟨count, hcalls, hused⟩ := ih (buffer + 1)
            (value + ((memory buffer).toNat &&& 127) * multiplier) (multiplier * 128) (used + 1)
            (memory buffer)
          refine ⟨count + 1, ?_, ?_⟩
          · simp [decodeSizeLoop, hbuffer, hlast, readByte, hcalls, List.range'_succ]
          · rw [Nat.add_comm count 1, ← Nat.add_assoc, ← hused]
            simp [decodeSizeLoop, hbuffer, hlast]
      · refine ⟨0, ?_, ?_⟩ <;> simp [decodeSizeLoop, hbuffer]

theorem readsWithin_decodeSize {used : Nat} {size : Option Nat}
    (heval : (decodeSize 1 length).eval memory = (size, used)) :
    0 < length ∧ ReadsWithin memory length (decodeSize 1 length) ↔ used < length := by
  obtain ⟨count, hcalls, hused⟩ := calls_decodeSizeLoop memory length 4 1 0 1 0 0
  have hcount : used = count := by
    simp only [decodeSize, eval_bind, eval_ite] at heval
    rw [Nat.zero_add] at hused
    split at heval
    · exact (Prod.mk.inj heval).2.symm.trans hused
    · exact (Prod.mk.inj heval).2.symm.trans hused
  have hreads : (decodeSize 1 length).calls memory = List.range' 1 count := by
    simp only [decodeSize, calls_bind, calls_ite, hcalls]
    split <;> simp
  rw [ReadsWithin, hreads, hcount]
  simp only [List.mem_range'_1]
  constructor
  · rintro ⟨hlength, hreads⟩
    by_contra hle
    exact absurd (hreads count ⟨by omega, by omega⟩) (by omega)
  · refine fun hlt => ⟨by omega, ?_⟩
    rintro index ⟨-, hindex⟩
    omega

end Reads

/-! ### The bodies -/

section Bodies

variable {memory : Memory} {length : Nat}

theorem optional_within_iff (present : Bool) (offset : Nat) :
    offset ≤ length ∧ ReadsWithin memory length (parseOptional present offset) ∧
        (∀ slice ∈ ((parseOptional present offset).eval memory).1, slice.EndsWithin length) ↔
      optionalEnd memory present offset ≤ length := by
  cases present with
  | false => simp [parseOptional, optionalEnd]
  | true =>
      simp [parseOptional, optionalEnd, Slice.EndsWithin, stringEnd]
      omega

theorem eval_parseOptional_snd (present : Bool) (offset : Nat) :
    ((parseOptional present offset).eval memory).2 = optionalEnd memory present offset := by
  cases present with
  | false => rfl
  | true => simp [parseOptional, optionalEnd, stringEnd]

/-- The sections end one behind the other, so that the last of them decides. -/
theorem connect_within_iff (offset : Nat) :
    ReadsWithin memory length (deserializeConnect offset) ∧
        (∀ slice ∈ ((deserializeConnect offset).eval memory).slices, slice.EndsWithin length) ↔
      connectEnd memory offset ≤ length := by
  simp only [deserializeConnect, readsWithin_bind, eval_bind, eval_pure, readsWithin_parseString,
    readsWithin_readByte, readsWithin_shortFromBuffer, readsWithin_pure, Response.slices,
    List.forall_mem_cons, List.forall_mem_append, Option.mem_toList, eval_parseOptional_snd,
    eval_readByte, eval_parseString, UInt8.toNat_toUInt16, and_true]
  set version := offset + 2 + (memory (offset + 1)).toNat
  set clientId := version + 6 + (memory (version + 4 + 1)).toNat
  have hclient : stringEnd memory (version + 4) = clientId := by
    simp only [stringEnd, clientId]
  have hend : connectEnd memory offset = optionalEnd memory (flagBit (memory (version + 1)) 64 6)
      (optionalEnd memory (flagBit (memory (version + 1)) 128 7)
        (optionalEnd memory (flagBit (memory (version + 1)) 4 2)
          (optionalEnd memory (flagBit (memory (version + 1)) 4 2) clientId))) := by
    rw [← hclient]
    rfl
  rw [hend]
  constructor
  · rintro ⟨⟨-, -, -, -, -, htopic, hmessage, huser, hpw⟩, -, hclientId,
      ⟨⟨htopics, hmessages⟩, husers⟩, hpws⟩
    have hclientEnd : clientId ≤ length := by
      simpa [Slice.EndsWithin, hclient, stringEnd] using hclientId
    have htopicEnd := (optional_within_iff _ _).mp ⟨hclientEnd, htopic, htopics⟩
    have hmessageEnd := (optional_within_iff _ _).mp ⟨htopicEnd, hmessage, hmessages⟩
    have huserEnd := (optional_within_iff _ _).mp ⟨hmessageEnd, huser, husers⟩
    exact (optional_within_iff _ _).mp ⟨huserEnd, hpw, hpws⟩
  · intro hpwEnd
    obtain ⟨huserEnd, hpw, hpws⟩ := (optional_within_iff _ _).mpr hpwEnd
    obtain ⟨hmessageEnd, huser, husers⟩ := (optional_within_iff _ _).mpr huserEnd
    obtain ⟨htopicEnd, hmessage, hmessages⟩ := (optional_within_iff _ _).mpr hmessageEnd
    obtain ⟨hclientEnd, htopic, htopics⟩ := (optional_within_iff _ _).mpr htopicEnd
    refine ⟨⟨by omega, by omega, by omega, by omega, by omega, htopic, hmessage, huser, hpw⟩,
      ?_, ?_, ⟨⟨htopics, hmessages⟩, husers⟩, hpws⟩
    · simp only [Slice.EndsWithin, UInt8.toNat_toUInt16]
      omega
    · simp only [Slice.EndsWithin, UInt8.toNat_toUInt16]
      omega

theorem publish_within_iff (totalSize offset : Nat) :
    ReadsWithin memory length (deserializePublish (memory 0) totalSize offset) ∧
        (∀ slice ∈ ((deserializePublish (memory 0) totalSize offset).eval memory).slices,
          slice.EndsWithin length) ↔
      publishEnd memory totalSize offset ≤ length := by
  by_cases hqos : QoS1 ≤ UInt32.ofNat (((memory 0).toNat >>> 1) &&& 0x03)
  · simp only [deserializePublish, readsWithin_bind, eval_bind, hqos, if_true, eval_pure,
      readsWithin_parseString, readsWithin_shortFromBuffer, readsWithin_pure, Response.slices,
      List.forall_mem_cons, Slice.EndsWithin, publishEnd, stringEnd,
      eval_parseString, UInt8.toNat_toUInt16]
    simp
    omega
  · simp only [deserializePublish, readsWithin_bind, eval_bind, hqos, if_false, eval_pure,
      readsWithin_parseString, readsWithin_pure, Response.slices,
      List.forall_mem_cons, Slice.EndsWithin, publishEnd, stringEnd,
      eval_parseString, UInt8.toNat_toUInt16]
    simp
    omega

theorem fillTopicLoop_within_iff (withQos : Bool) (max fuel curr : Nat) :
    curr ≤ length ∧ ReadsWithin memory length (fillTopicLoop withQos max fuel curr) ∧
        (∀ slice ∈ TopicEntry.slices ((fillTopicLoop withQos max fuel curr).eval memory),
          slice.EndsWithin length) ↔
      topicsEnd memory (if withQos then 1 else 0) max fuel curr ≤ length := by
  induction fuel generalizing curr with
  | zero => simp [fillTopicLoop, topicsEnd, TopicEntry.slices]
  | succ fuel ih =>
      by_cases hmore : curr + 2 ≤ max
      · have hrest := ih (stringEnd memory curr + if withQos then 1 else 0)
        rw [topicsEnd, if_pos hmore, ← hrest]
        cases withQos with
        | true =>
            simp only [fillTopicLoop, if_pos hmore, readsWithin_bind, readsWithin_shortFromBuffer,
              readsWithin_readByte, readsWithin_pure, eval_bind, eval_pure, eval_shortFromBuffer,
              UInt8.toNat_toUInt16, if_true, and_true, TopicEntry.slices, List.map_cons,
              List.forall_mem_cons, Slice.EndsWithin, stringEnd]
            constructor
            · rintro ⟨-, ⟨-, hqos, hreads⟩, -, hslices⟩
              exact ⟨hqos, hreads, hslices⟩
            · rintro ⟨hend, hreads, hslices⟩
              exact ⟨by omega, ⟨by omega, hend, hreads⟩, by omega, hslices⟩
        | false =>
            simp only [fillTopicLoop, if_pos hmore, readsWithin_bind, readsWithin_shortFromBuffer,
              readsWithin_pure, eval_bind, eval_pure, eval_shortFromBuffer, UInt8.toNat_toUInt16,
              Bool.false_eq_true, if_false, Nat.add_zero, and_true, TopicEntry.slices, List.map_cons,
              List.forall_mem_cons, Slice.EndsWithin, stringEnd]
            constructor
            · rintro ⟨-, ⟨-, hreads⟩, hend, hslices⟩
              exact ⟨hend, hreads, hslices⟩
            · rintro ⟨hend, hreads, hslices⟩
              exact ⟨by omega, ⟨by omega, hreads⟩, hend, hslices⟩
      · simp [fillTopicLoop, topicsEnd, hmore, TopicEntry.slices]

/-- The results are read one by one, up to the end of the segment or of the arrays. -/
theorem fillSubresultLoop_within_iff (max fuel curr : Nat) :
    curr ≤ length ∧ ReadsWithin memory length (fillSubresultLoop max fuel curr) ↔
      curr + min fuel (max - curr) ≤ length := by
  induction fuel generalizing curr with
  | zero => simp [fillSubresultLoop]
  | succ fuel ih =>
      by_cases hmore : curr + 1 ≤ max
      · have hrest := ih (curr + 1)
        simp only [fillSubresultLoop, if_pos hmore, readsWithin_bind, readsWithin_readByte,
          readsWithin_pure, and_true]
        have hcurr : curr + min (fuel + 1) (max - curr)
            = curr + 1 + min fuel (max - (curr + 1)) := by omega
        rw [hcurr, ← hrest]
        exact ⟨fun hall => hall.2, fun hall => ⟨by omega, hall⟩⟩
      · have hnone : max - curr = 0 := by omega
        simp [fillSubresultLoop, hmore, hnone]

/-- The packet id stands in front of the topics. -/
theorem behind_id_iff {offset : Nat} {reads slices : Prop} :
    offset ≤ length ∧ (offset + 2 ≤ length ∧ reads) ∧ slices ↔
      offset + 2 ≤ length ∧ reads ∧ slices := by
  rw [and_assoc]
  exact and_iff_right_of_imp fun hwithin => (Nat.le_add_right offset 2).trans hwithin.1

theorem body_within_iff (type : MessageType) (totalSize offset : Nat) :
    offset ≤ length ∧
        ReadsWithin memory length (deserializeBody type (memory 0) totalSize offset) ∧
        (∀ slice ∈ ((deserializeBody type (memory 0) totalSize offset).eval memory).slices,
          slice.EndsWithin length) ↔
      bodyEnd memory totalSize offset type ≤ length := by
  cases type with
  | connect =>
      rw [bodyEnd, ← connect_within_iff]
      refine and_iff_right_of_imp fun hwithin => ?_
      have hreads : ReadsWithin memory length (deserializeConnect offset) := hwithin.1
      rw [deserializeConnect, readsWithin_bind, readsWithin_parseString] at hreads
      omega
  | publish =>
      rw [bodyEnd, ← publish_within_iff]
      refine and_iff_right_of_imp fun hwithin => ?_
      have hreads : ReadsWithin memory length
          (deserializePublish (memory 0) totalSize offset) := hwithin.1
      rw [deserializePublish, readsWithin_bind, readsWithin_parseString] at hreads
      omega
  | subscribe =>
      refine Iff.trans ?_ (fillTopicLoop_within_iff true _ maxTopics (offset + 2))
      simp only [deserializeBody, fillTopicArrays, readsWithin_bind, readsWithin_shortFromBuffer,
        readsWithin_pure, eval_bind, eval_pure, Response.slices, and_true]
      exact behind_id_iff
  | unsubscribe =>
      refine Iff.trans ?_ (fillTopicLoop_within_iff false _ maxTopics (offset + 2))
      simp only [deserializeBody, fillTopicArrays, readsWithin_bind, readsWithin_shortFromBuffer,
        readsWithin_pure, eval_bind, eval_pure, Response.slices, and_true]
      exact behind_id_iff
  | suback =>
      have hloop := @fillSubresultLoop_within_iff memory length
        (offset + 2 + segmentSize totalSize offset) maxTopics (offset + 2)
      rw [Nat.add_sub_cancel_left] at hloop
      rw [bodyEnd, ← hloop]
      simp only [deserializeBody, fillSubresultArrays, readsWithin_bind, readsWithin_shortFromBuffer,
        readsWithin_pure, eval_bind, eval_pure, Response.slices, List.not_mem_nil, and_true,
        false_imp_iff, implies_true]
      constructor
      · exact fun hall => hall.2
      · exact fun hall => ⟨by omega, hall⟩
  | pingreq => simp [deserializeBody, bodyEnd, Response.slices]
  | pingresp => simp [deserializeBody, bodyEnd, Response.slices]
  | disconnect => simp [deserializeBody, bodyEnd, Response.slices]
  | _ =>
      simp only [deserializeBody, bodyEnd, Response.slices, readsWithin_map, readsWithin_bind,
        readsWithin_shortFromBuffer, readsWithin_readByte, readsWithin_pure, eval_map, eval_bind,
        eval_pure, List.not_mem_nil, false_imp_iff, implies_true, and_true]
      omega

end Bodies

/-- **Bounded parsing.** The parser keeps within the buffer exactly if what the bytes announce ends in
it. -/
theorem bounded_iff (memory : Memory) (length : Nat) :
    Bounded memory length ↔ packetEnd memory length ≤ length := by
  have hdecode := eval_decodeSize memory length
  rw [Bounded, packetEnd, deserializeResponse]
  simp only [readsWithin_bind, readsWithin_readByte, eval_bind, eval_readByte]
  cases hend : lengthEnd memory length 4 1 with
  | none =>
      simp only [hend] at hdecode
      have hreads := readsWithin_decodeSize hdecode
      simp [hdecode, hreads]
      omega
  | some last =>
      simp only [hend] at hdecode
      have hreads := readsWithin_decodeSize hdecode
      simp only [hdecode]
      cases MessageType.ofCode ((memory 0).toNat >>> 4) with
      | none =>
          simp [hreads]
      | some type =>
          simp only [readsWithin_map, eval_map, Option.some.injEq, forall_eq']
          rw [← body_within_iff, ← and_assoc, hreads, ← Nat.succ_le_iff, Nat.add_comm 1 last,
            and_assoc]

/-- The parser looks at the byte behind a buffer of one. -/
theorem one_byte_not_bounded : ¬ ∀ (memory : Memory) (length : Nat), 1 ≤ length →
    Bounded memory length := by
  intro hbounded
  have hreads := (hbounded (fun _ => 0xd0) 1 le_rfl).1 1 (by decide)
  exact absurd hreads (by decide)

end Smqtt
