import Smqtt.Proof.Decoder

/-!
# What comes back of a frame

The parser is applied to what the encoders make. The two slips in the 16-bit fields do not cancel:
the high byte is lost on both sides. What else can get lost is decided by the capacity of the
parser's arrays and by its segment sizes, which count the fixed header.
-/

namespace Smqtt

/-- The parser gets the frame, whatever stands behind it, and returns the packet that the encoder
was asked for. -/
def EncoderCall.RoundTrips (call : EncoderCall) (behind : Memory) : Prop :=
  ∃ response, (deserializeResponse call.frame.length).eval (behind.write call.frame) = some response ∧
    response.Carries (behind.write call.frame) call.packet

/-! ### What a parsed packet can carry at all -/

section Carries

variable {memory : Memory}

theorem length_fillTopicLoop_le (withQos : Bool) (max fuel curr : Nat) :
    ((fillTopicLoop withQos max fuel curr).eval memory).length ≤ fuel := by
  induction fuel generalizing curr with
  | zero => exact le_rfl
  | succ fuel ih =>
      rw [fillTopicLoop]
      by_cases hmax : curr + 2 ≤ max
      · rw [if_pos hmax]
        cases withQos with
        | true => simpa using ih _
        | false => simpa using ih _
      · simp [hmax]

theorem type_of_carries {packet : Wire.Packet} {response : Response}
    (hcarries : response.Carries memory packet) : response.type = packet.type := by
  cases packet <;> cases response <;> first | rfl | exact hcarries.elim

theorem exists_low_deserializePublish (first : UInt8) (totalSize offset : Nat) :
    ∃ data, (deserializePublish first totalSize offset).eval memory = .publish data ∧
      data.topic.size.toNat < 256 ∧ data.packetId.toNat < 256 := by
  simp only [deserializePublish, Interaction.eval_bind, eval_parseString, Interaction.eval_ite,
    eval_shortFromBuffer, Interaction.eval_pure]
  split
  · exact ⟨_, rfl, toUInt16_lt _, toUInt16_lt _⟩
  · exact ⟨_, rfl, toUInt16_lt _, show (0 : UInt16).toNat < 256 by decide⟩

/-- Whatever is parsed, its packet id and its topics are those of one byte, and its topics are not
more than the arrays hold. -/
theorem lowBytes_of_carries {packet : Wire.Packet} {response : Response} {length : Nat}
    (heval : (deserializeResponse length).eval memory = some response)
    (hcarries : response.Carries memory packet) :
    packet.LowBytes ∧ packet.topics.length ≤ maxTopics := by
  obtain ⟨type, totalSize, offset, -, rfl⟩ := exists_deserializeBody_of_eval heval
  obtain rfl : type = packet.type := by
    rw [← type_of_carries hcarries, type_deserializeBody]
  have hid : ∀ packetId, (memory (offset + 1)).toUInt16 = packetId → packetId.toNat < 256 := by
    rintro _ rfl
    exact toUInt16_lt _
  cases packet with
  | publish dup retain delivery topic payload =>
      obtain ⟨data, hdata, htopic, hpacketId⟩ :=
        @exists_low_deserializePublish memory (memory 0) totalSize offset
      simp only [Wire.Packet.type, deserializeBody, hdata, Response.Carries] at hcarries
      obtain ⟨-, -, hcarriedId, hcarriedTopic, -⟩ := hcarries
      have hlength : topic.length = data.topic.size.toNat := by
        rw [← hcarriedTopic, Slice.bytes, Memory.length_slice]
      refine ⟨⟨fun packetId hsent => ?_, fun name hmem => ?_⟩, by simp [Wire.Packet.topics, maxTopics]⟩
      · have hsent : delivery.packetId = some packetId := hsent
        rw [hsent, Option.getD_some] at hcarriedId
        rwa [← hcarriedId]
      · obtain rfl := List.mem_singleton.mp hmem
        omega
  | subscribe dup packetId topics =>
      simp only [Wire.Packet.type, deserializeBody, Interaction.eval_bind, eval_shortFromBuffer,
        Interaction.eval_pure, Response.Carries] at hcarries
      have hnames := congrArg (List.map Prod.fst) hcarries.2
      simp only [List.map_map, Function.comp_def] at hnames
      refine ⟨⟨?_, ?_⟩, ?_⟩
      · rintro _ ⟨⟩
        exact hid packetId hcarries.1
      · exact length_lt_of_fillTopicArrays hnames
      · have hlength := congrArg List.length hnames
        rw [List.length_map] at hlength
        exact hlength ▸ length_fillTopicLoop_le _ _ _ _
  | unsubscribe dup packetId topics =>
      simp only [Wire.Packet.type, deserializeBody, Interaction.eval_bind, eval_shortFromBuffer,
        Interaction.eval_pure, Response.Carries] at hcarries
      refine ⟨⟨?_, length_lt_of_fillTopicArrays hcarries.2⟩, ?_⟩
      · rintro _ ⟨⟩
        exact hid packetId hcarries.1
      · have hlength := congrArg List.length hcarries.2
        rw [List.length_map] at hlength
        exact hlength ▸ length_fillTopicLoop_le _ _ _ _
  | suback packetId results =>
      simp only [Wire.Packet.type, deserializeBody, Interaction.eval_bind, eval_shortFromBuffer,
        Interaction.eval_pure, Response.Carries] at hcarries
      refine ⟨⟨?_, by simp [Wire.Packet.topics]⟩, by simp [Wire.Packet.topics]⟩
      rintro _ ⟨⟩
      exact hid packetId hcarries.1
  | puback packetId | pubrec packetId | pubrel dup packetId | pubcomp packetId | unsuback packetId =>
      simp only [Wire.Packet.type, deserializeBody, Interaction.eval_map, eval_shortFromBuffer,
        Response.Carries] at hcarries
      refine ⟨⟨?_, by simp [Wire.Packet.topics]⟩, by simp [Wire.Packet.topics]⟩
      rintro _ ⟨⟩
      exact hid packetId hcarries

end Carries

/-! ### The four packets that carry more than an id -/

/-- A frame that keeps to the wire format comes back if the parser can take it in. -/
theorem roundTrips_iff_of_encode {call : EncoderCall} (hframe : call.frame = call.packet.encode)
    (hbody : call.packet.body.length < Wire.lengthLimit) (behind : Memory) :
    ∃ used, (Base128.encode 4 call.packet.body.length).length = used ∧
      (behind.write call.frame).Holds (1 + used) call.packet.body ∧
      (call.RoundTrips behind ↔
        ((deserializeBody call.packet.type call.packet.header call.packet.body.length
          (1 + used)).eval (behind.write call.frame)).Carries (behind.write call.frame)
            call.packet) := by
  have hholds := Memory.holds_write behind call.frame
  rw [hframe] at hholds
  obtain ⟨heval, hafter⟩ := eval_deserializeResponse hbody hholds
  refine ⟨_, rfl, hframe ▸ hafter, ?_⟩
  rw [EncoderCall.RoundTrips, hframe, heval]
  simp

theorem publish_roundTrips_iff (topic : CString) (packetId : UInt16) (qos : Wire.Qos) (retain : Bool)
    (msg : Option CString) (behind : Memory) :
    (EncoderCall.publish topic packetId qos retain msg).RoundTrips behind ↔
      strlen topic < 256 ∧ msg.elim 0 strlen < 65536 ∧
        (qos = .atMostOnce ∨ packetId.toNat < 256) := by
  have hsent : (EncoderCall.delivery packetId qos).packetId
      = if qos = .atMostOnce then none else some packetId := by
    cases qos <;> rfl
  constructor
  · rintro ⟨response, heval, hcarries⟩
    obtain ⟨⟨hids, htopics⟩, -⟩ := lowBytes_of_carries heval hcarries
    refine ⟨htopics topic.bytes (List.mem_singleton_self _), ?_, ?_⟩
    · cases response with
      | publish data =>
          obtain ⟨-, -, -, -, hpayload⟩ := hcarries
          have hlength := congrArg List.length hpayload
          rw [Slice.bytes, Memory.length_slice] at hlength
          have hsize := data.message.size.toNat_lt
          cases msg with
          | none => decide
          | some msg => exact (hlength ▸ hsize : msg.bytes.length < 2 ^ 16)
      | _ => exact hcarries.elim
    · refine or_iff_not_imp_left.mpr fun hqos => hids packetId ?_
      change (EncoderCall.delivery packetId qos).packetId = _
      rw [hsent, if_neg hqos]
  · rintro ⟨htopic, hmsg, hid⟩
    let call := EncoderCall.publish topic packetId qos retain msg
    have hpayload : (msg.elim [] CString.bytes).length < 2 ^ 16 := by
      cases msg with
      | none => decide
      | some msg => exact hmsg
    have hparsable : call.packet.Parsable := ⟨htopic.trans (by decide), hpayload⟩
    have hbody := length_body_lt hparsable
    have hids : ∀ sent ∈ (EncoderCall.delivery packetId qos).packetId, sent.toNat < 256 := by
      intro sent hmem
      rw [hsent] at hmem
      split at hmem
      · cases hmem
      · obtain rfl := Option.some.inj hmem
        exact hid.resolve_left ‹_›
    have hframe : call.frame = call.packet.encode := by
      refine (publish_eq_iff ⟨?_, by simp [EncoderCall.topicCount], hbody⟩).mpr ⟨hids, ?_, hmsg⟩
      · simpa [EncoderCall.strings] using htopic.trans (by decide)
      · simpa [EncoderCall.strings] using htopic
    obtain ⟨used, hused, hafter, hiff⟩ := roundTrips_iff_of_encode hframe hbody behind
    refine hiff.mpr ((publish_carries_iff hparsable hafter).mpr
      ⟨hids, fun name hmem => ?_⟩)
    obtain rfl := List.mem_singleton.mp hmem
    exact htopic

theorem topicsSize_le {topics : List CString} {extra : Nat} (hextra : extra ≤ 1)
    (hcount : topics.length ≤ maxTopics) (hshort : ∀ topic ∈ topics, strlen topic < 256) :
    topicsSize topics extra ≤ 32 * 258 := by
  have heach : ∀ size ∈ topics.map fun topic => 2 + strlen topic + extra, size ≤ 258 := by
    refine List.forall_mem_map.mpr fun topic hmem => ?_
    have htopic := hshort topic hmem
    omega
  calc topicsSize topics extra
      ≤ (topics.map fun topic => 2 + strlen topic + extra).length • 258 :=
        List.sum_le_card_nsmul _ 258 heach
    _ = topics.length * 258 := by rw [List.length_map, smul_eq_mul]
    _ ≤ 32 * 258 := Nat.mul_le_mul_right 258 hcount

theorem subscribe_roundTrips_iff (packetId : UInt16) (topics : List (CString × Wire.Qos))
    (behind : Memory) :
    (EncoderCall.subscribe packetId topics).RoundTrips behind ↔
      topics.length ≤ maxTopics ∧ (∀ topic ∈ topics, strlen topic.1 < 256) ∧
        packetId.toNat < 256 := by
  let call := EncoderCall.subscribe packetId topics
  have htopics : call.packet.topics = topics.map fun topic => topic.1.bytes := by
    simp [call, EncoderCall.packet, Wire.Packet.topics]
  constructor
  · rintro ⟨response, heval, hcarries⟩
    obtain ⟨⟨hids, hshort⟩, hcount⟩ := lowBytes_of_carries heval hcarries
    rw [htopics] at hshort hcount
    exact ⟨by simpa using hcount, fun topic hmem => hshort _ (List.mem_map_of_mem hmem),
      hids packetId rfl⟩
  · rintro ⟨hcount, hshort, hid⟩
    have hstrings : ∀ str ∈ call.strings, strlen str < 256 :=
      List.forall_mem_map.mpr hshort
    have hsize : topicsSize (topics.map Prod.fst) 1 ≤ 32 * 258 :=
      topicsSize_le le_rfl (by simpa using hcount) hstrings
    have hbody : call.packet.body.length < Wire.lengthLimit := by
      have hlength := length_topics Prod.fst
        (fun topic : CString × Wire.Qos => [UInt8.ofNat topic.2.code]) 1 (fun _ => rfl) topics
      have hlength : call.packet.body.length = 2 + topicsSize (topics.map Prod.fst) 1 := by
        rw [← hlength]
        simp [call, EncoderCall.packet, Wire.Packet.body, List.flatMap_map, Wire.subscription]
      rw [hlength, Wire.lengthLimit]
      omega
    have hlow : call.packet.LowBytes := ⟨by rintro _ ⟨⟩; exact hid, by
      rw [htopics]
      exact List.forall_mem_map.mpr hshort⟩
    have hframe : call.frame = call.packet.encode := by
      refine (subscribe_eq_iff ⟨fun str hmem => (hstrings str hmem).trans (by decide), ?_, hbody⟩).mpr
        ⟨by rintro _ ⟨⟩; exact hid, hstrings, hsize.trans_lt (by decide)⟩
      exact hcount.trans_lt (by decide)
    obtain ⟨used, hused, hafter, hiff⟩ := roundTrips_iff_of_encode hframe hbody behind
    exact hiff.mpr ((subscribe_carries_iff (by simpa using hcount) hused hafter _).mpr hlow)

/-- With two length bytes the segment ends inside an empty last topic, which is not returned. -/
theorem eval_fillTopicArrays_lost {memory : Memory} {curr : Nat} {topics : List (List UInt8)}
    (hcount : topics.length ≤ maxTopics) (hshort : ∀ topic ∈ topics, topic.length < 256)
    (hholds : memory.Holds curr (topics.flatMap Wire.string)) :
    ((fillTopicArrays curr ((topics.flatMap Wire.string).length + 1) false).eval memory).map
      (fun entry => entry.topic.bytes memory) = topics := by
  have hfield : topics.flatMap Wire.string
      = (topics.map fun topic => (topic, none)).flatMap topicField := by
    rw [List.flatMap_map]
    simp [topicField]
  rw [hfield] at hholds ⊢
  have hloop := @eval_fillTopicLoop memory false _ maxTopics curr
    (topics.map fun topic => (topic, none)) (by simpa using hcount) (by simp) (by simpa using hshort)
    hholds (Nat.lt_succ_self _) (by
      intro last _
      simp only [topicField, List.length_append, Wire.length_string]
      omega)
  simpa [Function.comp_def, fillTopicArrays, Nat.add_assoc] using congrArg (List.map Prod.fst) hloop

theorem not_carries_of_empty_last {memory : Memory} {dup : Bool} {packetId : UInt16}
    {init : List (List UInt8)} (hcount : init.length ≤ maxTopics)
    (hshort : ∀ topic ∈ init, topic.length < 256) {used : Nat}
    (hused : (Base128.encode 4
      (Wire.Packet.unsubscribe dup packetId (init ++ [[]])).body.length).length = used)
    (hlong : 128 ≤ (Wire.Packet.unsubscribe dup packetId (init ++ [[]])).body.length)
    (hlength : (Wire.Packet.unsubscribe dup packetId (init ++ [[]])).body.length ≤ 2 + 32 * 258)
    (hholds : memory.Holds (1 + used) (Wire.Packet.unsubscribe dup packetId (init ++ [[]])).body)
    (first : UInt8) :
    ¬ ((deserializeBody .unsubscribe first
        (Wire.Packet.unsubscribe dup packetId (init ++ [[]])).body.length (1 + used)).eval
          memory).Carries memory (.unsubscribe dup packetId (init ++ [[]])) := by
  have hbody : (Wire.Packet.unsubscribe dup packetId (init ++ [[]])).body
      = Wire.short packetId.toNat ++ (init.flatMap Wire.string ++ Wire.string []) := by
    simp [Wire.Packet.body]
  have hbodyLength : (Wire.Packet.unsubscribe dup packetId (init ++ [[]])).body.length
      = 2 + ((init.flatMap Wire.string).length + 2) := by
    rw [hbody]
    simp
  rw [hbodyLength] at hused hlong hlength ⊢
  obtain ⟨hsegment, hpos, hle, hone, -⟩ := segmentSize_topicFields (by omega) hused
  obtain rfl : used = 2 := by omega
  rw [hbody, Memory.holds_append, Memory.holds_append] at hholds
  simp only [deserializeBody, Interaction.eval_bind, eval_shortFromBuffer, Interaction.eval_pure,
    hsegment]
  rintro ⟨-, hentries⟩
  have hlost := eval_fillTopicArrays_lost hcount hshort hholds.2.1
  have hsame := hentries.symm.trans hlost
  simp at hsame

/-- What the frame is like if its topics fit into the arrays. -/
theorem unsubscribe_fits {packetId : UInt16} {topics : List CString}
    (hcount : topics.length ≤ maxTopics) (hshort : ∀ topic ∈ topics, strlen topic < 256)
    (hid : packetId.toNat < 256) :
    let call := EncoderCall.unsubscribe packetId topics
    call.packet.LowBytes ∧ call.packet.body.length = 2 + topicsSize topics 0 ∧
      call.packet.body.length ≤ 2 + 32 * 258 ∧ call.frame = call.packet.encode := by
  intro call
  have hsize : topicsSize topics 0 ≤ 32 * 258 := topicsSize_le (Nat.zero_le 1) hcount hshort
  have hlength : call.packet.body.length = 2 + topicsSize topics 0 := by
    have hlength := length_topics id (fun _ => []) 0 (fun _ => rfl) topics
    rw [List.map_id] at hlength
    rw [← hlength]
    simp [call, EncoderCall.packet, Wire.Packet.body, List.flatMap_map]
  have hbody : call.packet.body.length < Wire.lengthLimit := by
    rw [hlength, Wire.lengthLimit]
    omega
  refine ⟨⟨by rintro _ ⟨⟩; exact hid, List.forall_mem_map.mpr hshort⟩, hlength, by omega, ?_⟩
  refine (unsubscribe_eq_iff ⟨fun str hmem => (hshort str hmem).trans (by decide), ?_, hbody⟩).mpr
    ⟨by rintro _ ⟨⟩; exact hid, hshort, hsize.trans_lt (by decide)⟩
  exact hcount.trans_lt (by decide)

theorem not_roundTrips_of_empty_last {packetId : UInt16} {init : List CString} {last : CString}
    (hcount : (init ++ [last]).length ≤ maxTopics)
    (hshort : ∀ topic ∈ init ++ [last], strlen topic < 256) (hid : packetId.toNat < 256)
    (hlong : 128 ≤ 2 + topicsSize (init ++ [last]) 0) (hlast : strlen last = 0) (behind : Memory) :
    ¬ (EncoderCall.unsubscribe packetId (init ++ [last])).RoundTrips behind := by
  intro hroundTrips
  obtain ⟨-, hlength, hle, hframe⟩ := unsubscribe_fits hcount hshort hid
  obtain ⟨used, hused, hafter, hiff⟩ := roundTrips_iff_of_encode hframe
    (hle.trans_lt (by decide)) behind
  have hempty : last.bytes = [] := List.length_eq_zero_iff.mp hlast
  have hpacket : (EncoderCall.unsubscribe packetId (init ++ [last])).packet
      = .unsubscribe false packetId (init.map CString.bytes ++ [[]]) := by
    simp [EncoderCall.packet, hempty]
  have hcarries := hiff.mp hroundTrips
  rw [hpacket] at hlength hle hused hafter hcarries
  rw [List.length_append] at hcount
  refine not_carries_of_empty_last (by simpa using Nat.le_of_succ_le hcount) ?_ hused
    (hlong.trans_eq hlength.symm) hle hafter _ hcarries
  exact List.forall_mem_map.mpr fun topic hmem => hshort topic (List.mem_append_left _ hmem)

theorem unsubscribe_roundTrips_iff (packetId : UInt16) (topics : List CString) (behind : Memory) :
    (EncoderCall.unsubscribe packetId topics).RoundTrips behind ↔
      topics.length ≤ maxTopics ∧ (∀ topic ∈ topics, strlen topic < 256) ∧
        packetId.toNat < 256 ∧
          (2 + (topics.map fun topic => 2 + strlen topic).sum < 128 ∨
            ∀ last ∈ topics.getLast?, strlen last ≠ 0) := by
  constructor
  · intro hroundTrips
    obtain ⟨hcount, hshort, hid⟩ : topics.length ≤ maxTopics ∧
        (∀ topic ∈ topics, strlen topic < 256) ∧ packetId.toNat < 256 := by
      obtain ⟨response, heval, hcarries⟩ := hroundTrips
      obtain ⟨⟨hids, hshort⟩, hcount⟩ := lowBytes_of_carries heval hcarries
      exact ⟨by simpa [EncoderCall.packet, Wire.Packet.topics] using hcount,
        List.forall_mem_map.mp hshort, hids packetId rfl⟩
    refine ⟨hcount, hshort, hid, or_iff_not_imp_left.mpr fun hlong last hgetLast hzero => ?_⟩
    obtain ⟨init, rfl⟩ := List.getLast?_eq_some_iff.mp hgetLast
    exact not_roundTrips_of_empty_last hcount hshort hid (Nat.le_of_not_lt hlong) hzero behind
      hroundTrips
  · rintro ⟨hcount, hshort, hid, hreach⟩
    obtain ⟨hlow, hlength, hle, hframe⟩ := unsubscribe_fits hcount hshort hid
    obtain ⟨used, hused, hafter, hiff⟩ := roundTrips_iff_of_encode hframe
      (hle.trans_lt (by decide)) behind
    refine hiff.mpr ((unsubscribe_carries_iff (by simpa using hcount) hused ?_ hafter _).mpr hlow)
    intro last hgetLast
    rw [List.getLast?_map, Option.mem_map] at hgetLast
    obtain ⟨topic, hgetLast, rfl⟩ := hgetLast
    obtain hlt | hne := hreach
    · left
      refine hused.symm.trans (length_encode_eq_one ?_)
      rw [hlength]
      exact hlt
    · right
      exact List.length_pos_iff.mp (Nat.pos_of_ne_zero (hne topic hgetLast))

/-- The last topic of an UNSUBSCRIBE is empty, and its frame has two length bytes. -/
theorem unsubscribe_not_roundTrips : ∃ (packetId : UInt16) (topics : List CString) (behind : Memory),
    packetId.toNat < 256 ∧ topics.length ≤ maxTopics ∧ (∀ topic ∈ topics, strlen topic < 256) ∧
      ¬ (EncoderCall.unsubscribe packetId topics).RoundTrips behind := by
  let long : CString := ⟨List.replicate 122 97, by simp⟩
  let empty : CString := ⟨[], by simp⟩
  have hshort : ∀ topic ∈ [long] ++ [empty], strlen topic < 256 := by
    simp [strlen, long, empty]
  refine ⟨7, [long] ++ [empty], fun _ => 0, by decide, by decide, hshort, ?_⟩
  exact not_roundTrips_of_empty_last (by simp [maxTopics]) hshort (by decide)
    (by simp [topicsSize, strlen, long, empty]) rfl _

/-- The results of a SUBACK come back up to the capacity of the arrays, whatever its length field
takes. -/
theorem suback_round_trip (packetId : UInt16) (results : List (Bool × Wire.Qos)) (behind : Memory)
    (hid : packetId.toNat < 256) (hcount : results.length < 2 ^ 16) :
    (deserializeResponse (EncoderCall.suback packetId results).frame.length).eval
        (behind.write (EncoderCall.suback packetId results).frame)
      = some (.suback packetId ((results.take maxTopics).map fun result =>
          ⟨result.1, if result.1 then UInt32.ofNat result.2.code else QoS0⟩)) := by
  let call := EncoderCall.suback packetId results
  have hlength : call.packet.body.length = 2 + results.length := by
    simp [call, EncoderCall.packet, Wire.Packet.body]
  have hbody : call.packet.body.length < Wire.lengthLimit := by
    rw [hlength, Wire.lengthLimit]
    omega
  have hframe : call.frame = call.packet.encode :=
    (suback_eq_iff ⟨by simp [EncoderCall.strings], hcount, hbody⟩).mpr hid
  have hholds := Memory.holds_write behind call.frame
  rw [hframe] at hholds
  obtain ⟨heval, hafter⟩ := eval_deserializeResponse hbody hholds
  rw [← hframe] at heval hafter
  generalize hused : (Base128.encode 4 call.packet.body.length).length = used at heval hafter
  obtain ⟨hlow, hgrants⟩ := Memory.holds_append.mp hafter
  rw [hlength] at hused heval
  have hcountGrants : (results.map grantOf).length < 2 ^ 16 := by simpa using hcount
  have hgranted := eval_deserializeBody_suback hcountGrants (by simpa using hused)
    (by simpa using hgrants) call.packet.header
  have hsubResult (result : Bool × Wire.Qos) : subResultOf (grantOf result)
      = ⟨result.1, if result.1 then UInt32.ofNat result.2.code else QoS0⟩ := by
    obtain ⟨success, qos⟩ := result
    cases success <;> rfl
  rw [List.length_map, (low_eq_iff hlow).mpr hid, ← List.map_take, List.map_map] at hgranted
  refine heval.trans (congrArg some (hgranted.trans ?_))
  simp only [Function.comp_def, hsubResult]

theorem suback_refusal_comes_back :
    (deserializeResponse
        (EncoderCall.suback 7 [(true, .exactlyOnce), (false, .atLeastOnce)]).frame.length).eval
        (Memory.write (fun _ => 0xff)
          (EncoderCall.suback 7 [(true, .exactlyOnce), (false, .atLeastOnce)]).frame)
      = some (.suback 7 [⟨true, QoS2⟩, ⟨false, QoS0⟩]) :=
  suback_round_trip 7 [(true, .exactlyOnce), (false, .atLeastOnce)] _ (by decide) (by decide)

end Smqtt
