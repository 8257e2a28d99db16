import Smqtt.Proof.Encoders
import Smqtt.Proof.Receive

/-!
# Packets in a stream

`network_receive` called again and again on the bytes of one packet after another. A length below 128
is one byte and is read right. The first byte of a longer length says between 128 and 255, which is
always less than is there: the call stops inside the packet.
-/

namespace Smqtt

/-- A packet as it is framed: a byte of header and a body that a length stands in front of. -/
structure Packet where
  header : UInt8
  body : List UInt8
  fits : body.length < Wire.lengthLimit

namespace Packet

def bytes (packet : Packet) : List UInt8 :=
  packet.header :: (encodeSize packet.body.length).2 ++ packet.body

/-- The bytes of packets, one behind the other. -/
def stream (packets : List Packet) : List UInt8 := packets.flatMap bytes

end Packet

/-- What `recv` does when the stream holds less than it asks for. -/
abbrev Shortfall := List UInt8 → (count : Nat) →
  Option { bytes : List UInt8 // bytes.length ≤ count } × List UInt8

/-- A socket on which the stream arrives; `ready` is whether `select` succeeds. -/
def streamSocket (shortfall : Shortfall) (ready : Bool) (stream : List UInt8) :
    (call : SocketCall) → SocketAnswer call × List UInt8
  | .select => (ready, stream)
  | .recv _ count =>
      if count ≤ stream.length then
        (some ⟨stream.take count, List.length_take_le count stream⟩, stream.drop count)
      else shortfall stream count

/-- One call after the other, each with the outcome of its `select`: what every call returns and
stands at the start of the buffer then, and the stream that is left. -/
def receiveAll (shortfall : Shortfall) :
    List Bool → Memory → List UInt8 → List (Int × List UInt8) × List UInt8
  | [], _, stream => ([], stream)
  | ready :: calls, buffer, stream =>
      let ((size, buffer), stream) := (networkReceive buffer).run (streamSocket shortfall ready) stream
      let (results, stream) := receiveAll shortfall calls buffer stream
      ((size, buffer.slice 0 size.toNat) :: results, stream)

/-- What the calls are to return: each whose `select` succeeds the next packet. -/
def deliveries : List Bool → List Packet → List (List UInt8)
  | true :: calls, packet :: packets => packet.bytes :: deliveries calls packets
  | false :: calls, packets => [] :: deliveries calls packets
  | _, _ => []

/-! ### One call -/

section Receive

variable {shortfall : Shortfall} {buffer : Memory}

theorem run_networkReceive_unready (stream : List UInt8) :
    (networkReceive buffer).run (streamSocket shortfall false) stream = ((0, buffer), stream) := rfl

theorem writeAt_nil (memory : Memory) (offset : Nat) : memory.writeAt offset [] = memory := by
  funext index
  simp [Memory.writeAt]

/-- A call reads two bytes, and as many as the second of them says. -/
theorem run_networkReceive (shortfall : Shortfall) (buffer : Memory) (header : UInt8)
    {length : UInt8} {rest : List UInt8} (hrest : length.toNat ≤ rest.length) :
    (networkReceive buffer).run (streamSocket shortfall true) (header :: length :: rest)
      = ((((length.toNat + 2 : Nat) : Int),
          (buffer.writeAt 0 [header, length]).writeAt 2 (rest.take length.toNat)),
        rest.drop length.toNat) := by
  have hbyte : buffer.writeAt 0 [header, length] 1 = length := rfl
  by_cases hzero : length.toNat = 0
  · simp [networkReceive, select, recv, streamSocket, hbyte, hzero, writeAt_nil]
  · have hpos := Nat.pos_of_ne_zero hzero
    simp [networkReceive, select, recv, streamSocket, hbyte, hpos, hrest]

theorem slice_networkReceive (buffer : Memory) (header : UInt8) {length : UInt8}
    {rest : List UInt8} (hrest : length.toNat ≤ rest.length) :
    ((buffer.writeAt 0 [header, length]).writeAt 2 (rest.take length.toNat)).slice 0
      (length.toNat + 2) = header :: length :: rest.take length.toNat := by
  have hslice : ((buffer.writeAt 0 [header, length]).writeAt 2 (rest.take length.toNat)).slice 0
      ((rest.take length.toNat).length + 2) = [header, length] ++ rest.take length.toNat :=
    slice_of_two_reads rfl
  rwa [List.length_take_of_le hrest] at hslice

end Receive

/-! ### One packet -/

namespace Packet

variable {packet : Packet}

theorem bytes_of_short (hshort : packet.body.length < 128) :
    packet.bytes = packet.header :: UInt8.ofNat packet.body.length :: packet.body := by
  rw [bytes, encodeSize_snd packet.fits, Base128.encode_of_lt hshort]
  rfl

theorem bytes_of_long (hlong : 128 ≤ packet.body.length) :
    packet.bytes = packet.header :: UInt8.ofNat (packet.body.length % 128 + 128) ::
      (Base128.encode 3 (packet.body.length / 128) ++ packet.body) := by
  rw [bytes, encodeSize_snd packet.fits, Base128.encode_of_le hlong]
  rfl

@[simp]
theorem stream_cons (packet : Packet) (packets : List Packet) :
    stream (packet :: packets) = packet.bytes ++ stream packets := rfl

@[simp]
theorem stream_append (left right : List Packet) :
    stream (left ++ right) = stream left ++ stream right :=
  List.flatMap_append

/-- A short packet is received as it is. -/
theorem receive_short (shortfall : Shortfall) (buffer : Memory) (hshort : packet.body.length < 128)
    (rest : List UInt8) :
    ∃ filled : Memory, (networkReceive buffer).run (streamSocket shortfall true) (packet.bytes ++ rest)
        = (((packet.bytes.length : Int), filled), rest) ∧
      filled.slice 0 packet.bytes.length = packet.bytes := by
  have hlength : (UInt8.ofNat packet.body.length).toNat = packet.body.length := by
    rw [UInt8.toNat_ofNat']
    omega
  have henough : (UInt8.ofNat packet.body.length).toNat ≤ (packet.body ++ rest).length := by
    rw [hlength, List.length_append]
    omega
  have hrun := run_networkReceive shortfall buffer packet.header henough
  have hslice := slice_networkReceive buffer packet.header henough
  rw [hlength, List.take_left, List.drop_left] at hrun
  rw [hlength, List.take_left] at hslice
  rw [bytes_of_short hshort]
  exact ⟨_, hrun, hslice⟩

/-- A call stops inside a long packet. -/
theorem receive_long (shortfall : Shortfall) (buffer : Memory) (hlong : 128 ≤ packet.body.length)
    (rest : List UInt8) :
    ∃ (count : Nat) (filled : Memory),
      (networkReceive buffer).run (streamSocket shortfall true) (packet.bytes ++ rest)
        = (((count : Int), filled), (packet.bytes ++ rest).drop count) ∧
      0 < count ∧ count < packet.bytes.length := by
  have hlength : (UInt8.ofNat (packet.body.length % 128 + 128)).toNat
      = packet.body.length % 128 + 128 := by
    rw [UInt8.toNat_ofNat']
    omega
  have hdigits : 0 < (Base128.encode 3 (packet.body.length / 128)).length :=
    Base128.length_encode_pos 2 _
  have henough : (UInt8.ofNat (packet.body.length % 128 + 128)).toNat
      ≤ (Base128.encode 3 (packet.body.length / 128) ++ packet.body ++ rest).length := by
    rw [hlength, List.length_append, List.length_append]
    omega
  have hrun := run_networkReceive shortfall buffer packet.header henough
  rw [hlength] at hrun
  rw [bytes_of_long hlong]
  refine ⟨packet.body.length % 128 + 128 + 2, _, hrun, by omega, ?_⟩
  simp only [List.length_cons, List.length_append]
  omega

theorem length_stream_le_of_suffix {left right : List Packet} (hsuffix : left <:+ right) :
    (stream left).length ≤ (stream right).length := by
  obtain ⟨before, rfl⟩ := hsuffix
  rw [stream_append, List.length_append]
  omega

/-- Inside a packet, the rest of the stream is not that of the rest of the packets. -/
theorem off_boundary {packets tail whole : List Packet} {count : Nat}
    (htail : packet :: tail <:+ packets) (hwhole : whole <:+ packets) (hpos : 0 < count)
    (hcount : count < packet.bytes.length) :
    (packet.bytes ++ stream tail).drop count ≠ stream whole := by
  intro heq
  have hlength := congrArg List.length heq
  rw [List.length_drop, List.length_append] at hlength
  rcases List.suffix_or_suffix_of_suffix htail hwhole with hlonger | hshorter
  · have hle := length_stream_le_of_suffix hlonger
    rw [stream_cons, List.length_append] at hle
    omega
  · rcases List.suffix_cons_iff.mp hshorter with rfl | hshorter
    · rw [stream_cons, List.length_append] at hlength
      omega
    · have hle := length_stream_le_of_suffix hshorter
      omega

end Packet

/-! ### Runs -/

section Runs

variable {shortfall : Shortfall}

/-- As long as the packets are short, the calls return them one by one. -/
theorem receiveAll_short (calls : List Bool) (buffer : Memory) (short : List Packet)
    (rest : List UInt8) (hshort : ∀ packet ∈ short, packet.body.length < 128)
    (hcalls : calls.count true ≤ short.length) :
    receiveAll shortfall calls buffer (Packet.stream short ++ rest)
      = ((deliveries calls short).map fun bytes => ((bytes.length : Int), bytes),
        Packet.stream (short.drop (calls.count true)) ++ rest) := by
  induction calls generalizing buffer short with
  | nil => rfl
  | cons ready calls ih =>
      cases ready with
      | false =>
          rw [receiveAll, run_networkReceive_unready]
          simp only [List.count_cons_of_ne Bool.false_ne_true] at hcalls ⊢
          rw [ih buffer short hshort hcalls]
          simp [deliveries, Memory.slice]
      | true =>
          rw [List.count_cons_self] at hcalls ⊢
          cases short with
          | nil => simp at hcalls
          | cons packet short =>
              obtain ⟨hpacket, hshort⟩ := List.forall_mem_cons.mp hshort
              obtain ⟨filled, hrun, hslice⟩ := Packet.receive_short shortfall buffer hpacket
                (Packet.stream short ++ rest)
              rw [receiveAll, Packet.stream_cons, List.append_assoc, hrun]
              dsimp only
              rw [ih filled short hshort (by simpa using hcalls)]
              simp [deliveries, hslice]

theorem receiveAll_append (shortfall : Shortfall) (left right : List Bool) (buffer : Memory)
    (stream : List UInt8) :
    ∃ middle, (receiveAll shortfall (left ++ right) buffer stream)
      = ((receiveAll shortfall left buffer stream).1
          ++ (receiveAll shortfall right middle (receiveAll shortfall left buffer stream).2).1,
        (receiveAll shortfall right middle (receiveAll shortfall left buffer stream).2).2) := by
  induction left generalizing buffer stream with
  | nil => exact ⟨buffer, rfl⟩
  | cons ready left ih =>
      simp only [List.cons_append, receiveAll]
      obtain ⟨middle, hmiddle⟩ := ih
        ((networkReceive buffer).run (streamSocket shortfall ready) stream).1.2
        ((networkReceive buffer).run (streamSocket shortfall ready) stream).2
      exact ⟨middle, by rw [hmiddle]⟩

end Runs

/-- **Framing in a stream.** Calls on a stream of packets return one short packet after the other,
whatever calls between them fail in `select`. The call that comes to a long packet returns a count
other than its size, and the stream it leaves does not start at a packet. -/
theorem stream_framing (shortfall : Shortfall) (buffer : Memory) (short others : List Packet)
    (hshort : ∀ packet ∈ short, packet.body.length ≤ 127) (calls : List Bool) :
    (calls.count true ≤ short.length →
      receiveAll shortfall calls buffer (Packet.stream (short ++ others))
        = ((deliveries calls short).map fun bytes => ((bytes.length : Int), bytes),
          Packet.stream ((short ++ others).drop (calls.count true)))) ∧
    (calls.count true = short.length → ∀ long ∈ others.head?, 128 ≤ long.body.length →
      ∃ (count : Int) (bytes left : List UInt8),
        receiveAll shortfall (calls ++ [true]) buffer (Packet.stream (short ++ others))
          = ((deliveries calls short).map (fun bytes => ((bytes.length : Int), bytes))
            ++ [(count, bytes)], left) ∧
        count ≠ long.bytes.length ∧
        left <:+ Packet.stream (short ++ others) ∧
        ∀ whole, whole <:+ short ++ others → left ≠ Packet.stream whole) := by
  have hlow : ∀ packet ∈ short, packet.body.length < 128 :=
    fun packet hpacket => Nat.lt_succ_of_le (hshort packet hpacket)
  rw [Packet.stream_append]
  constructor
  · intro hcalls
    rw [receiveAll_short calls buffer short _ hlow hcalls, List.drop_append_of_le_length hcalls,
      Packet.stream_append]
  · intro hcalls long hlong hlength
    obtain ⟨tail, rfl⟩ : ∃ tail, others = long :: tail := by
      cases others with
      | nil => cases hlong
      | cons packet tail => exact ⟨tail, by rw [Option.some.inj hlong]⟩
    obtain ⟨middle, happend⟩ := receiveAll_append shortfall calls [true] buffer
      (Packet.stream short ++ Packet.stream (long :: tail))
    rw [receiveAll_short calls buffer short _ hlow hcalls.le, hcalls, List.drop_length] at happend
    obtain ⟨count, filled, hrun, hpos, hcount⟩ :=
      Packet.receive_long shortfall middle hlength (Packet.stream tail)
    refine ⟨count, filled.slice 0 count, (long.bytes ++ Packet.stream tail).drop count, ?_, ?_, ?_, ?_⟩
    · rw [happend]
      change (_ ++ (receiveAll shortfall [true] middle (long.bytes ++ Packet.stream tail)).1,
        (receiveAll shortfall [true] middle (long.bytes ++ Packet.stream tail)).2) = _
      rw [receiveAll, hrun]
      rfl
    · exact_mod_cast hcount.ne
    · exact (List.drop_suffix count _).trans (List.suffix_append _ _)
    · exact fun whole hwhole => Packet.off_boundary (List.suffix_append _ _) hwhole hpos hcount

/-- A PINGRESP arrives, behind a `select` that failed; the publish of 128 bytes behind it does not. -/
theorem pingresp_before_long_publish :
    let shortfall : Shortfall := fun _ _ => (none, [])
    let pingresp : Packet := ⟨0xD0, [], by simp [Wire.lengthLimit]⟩
    let publish : Packet := ⟨0x30, List.replicate 128 1, by simp [Wire.lengthLimit]⟩
    receiveAll shortfall [false, true] (fun _ => 0) (Packet.stream [pingresp, publish])
        = ([(0, []), (2, [0xD0, 0])], Packet.stream [publish]) ∧
      ∃ (count : Int) (bytes left : List UInt8),
        receiveAll shortfall [false, true, true] (fun _ => 0) (Packet.stream [pingresp, publish])
          = ([(0, []), (2, [0xD0, 0]), (count, bytes)], left) ∧
        count ≠ publish.bytes.length ∧ left <:+ Packet.stream [pingresp, publish] ∧
        ∀ whole, whole <:+ [pingresp, publish] → left ≠ Packet.stream whole := by
  intro shortfall pingresp publish
  obtain ⟨hshort, hlong⟩ := stream_framing shortfall (fun _ => 0) [pingresp] [publish]
    (by simp [pingresp]) [false, true]
  have hdeliveries : (deliveries [false, true] [pingresp]).map
      (fun bytes => ((bytes.length : Int), bytes)) = [(0, []), (2, [0xD0, 0])] := by decide
  rw [hdeliveries] at hshort hlong
  exact ⟨hshort (by decide), hlong rfl publish rfl (by simp [publish])⟩

end Smqtt
