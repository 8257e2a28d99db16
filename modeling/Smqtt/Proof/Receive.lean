import Smqtt.Lib.Base128
import Smqtt.Network

/-!
# When a receive returns a whole packet

`network_receive` never asks twice for what a `recv` did not deliver, and it takes the first length
byte for the length. So what it returns is one packet only when both calls delivered everything and
the length fits into that byte.
-/

namespace Smqtt

/-- The bytes that one call put into the buffer. -/
def SocketAnswer.bytes : (call : SocketCall) → SocketAnswer call → List UInt8
  | .select, _ => []
  | .recv _ _, none => []
  | .recv _ _, some received => received.1

/-- What came from the socket during one `network_receive`. -/
def receivedBytes (socket : Socket) (buffer : Memory) : List UInt8 :=
  ((networkReceive buffer).calls socket).flatMap fun call => SocketAnswer.bytes call (socket call)

/-- One byte of header, a length, and as many bytes as the length says. -/
def CompletePacket (bytes : List UInt8) : Prop :=
  ∃ header rest size body, bytes = header :: rest ∧ Base128.decode 4 rest = some (size, body) ∧
    body.length = size

/-- A positive result is the number of bytes received, they stand at the start of the buffer, and
they are one packet. -/
def ReceiveIntact (socket : Socket) (buffer : Memory) : Prop :=
  let (size, filled) := (networkReceive buffer).eval socket
  0 < size → (receivedBytes socket buffer).length = size ∧
    filled.slice 0 size.toNat = receivedBytes socket buffer ∧
    CompletePacket (receivedBytes socket buffer)

/-- Two reads that make one packet: both bytes of the header and the whole body. A length byte with
the high bit set is right only if the length digits behind it are all zero. -/
def WholePacket (first second : List UInt8) : Prop :=
  ∃ header length : UInt8, first = [header, length] ∧
    (length.toNat < 128 ∧ second.length = length.toNat ∨
      128 ≤ length.toNat ∧ ∃ pad < 3, ∃ body, second = List.replicate pad 0x80 ++ 0 :: body ∧
        body.length = length.toNat - 128)

/-- The answers on which `network_receive` is right: an error where it looks for one, or two reads
that make one packet. -/
def Receivable (socket : Socket) (buffer : Memory) : Prop :=
  socket .select = false ∨
    match socket (.recv 0 2) with
    | none => True
    | some first =>
        let length := buffer.writeAt 0 first.1 1
        if length.toNat = 0 then first.1.length = 2
        else
          match socket (.recv 2 length.toNat) with
          | none => True
          | some second => WholePacket first.1 second.1

theorem completePacket_cons_cons {header length : UInt8} {second : List UInt8}
    (hsecond : second.length ≤ length.toNat) :
    CompletePacket (header :: length :: second) ↔ WholePacket [header, length] second := by
  have hlength := length.toNat_lt
  constructor
  · rintro ⟨_, _, size, body, heq, hdecode, hsize⟩
    obtain ⟨rfl, rfl⟩ := List.cons.inj heq
    refine ⟨header, length, rfl, ?_⟩
    by_cases hlow : length.toNat < 128
    · rw [Base128.decode_of_lt hlow] at hdecode
      obtain ⟨rfl, rfl⟩ := Prod.mk.inj (Option.some.inj hdecode)
      exact .inl ⟨hlow, hsize⟩
    · rw [Base128.decode_of_le (by omega), Option.map_eq_some_iff] at hdecode
      obtain ⟨⟨high, rest⟩, htail, heq⟩ := hdecode
      obtain ⟨hvalue, rfl⟩ := Prod.mk.inj heq
      have hshorter := Base128.length_of_decode htail
      -- a further length digit other than zero says more than was asked for
      obtain rfl : high = 0 := by omega
      obtain ⟨pad, hpad, rfl⟩ := Base128.decode_eq_zero_iff.mp htail
      exact .inr ⟨by omega, pad, hpad, rest, rfl, by omega⟩
  · rintro ⟨_, _, heq, hcases⟩
    simp only [List.cons.injEq, and_true] at heq
    obtain ⟨rfl, rfl⟩ := heq
    refine ⟨header, length :: second, length.toNat % 128, ?_⟩
    obtain ⟨hlow, hwhole⟩ | ⟨hhigh, pad, hpad, body, rfl, hbody⟩ := hcases
    · refine ⟨second, rfl, ?_, by omega⟩
      rw [Base128.decode_of_lt hlow, Nat.mod_eq_of_lt hlow]
    · refine ⟨body, rfl, ?_, by omega⟩
      rw [Base128.decode_of_le hhigh, Base128.decode_eq_zero_iff.mpr ⟨pad, hpad, rfl⟩]
      simp only [Option.map_some, Nat.mul_zero, Nat.add_zero]
      rw [show length.toNat - 128 = length.toNat % 128 by omega]

section Runs

variable {socket : Socket} {buffer : Memory}

theorem receive_of_select_failed (hselect : socket .select = false) :
    (networkReceive buffer).eval socket = (0, buffer) := by
  simp [networkReceive, select, hselect]

theorem receive_of_header_failed (hselect : socket .select = true)
    (hfirst : socket (.recv 0 2) = none) :
    (networkReceive buffer).eval socket = (0, buffer) := by
  simp [networkReceive, select, recv, hselect, hfirst]

theorem receive_of_no_body {first : { bytes : List UInt8 // bytes.length ≤ 2 }}
    (hselect : socket .select = true) (hfirst : socket (.recv 0 2) = some first)
    (hlength : (buffer.writeAt 0 first.1 1).toNat = 0) :
    (networkReceive buffer).eval socket = (2, buffer.writeAt 0 first.1) ∧
      receivedBytes socket buffer = first.1 := by
  constructor
  · simp [networkReceive, select, recv, hselect, hfirst, hlength]
  · simp [receivedBytes, networkReceive, select, recv, hselect, hfirst, hlength, SocketAnswer.bytes]

theorem receive_of_body_failed {first : { bytes : List UInt8 // bytes.length ≤ 2 }}
    (hselect : socket .select = true) (hfirst : socket (.recv 0 2) = some first)
    (hlength : (buffer.writeAt 0 first.1 1).toNat ≠ 0)
    (hsecond : socket (.recv 2 (buffer.writeAt 0 first.1 1).toNat) = none) :
    (networkReceive buffer).eval socket = (0, buffer.writeAt 0 first.1) := by
  have hpos := Nat.pos_of_ne_zero hlength
  simp [networkReceive, select, recv, hselect, hfirst, hpos, hsecond]

theorem receive_of_body {first : { bytes : List UInt8 // bytes.length ≤ 2 }}
    {second : { bytes : List UInt8 // bytes.length ≤ (buffer.writeAt 0 first.1 1).toNat }}
    (hselect : socket .select = true) (hfirst : socket (.recv 0 2) = some first)
    (hlength : (buffer.writeAt 0 first.1 1).toNat ≠ 0)
    (hsecond : socket (.recv 2 (buffer.writeAt 0 first.1 1).toNat) = some second) :
    (networkReceive buffer).eval socket
        = ((second.1.length : Int) + 2, (buffer.writeAt 0 first.1).writeAt 2 second.1) ∧
      receivedBytes socket buffer = first.1 ++ second.1 := by
  have hpos := Nat.pos_of_ne_zero hlength
  constructor
  · simp [networkReceive, select, recv, hselect, hfirst, hpos, hsecond]
  · simp [receivedBytes, networkReceive, select, recv, hselect, hfirst, hpos, hsecond,
      SocketAnswer.bytes]

theorem slice_of_two_reads {first second : List UInt8} (hfirst : first.length = 2) :
    ((buffer.writeAt 0 first).writeAt 2 second).slice 0 (second.length + 2) = first ++ second := by
  have hheader := (Memory.holds_writeAt buffer 0 first).writeAt second
  have hbody := Memory.holds_writeAt (buffer.writeAt 0 first) 2 second
  rw [hfirst, Nat.zero_add] at hheader
  have hboth := Memory.holds_append.mpr ⟨hheader, by rwa [hfirst, Nat.zero_add]⟩
  have hslice := hboth.slice_eq
  rwa [List.length_append, hfirst, Nat.add_comm] at hslice

theorem intact_of_no_body_iff {first : List UInt8}
    (hlength : (buffer.writeAt 0 first 1).toNat = 0) :
    (first.length = (2 : Int) ∧ (buffer.writeAt 0 first).slice 0 2 = first ∧
      CompletePacket first) ↔ first.length = 2 := by
  constructor
  · rintro ⟨hcount, -⟩
    exact_mod_cast hcount
  · intro hcount
    have hslice := (Memory.holds_writeAt buffer 0 first).slice_eq
    rw [hcount] at hslice
    refine ⟨by exact_mod_cast hcount, hslice, ?_⟩
    obtain ⟨header, length, rfl⟩ := List.length_eq_two.mp hcount
    have hzero : length.toNat = 0 := hlength
    exact (completePacket_cons_cons (by simp)).mpr
      ⟨header, length, rfl, .inl ⟨by omega, by simp [hzero]⟩⟩

theorem intact_of_body_iff {first second : List UInt8}
    (hsecond : second.length ≤ (buffer.writeAt 0 first 1).toNat) :
    ((first ++ second).length = (second.length : Int) + 2 ∧
      ((buffer.writeAt 0 first).writeAt 2 second).slice 0 ((second.length : Int) + 2).toNat
        = first ++ second ∧
      CompletePacket (first ++ second)) ↔ WholePacket first second := by
  constructor
  · rintro ⟨hcount, -, hcomplete⟩
    have htwo : first.length = 2 := by
      rw [List.length_append] at hcount
      omega
    obtain ⟨header, length, rfl⟩ := List.length_eq_two.mp htwo
    exact (completePacket_cons_cons hsecond).mp hcomplete
  · rintro hwhole
    obtain ⟨header, length, rfl, -⟩ := id hwhole
    refine ⟨by simp; omega, ?_, (completePacket_cons_cons hsecond).mpr hwhole⟩
    exact slice_of_two_reads rfl

/-- **Receive integrity.** A positive result stands for one packet received by this call exactly
when the operating system delivered it in two reads and its length fits into one byte. -/
theorem receiveIntact_iff (socket : Socket) (buffer : Memory) :
    ReceiveIntact socket buffer ↔ Receivable socket buffer := by
  unfold ReceiveIntact Receivable
  by_cases hselect : socket .select = false
  · simp [receive_of_select_failed hselect, hselect]
  rw [Bool.not_eq_false] at hselect
  rw [hselect]
  simp only [Bool.true_eq_false, false_or]
  cases hfirst : socket (.recv 0 2) with
  | none => simp [receive_of_header_failed hselect hfirst]
  | some first =>
      by_cases hlength : (buffer.writeAt 0 first.1 1).toNat = 0
      · obtain ⟨heval, hreceived⟩ := receive_of_no_body hselect hfirst hlength
        simpa [heval, hreceived, hlength] using intact_of_no_body_iff hlength
      · cases hsecond : socket (.recv 2 (buffer.writeAt 0 first.1 1).toNat) with
        | none =>
            simp [receive_of_body_failed hselect hfirst hlength hsecond, hlength, hsecond]
        | some second =>
            obtain ⟨heval, hreceived⟩ := receive_of_body hselect hfirst hlength hsecond
            have hpos : 0 < (second.1.length : Int) + 2 := by omega
            simp only [heval, hreceived, hlength, hsecond, if_false, hpos, true_implies]
            exact intact_of_body_iff second.2

end Runs

/-- The peer has closed the connection. -/
def endOfStream : Socket
  | .select => true
  | .recv _ _ => some ⟨[], Nat.zero_le _⟩

/-- At the end of the stream, with a PUBACK of an earlier call in the buffer, two bytes are reported
and none was received. -/
theorem end_of_stream_not_intact : ∃ buffer : Memory, buffer.Holds 0 [0x40, 2, 0, 7] ∧
    ((networkReceive buffer).eval endOfStream).1 = 2 ∧ receivedBytes endOfStream buffer = [] ∧
    ¬ ReceiveIntact endOfStream buffer := by
  let buffer : Memory := Memory.write (fun _ => 0) [0x40, 2, 0, 7]
  have hsize : ((networkReceive buffer).eval endOfStream).1 = 2 := by decide
  have hreceived : receivedBytes endOfStream buffer = [] := by decide
  refine ⟨buffer, Memory.holds_write _ _, hsize, hreceived, ?_⟩
  intro hintact
  obtain ⟨hcount, -⟩ := hintact (by decide)
  rw [hreceived] at hcount
  exact absurd hcount (by decide)

end Smqtt
