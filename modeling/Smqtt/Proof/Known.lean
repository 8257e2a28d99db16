import Smqtt.Client
import Smqtt.Proof.Decoder

/-!
# What a part of the buffer decides

`server_receive` may store any bytes of a packet, or none, and the rest of the buffer is old. The
result of the parse is settled by the bytes that are known exactly if none of the others can change
it: the length, which may end at several places as far as is known, the type, the byte of the packet
id that is read, and of a message the bytes up to its first zero.
-/

namespace Smqtt

open Memory

/-! ### The length -/

/-- Where the length ends: at the first byte that announces no other, or at the end of the buffer.
There is no such place if four bytes announce another. -/
def lengthEnd (memory : Memory) (bufferEnd : Nat) : Nat → Nat → Option Nat
  | 0, _ => none
  | fuel + 1, buffer =>
      if buffer ≤ bufferEnd then
        if (memory buffer).toNat < 128 then some buffer
        else lengthEnd memory bufferEnd fuel (buffer + 1)
      else some (buffer - 1)

def lengthValue (memory : Memory) (bufferEnd : Nat) : Nat → Nat → Nat
  | 0, _ => 0
  | fuel + 1, buffer =>
      if buffer ≤ bufferEnd then
        if (memory buffer).toNat < 128 then (memory buffer).toNat
        else (memory buffer).toNat - 128 + 128 * lengthValue memory bufferEnd fuel (buffer + 1)
      else 0

/-- Where the length can end, as far as the bytes are known. -/
def lengthEnds (known : Nat → Option UInt8) (bufferEnd : Nat) : Nat → Nat → List (Option Nat)
  | 0, _ => [none]
  | fuel + 1, buffer =>
      if buffer ≤ bufferEnd then
        match known buffer with
        | some byte =>
            if byte.toNat < 128 then [some buffer]
            else lengthEnds known bufferEnd fuel (buffer + 1)
        | none => some buffer :: lengthEnds known bufferEnd fuel (buffer + 1)
      else [some (buffer - 1)]

section Length

variable {memory : Memory} {known : Nat → Option UInt8} {bufferEnd fuel buffer : Nat}

/-- The loop of `decode_size`, entered behind `buffer - 1` bytes. -/
theorem eval_decodeSizeLoop (memory : Memory) (bufferEnd fuel buffer value multiplier used : Nat)
    (digit : UInt8) (hbuffer : 0 < buffer) :
    match lengthEnd memory bufferEnd fuel buffer with
    | some last => ∃ final : UInt8,
        (decodeSizeLoop bufferEnd fuel buffer value multiplier used digit).eval memory
          = (value + lengthValue memory bufferEnd fuel buffer * multiplier,
            used + (last + 1 - buffer), final) ∧
        (last + 1 < buffer + fuel ∨ final.toNat < 128) ∧ buffer ≤ last + 1
    | none => ∃ total final,
        (decodeSizeLoop bufferEnd fuel buffer value multiplier used digit).eval memory
          = (total, used + fuel, final) ∧ (fuel ≠ 0 → 128 ≤ final.toNat) := by
  induction fuel generalizing buffer value multiplier used digit with
  | zero => exact ⟨value, digit, rfl, fun hne => absurd rfl hne⟩
  | succ fuel ih =>
      by_cases hend : buffer ≤ bufferEnd
      · by_cases hlast : (memory buffer).toNat < 128
        · simp only [lengthEnd, lengthValue, hend, hlast, if_true,
            eval_decodeSizeLoop_last hend hlast]
          exact ⟨memory buffer, by simp, .inr hlast, by omega⟩
        · have hmore := Nat.le_of_not_lt hlast
          have hrest := ih (buffer + 1) (value + ((memory buffer).toNat - 128) * multiplier)
            (multiplier * 128) (used + 1) (memory buffer) (Nat.succ_pos buffer)
          simp only [lengthEnd, lengthValue, hend, hlast, if_true, if_false,
            eval_decodeSizeLoop_continue hend hmore]
          revert hrest
          cases lengthEnd memory bufferEnd fuel (buffer + 1) with
          | none =>
              rintro ⟨total, final, heval, hfinal⟩
              refine ⟨total, final, by rw [heval, Nat.add_right_comm, Nat.add_assoc], fun _ => ?_⟩
              cases fuel with
              | zero =>
                  obtain rfl : memory buffer = final := congrArg (·.2.2) heval
                  exact hmore
              | succ fuel => exact hfinal (Nat.succ_ne_zero fuel)
          | some last =>
              rintro ⟨final, heval, hfinal, hlast⟩
              refine ⟨final, ?_, by omega, by omega⟩
              rw [heval]
              simp only [Prod.mk.injEq, and_true]
              refine ⟨by ring, by omega⟩
      · simp only [lengthEnd, lengthValue, hend, if_false, decodeSizeLoop]
        refine ⟨digit, ?_, .inl (by omega), by omega⟩
        rw [Nat.zero_mul, Nat.sub_add_cancel hbuffer, Nat.sub_self]
        rfl

theorem eval_decodeSize (memory : Memory) (length : Nat) :
    (decodeSize 1 length).eval memory
      = match lengthEnd memory length 4 1 with
        | some last => (some (lengthValue memory length 4 1), last)
        | none => (none, 4) := by
  have hspec := eval_decodeSizeLoop memory length 4 1 0 1 0 0 Nat.one_pos
  revert hspec
  cases lengthEnd memory length 4 1 with
  | none =>
      rintro ⟨total, final, heval, hfinal⟩
      have hhigh := hfinal (by decide)
      simp [decodeSize, heval, and_high_eq_zero_iff, hhigh]
  | some last =>
      rintro ⟨final, heval, hfinal, -⟩
      have hgood : ¬ (last = 4 ∧ 128 ≤ final.toNat) := by omega
      simp [decodeSize, heval, and_high_eq_zero_iff, hgood]

theorem lengthEnd_low (hend : buffer ≤ bufferEnd) (hbyte : (memory buffer).toNat < 128) :
    lengthEnd memory bufferEnd (fuel + 1) buffer = some buffer := by
  simp [lengthEnd, hend, hbyte]

theorem lengthEnd_high (hend : buffer ≤ bufferEnd) (hbyte : 128 ≤ (memory buffer).toNat) :
    lengthEnd memory bufferEnd (fuel + 1) buffer = lengthEnd memory bufferEnd fuel (buffer + 1) := by
  simp [lengthEnd, hend, hbyte]

theorem lengthEnd_past (hend : ¬ buffer ≤ bufferEnd) :
    lengthEnd memory bufferEnd (fuel + 1) buffer = some (buffer - 1) := by
  simp [lengthEnd, hend]

theorem lengthValue_low (hend : buffer ≤ bufferEnd) (hbyte : (memory buffer).toNat < 128) :
    lengthValue memory bufferEnd (fuel + 1) buffer = (memory buffer).toNat := by
  simp [lengthValue, hend, hbyte]

theorem lengthValue_high (hend : buffer ≤ bufferEnd) (hbyte : 128 ≤ (memory buffer).toNat) :
    lengthValue memory bufferEnd (fuel + 1) buffer
      = (memory buffer).toNat - 128 + 128 * lengthValue memory bufferEnd fuel (buffer + 1) := by
  simp [lengthValue, hend, hbyte]

theorem lengthValue_past (hend : ¬ buffer ≤ bufferEnd) :
    lengthValue memory bufferEnd (fuel + 1) buffer = 0 := by
  simp [lengthValue, hend]

theorem lengthEnds_unknown (hend : buffer ≤ bufferEnd) (hknown : known buffer = none) :
    lengthEnds known bufferEnd (fuel + 1) buffer
      = some buffer :: lengthEnds known bufferEnd fuel (buffer + 1) := by
  simp [lengthEnds, hend, hknown]

theorem lengthEnds_low {byte : UInt8} (hend : buffer ≤ bufferEnd) (hknown : known buffer = some byte)
    (hbyte : byte.toNat < 128) : lengthEnds known bufferEnd (fuel + 1) buffer = [some buffer] := by
  simp [lengthEnds, hend, hknown, hbyte]

theorem lengthEnds_high {byte : UInt8} (hend : buffer ≤ bufferEnd)
    (hknown : known buffer = some byte) (hbyte : 128 ≤ byte.toNat) :
    lengthEnds known bufferEnd (fuel + 1) buffer = lengthEnds known bufferEnd fuel (buffer + 1) := by
  simp [lengthEnds, hend, hknown, hbyte]

theorem lengthEnds_past (hend : ¬ buffer ≤ bufferEnd) :
    lengthEnds known bufferEnd (fuel + 1) buffer = [some (buffer - 1)] := by
  simp [lengthEnds, hend]

theorem lengthEnd_mem_lengthEnds (hagrees : Agrees known memory) (bufferEnd fuel buffer : Nat) :
    lengthEnd memory bufferEnd fuel buffer ∈ lengthEnds known bufferEnd fuel buffer := by
  induction fuel generalizing buffer with
  | zero => exact List.mem_singleton_self none
  | succ fuel ih =>
      by_cases hend : buffer ≤ bufferEnd
      · cases hknown : known buffer with
        | none =>
            rw [lengthEnds_unknown hend hknown]
            obtain hlow | hhigh := Nat.lt_or_ge (memory buffer).toNat 128
            · rw [lengthEnd_low hend hlow]
              exact List.mem_cons_self
            · rw [lengthEnd_high hend hhigh]
              exact List.mem_cons_of_mem _ (ih (buffer + 1))
        | some byte =>
            obtain rfl := hagrees buffer byte hknown
            obtain hlow | hhigh := Nat.lt_or_ge (memory buffer).toNat 128
            · rw [lengthEnd_low hend hlow, lengthEnds_low hend hknown hlow]
              exact List.mem_singleton_self _
            · rw [lengthEnd_high hend hhigh, lengthEnds_high hend hknown hhigh]
              exact ih (buffer + 1)
      · rw [lengthEnd_past hend, lengthEnds_past hend]
        exact List.mem_singleton_self _

theorem le_of_mem_lengthEnds {last : Nat} (hbuffer : 0 < buffer)
    (hmem : some last ∈ lengthEnds known bufferEnd fuel buffer) :
    buffer ≤ last + 1 ∧ last + 1 ≤ buffer + fuel := by
  induction fuel generalizing buffer with
  | zero => simp [lengthEnds] at hmem
  | succ fuel ih =>
      by_cases hend : buffer ≤ bufferEnd
      · cases hknown : known buffer with
        | none =>
            rw [lengthEnds_unknown hend hknown, List.mem_cons, Option.some.injEq] at hmem
            obtain rfl | hmem := hmem
            · omega
            · have hrest := ih (Nat.succ_pos buffer) hmem
              omega
        | some byte =>
            obtain hlow | hhigh := Nat.lt_or_ge byte.toNat 128
            · rw [lengthEnds_low hend hknown hlow, List.mem_singleton, Option.some.injEq] at hmem
              omega
            · rw [lengthEnds_high hend hknown hhigh] at hmem
              have hrest := ih (Nat.succ_pos buffer) hmem
              omega
      · rw [lengthEnds_past hend, List.mem_singleton, Option.some.injEq] at hmem
        omega

/-- Each place where the length can end is where it does end in some memory, and the bytes that are
not part of the length are free. -/
theorem exists_of_mem_lengthEnds {last : Option Nat}
    (hmem : last ∈ lengthEnds known bufferEnd fuel buffer) (filler : Memory) :
    ∃ memory, Agrees known memory ∧ lengthEnd memory bufferEnd fuel buffer = last ∧
      ∀ index, index < buffer ∨ (∃ place ∈ last, place < index) →
        memory index = filler.patch known index := by
  induction fuel generalizing buffer filler with
  | zero =>
      obtain rfl := List.mem_singleton.mp hmem
      exact ⟨filler.patch known, agrees_patch filler known, rfl, fun _ _ => rfl⟩
  | succ fuel ih =>
      by_cases hend : buffer ≤ bufferEnd
      · cases hknown : known buffer with
        | none =>
            rw [lengthEnds_unknown hend hknown, List.mem_cons] at hmem
            obtain rfl | hmem := hmem
            · refine ⟨Function.update (filler.patch known) buffer 0,
                (agrees_patch filler known).update hknown 0, ?_, ?_⟩
              · exact lengthEnd_low hend (by simp)
              · intro index hindex
                refine Function.update_of_ne ?_ _ _
                obtain hlt | ⟨place, hplace, hlt⟩ := hindex
                · omega
                · obtain rfl := Option.some.inj hplace
                  omega
            · obtain ⟨memory, hagrees, hlast, hfree⟩ := ih hmem (Function.update filler buffer 128)
              have hbyte : memory buffer = 128 := by
                rw [hfree buffer (.inl (Nat.lt_succ_self buffer)), patch_of_none hknown,
                  Function.update_self]
              refine ⟨memory, hagrees, ?_, ?_⟩
              · rw [lengthEnd_high hend (by rw [hbyte]; decide), hlast]
              · intro index hindex
                have hne : index ≠ buffer := by
                  obtain hlt | ⟨place, hplace, hlt⟩ := hindex
                  · omega
                  · obtain rfl : last = some place := hplace
                    have hplace := (le_of_mem_lengthEnds (Nat.succ_pos buffer) hmem).1
                    omega
                rw [hfree index (hindex.imp_left fun hlt => hlt.trans (Nat.lt_succ_self buffer)),
                  patch, patch, Function.update_of_ne hne]
        | some byte =>
            obtain hlow | hhigh := Nat.lt_or_ge byte.toNat 128
            · rw [lengthEnds_low hend hknown hlow, List.mem_singleton] at hmem
              refine ⟨filler.patch known, agrees_patch filler known, ?_, fun _ _ => rfl⟩
              rw [hmem]
              refine lengthEnd_low hend ?_
              rwa [agrees_patch filler known buffer byte hknown]
            · rw [lengthEnds_high hend hknown hhigh] at hmem
              obtain ⟨memory, hagrees, hlast, hfree⟩ := ih hmem filler
              refine ⟨memory, hagrees, ?_, ?_⟩
              · rw [lengthEnd_high hend (by rwa [hagrees buffer byte hknown]), hlast]
              · intro index hindex
                exact hfree index (hindex.imp_left fun hlt => hlt.trans (Nat.lt_succ_self buffer))
      · rw [lengthEnds_past hend, List.mem_singleton] at hmem
        exact ⟨filler.patch known, agrees_patch filler known, by rw [lengthEnd_past hend, hmem],
          fun _ _ => rfl⟩

theorem le_of_lengthEnd {last : Nat} (hbuffer : 0 < buffer)
    (hlast : lengthEnd memory bufferEnd fuel buffer = some last) :
    buffer ≤ last + 1 ∧ last + 1 ≤ buffer + fuel := by
  have hagrees : Agrees (fun index => some (memory index)) memory := by
    rintro index _ ⟨⟩
    rfl
  exact le_of_mem_lengthEnds hbuffer (hlast ▸ lengthEnd_mem_lengthEnds hagrees bufferEnd fuel buffer)

/-- The length depends on the bytes up to its end only. -/
theorem lengthEnd_congr {other : Memory} {last : Nat}
    (hlast : lengthEnd memory bufferEnd fuel buffer = some last)
    (hsame : ∀ index, buffer ≤ index → index ≤ last → other index = memory index) :
    lengthEnd other bufferEnd fuel buffer = some last ∧
      lengthValue other bufferEnd fuel buffer = lengthValue memory bufferEnd fuel buffer := by
  induction fuel generalizing buffer with
  | zero => simp [lengthEnd] at hlast
  | succ fuel ih =>
      by_cases hend : buffer ≤ bufferEnd
      · obtain hlow | hhigh := Nat.lt_or_ge (memory buffer).toNat 128
        · rw [lengthEnd_low hend hlow] at hlast
          obtain rfl := Option.some.inj hlast
          have hbyte := hsame buffer le_rfl le_rfl
          have hotherLow : (other buffer).toNat < 128 := by rwa [hbyte]
          exact ⟨lengthEnd_low hend hotherLow,
            by rw [lengthValue_low hend hotherLow, lengthValue_low hend hlow, hbyte]⟩
        · rw [lengthEnd_high hend hhigh] at hlast
          have hbuffer := (le_of_lengthEnd (Nat.succ_pos buffer) hlast).1
          have hbyte := hsame buffer le_rfl (by omega)
          have hotherHigh : 128 ≤ (other buffer).toNat := by rwa [hbyte]
          obtain ⟨hrest, hvalue⟩ := ih hlast fun index hindex => hsame index (by omega)
          exact ⟨by rw [lengthEnd_high hend hotherHigh, hrest],
            by rw [lengthValue_high hend hotherHigh, lengthValue_high hend hhigh, hbyte, hvalue]⟩
      · rw [lengthEnd_past hend] at hlast
        exact ⟨by rw [lengthEnd_past hend, hlast],
          by rw [lengthValue_past hend, lengthValue_past hend]⟩

/-- A length whose last byte is zero can have one there as well, and is longer then. -/
theorem lengthEnd_update {last : Nat} (hbuffer : 0 < buffer)
    (hlast : lengthEnd memory bufferEnd fuel buffer = some last) (hle : buffer ≤ last)
    (hzero : memory last = 0) :
    lengthEnd (Function.update memory last 1) bufferEnd fuel buffer = some last ∧
      lengthValue (Function.update memory last 1) bufferEnd fuel buffer
        = lengthValue memory bufferEnd fuel buffer + 128 ^ (last - buffer) ∧
      (last + 1 = buffer + fuel →
        lengthEnd (Function.update memory last 128) bufferEnd fuel buffer = none) := by
  induction fuel generalizing buffer with
  | zero => simp [lengthEnd] at hlast
  | succ fuel ih =>
      by_cases hend : buffer ≤ bufferEnd
      · obtain hlow | hhigh := Nat.lt_or_ge (memory buffer).toNat 128
        · rw [lengthEnd_low hend hlow] at hlast
          obtain rfl := Option.some.inj hlast
          have hupdated : (Function.update memory buffer 1 buffer).toNat < 128 := by simp
          refine ⟨lengthEnd_low hend hupdated, ?_, ?_⟩
          · rw [lengthValue_low hend hupdated, lengthValue_low hend hlow, hzero]
            simp
          · intro hfuel
            obtain rfl : fuel = 0 := by omega
            rw [lengthEnd_high hend (by simp)]
            rfl
        · rw [lengthEnd_high hend hhigh] at hlast
          have hne : buffer ≠ last := by
            rintro rfl
            simp [hzero] at hhigh
          obtain ⟨hrest, hvalue, hnone⟩ := ih (Nat.succ_pos buffer) hlast (by omega)
          have hone : 128 ≤ (Function.update memory last 1 buffer).toNat := by
            rwa [Function.update_of_ne hne]
          have hmore : 128 ≤ (Function.update memory last 128 buffer).toNat := by
            rwa [Function.update_of_ne hne]
          refine ⟨by rw [lengthEnd_high hend hone, hrest], ?_, ?_⟩
          · rw [lengthValue_high hend hone, lengthValue_high hend hhigh, hvalue,
              Function.update_of_ne hne, show last - buffer = last - (buffer + 1) + 1 by omega,
              pow_succ]
            ring
          · intro hfuel
            rw [lengthEnd_high hend hmore]
            exact hnone (by omega)
      · rw [lengthEnd_past hend] at hlast
        obtain rfl := Option.some.inj hlast
        omega

end Length

/-! ### The packet that is waited for -/

theorem parseBuffer_eq (memory : Memory) (size : Int) :
    parseBuffer memory size
      = match lengthEnd memory size.toNat 4 1, MessageType.ofCode ((memory 0).toNat >>> 4) with
        | some last, some type =>
            some ((deserializeBody type (memory 0) (lengthValue memory size.toNat 4 1)
              (1 + last)).eval memory)
        | _, _ => none := by
  simp only [parseBuffer, deserializeResponse, Interaction.eval_bind, eval_readByte,
    eval_decodeSize]
  cases lengthEnd memory size.toNat 4 1 with
  | none => rfl
  | some last =>
      cases MessageType.ofCode ((memory 0).toNat >>> 4) with
      | none => rfl
      | some type => exact Interaction.eval_map memory _ _

/-- A packet that comes with the id of what it acknowledges. -/
def MessageType.isAcknowledgement : MessageType → Bool
  | puback | pubrec | pubrel | pubcomp | suback | unsuback => true
  | _ => false

theorem packetId_deserializeBody {type : MessageType} (htype : type.isAcknowledgement)
    (first : UInt8) (totalSize offset : Nat) (memory : Memory) :
    ((deserializeBody type first totalSize offset).eval memory).packetId
      = some (memory (offset + 1)).toUInt16 := by
  cases type with
  | puback | pubrec | pubrel | pubcomp | suback | unsuback =>
      simp [deserializeBody, Response.packetId]
  | _ => simp [MessageType.isAcknowledgement] at htype

/-- What is waited for: a packet of a type, and with an id if there is one to compare. -/
def Response.answers (type : MessageType) (packetId : Option UInt16) (resp : Response) : Bool :=
  match packetId with
  | none => resp.type = type
  | some packetId => resp.acknowledges type packetId

theorem map_answers_parseBuffer {type : MessageType} {packetId : Option UInt16}
    (htype : packetId.isSome → type.isAcknowledgement) (memory : Memory) (size : Int) :
    (parseBuffer memory size).map (Response.answers type packetId)
      = match lengthEnd memory size.toNat 4 1, MessageType.ofCode ((memory 0).toNat >>> 4) with
        | some last, some found =>
            some (decide (found = type ∧ ∀ expected ∈ packetId,
              (memory (last + 2)).toUInt16 = expected))
        | _, _ => none := by
  rw [parseBuffer_eq]
  cases lengthEnd memory size.toNat 4 1 with
  | none => rfl
  | some last =>
      cases MessageType.ofCode ((memory 0).toNat >>> 4) with
      | none => rfl
      | some found =>
          simp only [Option.map_some, Option.some.injEq]
          cases packetId with
          | none => simp [Response.answers, type_deserializeBody]
          | some expected =>
              simp only [Response.answers, Response.acknowledges, type_deserializeBody]
              by_cases hfound : found = type
              · subst hfound
                rw [packetId_deserializeBody (htype rfl)]
                simp [Nat.add_comm 1 last, Nat.add_assoc]
              · simp [hfound]

/-! ### What has to be known of it -/

section Settles

variable {known : Nat → Option UInt8} {length : Nat}

/-- A reading of a packet by its type and the end of its length, if it has both. -/
def readPacket {α : Type} (length : Nat) (read : MessageType → Nat → Memory → α) (memory : Memory) :
    Option α :=
  match lengthEnd memory length 4 1, MessageType.ofCode ((memory 0).toNat >>> 4) with
  | some last, some found => some (read found last memory)
  | _, _ => none

/-- Wherever the length ends, the reading is the same. -/
def DecidesBody {α : Type} (known : Nat → Option UInt8) (length : Nat)
    (read : Nat → Memory → α) : Prop :=
  ∀ left right leftLast rightLast, Agrees known left → Agrees known right →
    lengthEnd left length 4 1 = some leftLast → lengthEnd right length 4 1 = some rightLast →
      read leftLast left = read rightLast right

/-- A packet is read the same if its length is known not to end; or if its type is known, and is
none, or the length is known to end and the rest is read the same. -/
def SettlesPacket (known : Nat → Option UInt8) (length : Nat) (body : MessageType → Prop) : Prop :=
  (∀ last ∈ lengthEnds known length 4 1, last = none) ∨
    ∃ first, known 0 = some first ∧ ∀ found, MessageType.ofCode (first.toNat >>> 4) = some found →
      none ∉ lengthEnds known length 4 1 ∧ body found

theorem decides_readPacket_iff {α : Type} (read : MessageType → Nat → Memory → α) :
    Decides known (readPacket length read) ↔
      SettlesPacket known length fun found => DecidesBody known length (read found) := by
  constructor
  · intro hdecides
    by_cases hends : ∀ last ∈ lengthEnds known length 4 1, last = none
    · exact .inl hends
    · simp only [not_forall, exists_prop] at hends
      obtain ⟨last, hmem, hsome⟩ := hends
      obtain ⟨last, rfl⟩ := Option.ne_none_iff_exists'.mp hsome
      have hfree (filler : Memory) : ∃ memory, Agrees known memory ∧
          lengthEnd memory length 4 1 = some last ∧ memory 0 = filler.patch known 0 := by
        obtain ⟨memory, hagrees, hlast, hfree⟩ := exists_of_mem_lengthEnds hmem filler
        exact ⟨memory, hagrees, hlast, hfree 0 (.inl Nat.one_pos)⟩
      right
      cases hfirst : known 0 with
      | none =>
          -- an unknown first byte can be of no type, or of one
          obtain ⟨left, hleft, hleftLast, hleftFirst⟩ := hfree fun _ => 0
          obtain ⟨right, hright, hrightLast, hrightFirst⟩ := hfree fun _ => 0x10
          rw [patch_of_none hfirst] at hleftFirst hrightFirst
          have hsame := hdecides left right hleft hright
          simp [readPacket, hleftLast, hrightLast, hleftFirst, hrightFirst, MessageType.ofCode]
            at hsame
      | some first =>
          have hbyte (memory : Memory) (hagrees : Agrees known memory) : memory 0 = first :=
            hagrees 0 first hfirst
          refine ⟨first, rfl, fun found hfound => ⟨?_, ?_⟩⟩
          · intro hnone
            obtain ⟨left, hleft, hleftLast, -⟩ := hfree fun _ => 0
            obtain ⟨right, hright, hrightLast, -⟩ := exists_of_mem_lengthEnds hnone fun _ => 0
            have hsame := hdecides left right hleft hright
            simp [readPacket, hleftLast, hrightLast, hbyte left hleft, hfound] at hsame
          · intro left right leftLast rightLast hleft hright hleftLast hrightLast
            have hsame := hdecides left right hleft hright
            simpa [readPacket, hleftLast, hrightLast, hbyte left hleft, hbyte right hright, hfound]
              using hsame
  · rintro (hends | ⟨first, hfirst, hbody⟩) left right hleft hright
    · have hnone (memory : Memory) (hagrees : Agrees known memory) :
          lengthEnd memory length 4 1 = none :=
        hends _ (lengthEnd_mem_lengthEnds hagrees length 4 1)
      simp [readPacket, hnone left hleft, hnone right hright]
    · rw [readPacket, readPacket, hleft 0 first hfirst, hright 0 first hfirst]
      cases hfound : MessageType.ofCode (first.toNat >>> 4) with
      | none =>
          cases lengthEnd left length 4 1 <;> cases lengthEnd right length 4 1 <;> rfl
      | some found =>
          obtain ⟨hnone, hdecides⟩ := hbody found hfound
          have hsome (memory : Memory) (hagrees : Agrees known memory) :
              ∃ last, lengthEnd memory length 4 1 = some last := by
            refine Option.ne_none_iff_exists'.mp fun hlast => hnone ?_
            exact hlast ▸ lengthEnd_mem_lengthEnds hagrees length 4 1
          obtain ⟨leftLast, hleftLast⟩ := hsome left hleft
          obtain ⟨rightLast, hrightLast⟩ := hsome right hright
          simp only [hleftLast, hrightLast, Option.some.injEq]
          exact hdecides left right leftLast rightLast hleft hright hleftLast hrightLast

/-- The byte at a place is known to be the id, if there is an id to compare. -/
def Confirms (known : Nat → Option UInt8) (packetId : Option UInt16) (index : Nat) : Prop :=
  ∀ expected ∈ packetId, ∃ byte, known index = some byte ∧ byte.toUInt16 = expected

/-- The byte at a place is known not to be the id, which no byte is above 255. -/
def Refutes (known : Nat → Option UInt8) (packetId : Option UInt16) (index : Nat) : Prop :=
  ∃ expected ∈ packetId,
    256 ≤ expected.toNat ∨ ∃ byte, known index = some byte ∧ byte.toUInt16 ≠ expected

/-- It is known whether the packet is the one that is waited for. -/
def Settles (known : Nat → Option UInt8) (length : Nat) (type : MessageType)
    (packetId : Option UInt16) : Prop :=
  SettlesPacket known length fun found => found = type →
    (∀ last, some last ∈ lengthEnds known length 4 1 → Confirms known packetId (last + 2)) ∨
      ∀ last, some last ∈ lengthEnds known length 4 1 → Refutes known packetId (last + 2)

theorem toUInt16_ne_of_le {byte : UInt8} {expected : UInt16} (hexpected : 256 ≤ expected.toNat) :
    byte.toUInt16 ≠ expected := by
  rintro rfl
  have hlt := byte.toNat_lt
  rw [UInt8.toNat_toUInt16] at hexpected
  omega

/-- The comparison that is made with a packet whose length ends at a place. -/
def answersAt (type : MessageType) (packetId : Option UInt16) (found : MessageType) (last : Nat)
    (memory : Memory) : Bool :=
  found = type ∧ ∀ expected ∈ packetId, (memory (last + 2)).toUInt16 = expected

theorem answersAt_of_confirms {memory : Memory} {type : MessageType} {packetId : Option UInt16}
    {last : Nat} (hagrees : Agrees known memory) (hconfirms : Confirms known packetId (last + 2)) :
    answersAt type packetId type last memory = true := by
  refine decide_eq_true ⟨rfl, fun expected hexpected => ?_⟩
  obtain ⟨byte, hbyte, heq⟩ := hconfirms expected hexpected
  rw [hagrees _ byte hbyte, heq]

theorem answersAt_of_refutes {memory : Memory} {type : MessageType} {packetId : Option UInt16}
    {last : Nat} (hagrees : Agrees known memory) (hrefutes : Refutes known packetId (last + 2)) :
    answersAt type packetId type last memory = false := by
  refine decide_eq_false fun hanswers => ?_
  obtain ⟨expected, hexpected, hhigh | ⟨byte, hbyte, hne⟩⟩ := hrefutes
  · exact toUInt16_ne_of_le hhigh (hanswers.2 expected hexpected)
  · apply hne
    rw [← hagrees _ byte hbyte]
    exact hanswers.2 expected hexpected

/-- At a place where the length can end, one of the two is known if they make a difference. -/
theorem confirms_or_refutes {type : MessageType} {packetId : Option UInt16} {last : Nat}
    (hbody : DecidesBody known length (answersAt type packetId type))
    (hmem : some last ∈ lengthEnds known length 4 1) :
    Confirms known packetId (last + 2) ∨ Refutes known packetId (last + 2) := by
  cases packetId with
  | none => exact .inl fun _ hexpected => by simp at hexpected
  | some expected =>
      by_cases hhigh : 256 ≤ expected.toNat
      · exact .inr ⟨expected, rfl, .inl hhigh⟩
      cases hknown : known (last + 2) with
      | some byte =>
          by_cases heq : byte.toUInt16 = expected
          · left
            rintro _ ⟨⟩
            exact ⟨byte, hknown, heq⟩
          · exact .inr ⟨expected, rfl, .inr ⟨byte, hknown, heq⟩⟩
      | none =>
          -- an unknown byte can be the id or not
          have hfree (filler : Memory) : ∃ memory, Agrees known memory ∧
              lengthEnd memory length 4 1 = some last ∧
              memory (last + 2) = filler (last + 2) := by
            obtain ⟨memory, hagrees, hlast, hfree⟩ := exists_of_mem_lengthEnds hmem filler
            refine ⟨memory, hagrees, hlast, ?_⟩
            rw [hfree _ (.inr ⟨last, rfl, by omega⟩), patch_of_none hknown]
          obtain ⟨left, hleft, hleftLast, hleftByte⟩ := hfree fun _ => expected.toUInt8
          obtain ⟨right, hright, hrightLast, hrightByte⟩ := hfree fun _ => expected.toUInt8 + 1
          have hsame := hbody left right last last hleft hright hleftLast hrightLast
          have hequal : expected.toUInt8.toUInt16 = expected := by
            rw [← UInt16.toNat_inj, UInt8.toNat_toUInt16, UInt16.toNat_toUInt8]
            omega
          have hdiffers : (expected.toUInt8 + 1).toUInt16 ≠ expected := by
            rw [ne_eq, ← UInt16.toNat_inj, UInt8.toNat_toUInt16, UInt8.toNat_add,
              UInt16.toNat_toUInt8]
            simp only [UInt8.reduceToNat]
            omega
          have hanswers : answersAt type (some expected) type last left = true := by
            refine decide_eq_true ⟨rfl, ?_⟩
            rintro _ ⟨⟩
            rw [hleftByte, hequal]
          have hanswersNot : answersAt type (some expected) type last right = false :=
            decide_eq_false fun hanswers => hdiffers (hrightByte ▸ hanswers.2 expected rfl)
          rw [hanswers, hanswersNot] at hsame
          cases hsame

theorem decidesBody_answersAt_iff {type : MessageType} {packetId : Option UInt16}
    {found : MessageType} :
    DecidesBody known length (answersAt type packetId found) ↔ (found = type →
      (∀ last, some last ∈ lengthEnds known length 4 1 → Confirms known packetId (last + 2)) ∨
        ∀ last, some last ∈ lengthEnds known length 4 1 → Refutes known packetId (last + 2)) := by
  constructor
  · rintro hbody rfl
    by_cases hall : ∀ last, some last ∈ lengthEnds known length 4 1 →
        Confirms known packetId (last + 2)
    · exact .inl hall
    · simp only [not_forall, exists_prop] at hall
      obtain ⟨other, hother, hnot⟩ := hall
      right
      intro last hmem
      obtain hconfirms | hrefutes := confirms_or_refutes hbody hmem
      · have hrefutes := (confirms_or_refutes hbody hother).resolve_left hnot
        obtain ⟨left, hleft, hleftLast, -⟩ := exists_of_mem_lengthEnds hmem fun _ => 0
        obtain ⟨right, hright, hrightLast, -⟩ := exists_of_mem_lengthEnds hother fun _ => 0
        have hsame := hbody left right last other hleft hright hleftLast hrightLast
        rw [answersAt_of_confirms hleft hconfirms, answersAt_of_refutes hright hrefutes] at hsame
        simp at hsame
      · exact hrefutes
  · intro hsettled left right leftLast rightLast hleft hright hleftLast hrightLast
    have hleftMem : some leftLast ∈ lengthEnds known length 4 1 :=
      hleftLast ▸ lengthEnd_mem_lengthEnds hleft length 4 1
    have hrightMem : some rightLast ∈ lengthEnds known length 4 1 :=
      hrightLast ▸ lengthEnd_mem_lengthEnds hright length 4 1
    by_cases hfound : found = type
    · subst hfound
      obtain hconfirms | hrefutes := hsettled rfl
      · rw [answersAt_of_confirms hleft (hconfirms _ hleftMem),
          answersAt_of_confirms hright (hconfirms _ hrightMem)]
      · rw [answersAt_of_refutes hleft (hrefutes _ hleftMem),
          answersAt_of_refutes hright (hrefutes _ hrightMem)]
    · simp [answersAt, hfound]

/-- The stored bytes decide whether a packet is the one that is waited for. -/
theorem decides_answers_iff {type : MessageType} {packetId : Option UInt16}
    (htype : packetId.isSome → type.isAcknowledgement) (size : Int) :
    Decides known (fun memory => (parseBuffer memory size).map (Response.answers type packetId)) ↔
      Settles known size.toNat type packetId := by
  have hread : (fun memory => (parseBuffer memory size).map (Response.answers type packetId))
      = readPacket size.toNat (answersAt type packetId) := by
    funext memory
    rw [map_answers_parseBuffer htype, readPacket]
    rfl
  rw [hread, decides_readPacket_iff, Settles]
  simp only [decidesBody_answersAt_iff]

end Settles

/-! ### Copies of strings -/

theorem strncpy_cons_zero (bytes : List UInt8) :
    strncpy (0 :: bytes) = 0 :: List.replicate bytes.length 0 := by
  simp [strncpy, cString, List.replicate_succ]

theorem strncpy_cons_of_ne {byte : UInt8} (hbyte : byte ≠ 0) (bytes : List UInt8) :
    strncpy (byte :: bytes) = byte :: strncpy bytes := by
  simp [strncpy, cString, hbyte]

theorem slice_succ (memory : Memory) (offset size : Nat) :
    memory.slice offset (size + 1) = memory offset :: memory.slice (offset + 1) size := by
  simp only [slice, List.range_succ_eq_map, List.map_cons, List.map_map, Nat.add_zero]
  congr 1
  refine List.map_congr_left fun index _ => ?_
  rw [Function.comp_apply, Nat.succ_eq_add_one, Nat.add_right_comm, Nat.add_assoc]

/-- A copy depends on the bytes up to the first zero. -/
theorem strncpy_slice_congr {memory other : Memory} {offset size : Nat}
    (hsame : ∀ index < size, (∀ earlier < index, memory (offset + earlier) ≠ 0) →
      other (offset + index) = memory (offset + index)) :
    strncpy (other.slice offset size) = strncpy (memory.slice offset size) := by
  induction size generalizing offset with
  | zero => rfl
  | succ size ih =>
      have hbyte : other offset = memory offset :=
        hsame 0 (Nat.succ_pos size) (fun _ hearlier => absurd hearlier (Nat.not_lt_zero _))
      rw [slice_succ, slice_succ, hbyte]
      by_cases hzero : memory offset = 0
      · rw [hzero, strncpy_cons_zero, strncpy_cons_zero, length_slice, length_slice]
      · rw [strncpy_cons_of_ne hzero, strncpy_cons_of_ne hzero, ih]
        intro index hindex hnonzero
        rw [Nat.add_assoc, Nat.add_comm 1 index]
        refine hsame (index + 1) (by omega) fun earlier hearlier => ?_
        cases earlier with
        | zero => exact hzero
        | succ earlier =>
            have hearlier := hnonzero earlier (by omega)
            rwa [Nat.add_assoc, Nat.add_comm 1 earlier] at hearlier

/-- A byte in front of which there is no zero is copied. -/
theorem getElem?_strncpy_slice {memory : Memory} {offset size index : Nat} (hindex : index < size)
    (hnonzero : ∀ earlier < index, memory (offset + earlier) ≠ 0) :
    (strncpy (memory.slice offset size))[index]? = some (memory (offset + index)) := by
  induction index generalizing offset size with
  | zero =>
      obtain ⟨size, rfl⟩ : ∃ less, size = less + 1 := ⟨size - 1, by omega⟩
      rw [slice_succ]
      by_cases hzero : memory offset = 0
      · simp [hzero, strncpy_cons_zero]
      · simp [strncpy_cons_of_ne hzero]
  | succ index ih =>
      obtain ⟨size, rfl⟩ : ∃ less, size = less + 1 := ⟨size - 1, by omega⟩
      have hfirst : memory offset ≠ 0 := hnonzero 0 (Nat.succ_pos index)
      rw [slice_succ, strncpy_cons_of_ne hfirst, List.getElem?_cons_succ, ih (by omega),
        Nat.add_assoc, Nat.add_comm 1 index]
      intro earlier hearlier
      have hnext := hnonzero (earlier + 1) (by omega)
      rwa [Nat.add_assoc, Nat.add_comm 1 earlier]

/-! ### A message that is received -/

/-- Where the bytes of a message stand that `smqtt_get_next_message` takes from a PUBLISH. -/
structure Heading where
  packetId : UInt16
  offset : Nat
  size : UInt16

def firstQos (first : UInt8) : QoS := UInt32.ofNat ((first.toNat >>> 1) &&& 0x03)

/-- The bytes of the packet id in a PUBLISH. -/
def idSize (first : UInt8) : Nat := if QoS1 ≤ firstQos first then 2 else 0

def heading (length last : Nat) (memory : Memory) : Heading :=
  let topicSize := (memory (last + 2)).toNat
  let offset := last + 3 + topicSize + idSize (memory 0)
  { packetId := if QoS1 ≤ firstQos (memory 0) then (memory (offset - 1)).toUInt16 else 0
    offset
    size := UInt16.ofNat
      (sizeSub (lengthValue memory length 4 1) (2 + topicSize + idSize (memory 0))) }

theorem eval_deserializePublish_eq (memory : Memory) (length last : Nat) :
    ∃ data, (deserializeBody .publish (memory 0) (lengthValue memory length 4 1)
        (1 + last)).eval memory = .publish data ∧
      data.qos = firstQos (memory 0) ∧ data.packetId = (heading length last memory).packetId ∧
      data.message = ⟨(heading length last memory).offset, (heading length last memory).size⟩ := by
  have hindex : 1 + last + 1 = last + 2 := by omega
  have hbody (size : Nat) : 1 + last + 2 + size = last + 3 + size := by omega
  have hlong (size : Nat) : last + 3 + size + 2 - (1 + last) = 2 + size + 2 := by omega
  have hshort (size : Nat) : last + 3 + size - (1 + last) = 2 + size := by omega
  simp only [deserializeBody, deserializePublish, Interaction.eval_bind, Interaction.eval_ite,
    eval_parseString, eval_shortFromBuffer, Interaction.eval_pure]
  by_cases hqos : QoS1 ≤ firstQos (memory 0)
  · rw [if_pos (show QoS1 ≤ UInt32.ofNat (((memory 0).toNat >>> 1) &&& 0x03) from hqos)]
    refine ⟨_, rfl, rfl, ?_, ?_⟩
    · simp [heading, idSize, hqos, hindex, hbody]
    · simp [heading, idSize, hqos, hindex, hbody, hlong]
  · rw [if_neg (show ¬ QoS1 ≤ UInt32.ofNat (((memory 0).toNat >>> 1) &&& 0x03) from hqos)]
    refine ⟨_, rfl, rfl, ?_, ?_⟩
    · simp [heading, hqos]
    · simp [heading, idSize, hqos, hindex, hbody, hshort]

/-- What the caller of `smqtt_get_next_message` gets to see of a PUBLISH. -/
def content (length last : Nat) (memory : Memory) : UInt16 × List UInt8 × UInt16 :=
  let heading := heading length last memory
  (heading.packetId, strncpy (memory.slice heading.offset heading.size.toNat), heading.size)

/-- What is known, read over zeros. -/
def overZeros (known : Nat → Option UInt8) : Memory := patch (fun _ => 0) known

/-- The bytes that make up a message have been stored: the length, the byte of the topic's length
that is read, the byte of the packet id that is read, and the message up to its first zero. -/
structure StoresMessage (known : Nat → Option UInt8) (length last : Nat) : Prop where
  header : ∀ index, 1 ≤ index → index ≤ last → (known index).isSome
  topicSize : (known (last + 2)).isSome
  packetId : QoS1 ≤ firstQos (overZeros known 0) →
    (known ((heading length last (overZeros known)).offset - 1)).isSome
  message : ∀ index < (heading length last (overZeros known)).size.toNat,
    (∀ earlier < index,
      known ((heading length last (overZeros known)).offset + earlier) ≠ some 0) →
      (known ((heading length last (overZeros known)).offset + index)).isSome

section Message

variable {known : Nat → Option UInt8} {length last : Nat} {memory other : Memory}

theorem heading_congr (hlast : lengthEnd memory length 4 1 = some last)
    (hfirst : other 0 = memory 0)
    (hlength : ∀ index, 1 ≤ index → index ≤ last → other index = memory index)
    (htopic : other (last + 2) = memory (last + 2))
    (hid : QoS1 ≤ firstQos (memory 0) →
      other ((heading length last memory).offset - 1)
        = memory ((heading length last memory).offset - 1)) :
    heading length last other = heading length last memory := by
  have hvalue := (lengthEnd_congr hlast hlength).2
  simp only [heading, hfirst, htopic, hvalue, Heading.mk.injEq, and_true]
  by_cases hqos : QoS1 ≤ firstQos (memory 0)
  · have hbyte := hid hqos
    simp only [heading] at hbyte
    rw [if_pos hqos, if_pos hqos, hbyte]
  · rw [if_neg hqos, if_neg hqos]

/-- Only the bytes in front of the message settle the heading. -/
theorem heading_congr_of_lt (hlast : lengthEnd memory length 4 1 = some last)
    (hsame : ∀ index < (heading length last memory).offset, other index = memory index) :
    heading length last other = heading length last memory := by
  have hoffset : last + 2 < (heading length last memory).offset := by
    simp only [heading]
    omega
  exact heading_congr hlast (hsame 0 (by omega)) (fun index _ hindex => hsame index (by omega))
    (hsame _ hoffset) fun _ => hsame _ (by omega)

theorem agrees_overZeros (known : Nat → Option UInt8) : Agrees known (overZeros known) :=
  agrees_patch _ known

theorem overZeros_of_none {index : Nat} (hknown : known index = none) :
    overZeros known index = 0 :=
  patch_of_none hknown

theorem overZeros_eq {index : Nat} (hagrees : Agrees known memory)
    (hknown : (known index).isSome) : overZeros known index = memory index := by
  obtain ⟨byte, hbyte⟩ := Option.isSome_iff_exists.mp hknown
  rw [hagrees index byte hbyte]
  exact agrees_overZeros known index byte hbyte

/-- A stored message is read the same over any other bytes. -/
theorem StoresMessage.content_eq (hstores : StoresMessage known length last)
    (hfirst : (known 0).isSome) (hlast : lengthEnd (overZeros known) length 4 1 = some last)
    (hagrees : Agrees known memory) :
    lengthEnd memory length 4 1 = some last ∧
      content length last memory = content length last (overZeros known) := by
  have hlength (index : Nat) (hlow : 1 ≤ index) (hhigh : index ≤ last) :
      memory index = overZeros known index :=
    (overZeros_eq hagrees (hstores.header index hlow hhigh)).symm
  have hheading : heading length last memory = heading length last (overZeros known) :=
    heading_congr hlast (overZeros_eq hagrees hfirst).symm hlength
      (overZeros_eq hagrees hstores.topicSize).symm
      fun hqos => (overZeros_eq hagrees (hstores.packetId hqos)).symm
  refine ⟨(lengthEnd_congr hlast hlength).1, ?_⟩
  simp only [content, hheading]
  congr 2
  refine strncpy_slice_congr fun index hindex hnonzero => ?_
  refine (overZeros_eq hagrees (hstores.message index hindex fun earlier hearlier hzero => ?_)).symm
  exact hnonzero earlier hearlier (agrees_overZeros known _ 0 hzero)

/-- Totals that differ by less than 2^16 leave messages of different sizes. -/
theorem ofNat_sizeSub_ne {total other rest : Nat} (htotal : total % 2 ^ 16 ≠ other % 2 ^ 16) :
    UInt16.ofNat (sizeSub total rest) ≠ UInt16.ofNat (sizeSub other rest) := by
  rw [ne_eq, ← UInt16.toNat_inj, UInt16.toNat_ofNat', UInt16.toNat_ofNat', sizeSub, sizeSub]
  omega

theorem high_of_lt_lengthEnd {bufferEnd fuel buffer index : Nat} (hbuffer : 0 < buffer)
    (hlast : lengthEnd memory bufferEnd fuel buffer = some last) (hlow : buffer ≤ index)
    (hindex : index < last) : 128 ≤ (memory index).toNat := by
  induction fuel generalizing buffer with
  | zero => simp [lengthEnd] at hlast
  | succ fuel ih =>
      by_cases hend : buffer ≤ bufferEnd
      · obtain hbyte | hbyte := Nat.lt_or_ge (memory buffer).toNat 128
        · rw [lengthEnd_low hend hbyte, Option.some.injEq] at hlast
          omega
        · rw [lengthEnd_high hend hbyte] at hlast
          obtain rfl | hne := Nat.eq_or_lt_of_le hlow
          · exact hbyte
          · exact ih (Nat.succ_pos buffer) hlast hne
      · rw [lengthEnd_past hend, Option.some.injEq] at hlast
        omega

section Decides

variable (hlast : lengthEnd (overZeros known) length 4 1 = some last)
  (hbody : DecidesBody known length (content length))

include hlast hbody

/-- An unknown byte behind the length makes no difference to what is read. -/
theorem content_update {index : Nat} (hknown : known index = none) (hindex : last < index)
    (byte : UInt8) :
    content length last (Function.update (overZeros known) index byte)
      = content length last (overZeros known) := by
  refine hbody _ _ last last ((agrees_overZeros known).update hknown byte) (agrees_overZeros known) ?_
    hlast
  refine (lengthEnd_congr hlast fun other _ hother => ?_).1
  exact Function.update_of_ne (by omega) _ _

theorem isSome_topicSize : (known (last + 2)).isSome := by
  rw [Option.isSome_iff_ne_none]
  intro hknown
  have hsame := content_update hlast hbody hknown (by omega) 1
  have hsize := congrArg (·.2.2) hsame
  have hvalue : lengthValue (Function.update (overZeros known) (last + 2) 1) length 4 1
      = lengthValue (overZeros known) length 4 1 := by
    refine (lengthEnd_congr hlast fun other _ hother => ?_).2
    exact Function.update_of_ne (by omega) _ _
  have hfirst : Function.update (overZeros known) (last + 2) 1 0 = overZeros known 0 :=
    Function.update_of_ne (by omega) _ _
  simp only [content, heading, hvalue, hfirst, Function.update_self, overZeros_of_none hknown]
    at hsize
  rw [← UInt16.toNat_inj, UInt16.toNat_ofNat', UInt16.toNat_ofNat', sizeSub, sizeSub] at hsize
  have hidSize : idSize (overZeros known 0) ≤ 2 := by
    unfold idSize
    split <;> omega
  simp only [UInt8.reduceToNat] at hsize
  omega

/-- An unknown last byte of the length could announce a fifth one, or be of a longer packet. -/
theorem isSome_header (hends : none ∉ lengthEnds known length 4 1) (index : Nat)
    (hlow : 1 ≤ index) (hhigh : index ≤ last) : (known index).isSome := by
  rw [Option.isSome_iff_ne_none]
  intro hknown
  have hzero := overZeros_of_none hknown
  obtain rfl : index = last := by
    refine Nat.le_antisymm hhigh (Nat.le_of_not_lt fun hlt => ?_)
    have hbyte := high_of_lt_lengthEnd Nat.one_pos hlast hlow hlt
    simp [hzero] at hbyte
  obtain ⟨hend, hvalue, hnone⟩ := lengthEnd_update Nat.one_pos hlast hlow hzero
  have hbound := (le_of_lengthEnd Nat.one_pos hlast).2
  have hagrees (byte : UInt8) : Agrees known (Function.update (overZeros known) index byte) :=
    (agrees_overZeros known).update hknown byte
  by_cases hlong : index + 1 = 1 + 4
  · exact hends (hnone hlong ▸ lengthEnd_mem_lengthEnds (hagrees 128) length 4 1)
  · have hsame := hbody _ _ index index (hagrees 1) (agrees_overZeros known) hend hlast
    have hsize := congrArg (·.2.2) hsame
    have htopic : Function.update (overZeros known) index 1 (index + 2)
        = overZeros known (index + 2) := Function.update_of_ne (by omega) _ _
    have hfirst : Function.update (overZeros known) index 1 0 = overZeros known 0 :=
      Function.update_of_ne (by omega) _ _
    simp only [content, heading, hvalue, htopic, hfirst] at hsize
    refine ofNat_sizeSub_ne ?_ hsize
    obtain rfl | rfl | rfl : index = 1 ∨ index = 2 ∨ index = 3 := by omega
    all_goals
      norm_num
      omega

theorem isSome_packetId (hqos : QoS1 ≤ firstQos (overZeros known 0)) :
    (known ((heading length last (overZeros known)).offset - 1)).isSome := by
  rw [Option.isSome_iff_ne_none]
  intro hknown
  have hoffset : (heading length last (overZeros known)).offset - 1
      = last + 4 + (overZeros known (last + 2)).toNat := by
    simp only [heading, idSize, if_pos hqos]
    omega
  rw [hoffset] at hknown
  have hsame := content_update hlast hbody hknown (by omega) 1
  have hid := congrArg (·.1) hsame
  have htopic : Function.update (overZeros known)
      (last + 4 + (overZeros known (last + 2)).toNat) 1 (last + 2)
        = overZeros known (last + 2) := Function.update_of_ne (by omega) _ _
  have hfirst : Function.update (overZeros known)
      (last + 4 + (overZeros known (last + 2)).toNat) 1 0 = overZeros known 0 :=
    Function.update_of_ne (by omega) _ _
  have hplace : last + 3 + (overZeros known (last + 2)).toNat + 2 - 1
      = last + 4 + (overZeros known (last + 2)).toNat := by omega
  simp [content, heading, idSize, htopic, hfirst, if_pos hqos, hplace, overZeros_of_none hknown]
    at hid

/-- An unknown byte in front of which there can be no zero is a byte of the message. -/
theorem isSome_message (index : Nat)
    (hindex : index < (heading length last (overZeros known)).size.toNat)
    (hnonzero : ∀ earlier < index,
      known ((heading length last (overZeros known)).offset + earlier) ≠ some 0) :
    (known ((heading length last (overZeros known)).offset + index)).isSome := by
  rw [Option.isSome_iff_ne_none]
  intro hknown
  set heading₀ := heading length last (overZeros known) with hheading₀
  have hlt : last < heading₀.offset := by
    simp only [hheading₀, heading]
    omega
  -- the message is filled with ones, and with a two in that place
  let fill (byte : UInt8) : Memory := fun place =>
    if place < heading₀.offset then 0 else if place = heading₀.offset + index then byte else 1
  have hsame (byte : UInt8) (place : Nat) (hplace : place < heading₀.offset) :
      patch (fill byte) known place = overZeros known place := by
    simp [patch, overZeros, fill, hplace]
  have hend (byte : UInt8) : lengthEnd (patch (fill byte) known) length 4 1 = some last :=
    (lengthEnd_congr hlast fun place _ hplace => hsame byte place (by omega)).1
  have hheading (byte : UInt8) : heading length last (patch (fill byte) known) = heading₀ :=
    heading_congr_of_lt hlast (hsame byte)
  have hcopied (byte : UInt8) :
      (content length last (patch (fill byte) known)).2.1[index]? = some byte := by
    simp only [content, hheading]
    rw [getElem?_strncpy_slice hindex, patch_of_none hknown]
    · simp [fill]
    · intro earlier hearlier
      cases hplace : known (heading₀.offset + earlier) with
      | none =>
          rw [patch_of_none hplace]
          simp [fill, hearlier.ne]
      | some value =>
          rw [agrees_patch _ known _ value hplace]
          rintro rfl
          exact hnonzero earlier hearlier hplace
  have hcontent := hbody _ _ last last (agrees_patch (fill 1) known) (agrees_patch (fill 2) known)
    (hend 1) (hend 2)
  have hbyte := hcopied 1
  rw [hcontent, hcopied 2] at hbyte
  simp at hbyte

theorem storesMessage_of_decidesBody (hends : none ∉ lengthEnds known length 4 1) :
    StoresMessage known length last where
  header := isSome_header hlast hbody hends
  topicSize := isSome_topicSize hlast hbody
  packetId := isSome_packetId hlast hbody
  message := isSome_message hlast hbody

end Decides

/-- The message is settled by what is known exactly if all of it is. -/
theorem decidesBody_content_iff (hends : none ∉ lengthEnds known length 4 1)
    (hfirst : (known 0).isSome) :
    DecidesBody known length (content length) ↔
      ∃ last, lengthEnd (overZeros known) length 4 1 = some last ∧
        StoresMessage known length last := by
  have hsome : lengthEnd (overZeros known) length 4 1 ≠ none := fun hnone =>
    hends (hnone ▸ lengthEnd_mem_lengthEnds (agrees_overZeros known) length 4 1)
  obtain ⟨last, hlast⟩ := Option.ne_none_iff_exists'.mp hsome
  constructor
  · intro hbody
    exact ⟨last, hlast, storesMessage_of_decidesBody hlast hbody hends⟩
  · rintro ⟨last, hlast, hstores⟩ left right leftLast rightLast hleft hright hleftLast hrightLast
    obtain ⟨hleftEnd, hleftContent⟩ := hstores.content_eq hfirst hlast hleft
    obtain ⟨hrightEnd, hrightContent⟩ := hstores.content_eq hfirst hlast hright
    obtain rfl : last = leftLast := Option.some.inj (hleftEnd.symm.trans hleftLast)
    obtain rfl : last = rightLast := Option.some.inj (hrightEnd.symm.trans hrightLast)
    rw [hleftContent, hrightContent]

/-- The message in a packet, if it is a PUBLISH. -/
def readContent (length : Nat) : Memory → Option (Option (UInt16 × List UInt8 × UInt16)) :=
  readPacket length fun found last memory =>
    if found = .publish then some (content length last memory) else none

theorem decidesBody_readContent_iff {found : MessageType}
    (hends : none ∉ lengthEnds known length 4 1) (hfirst : (known 0).isSome) :
    DecidesBody known length (fun last memory =>
        if found = .publish then some (content length last memory) else none) ↔
      (found = .publish → ∃ last, lengthEnd (overZeros known) length 4 1 = some last ∧
        StoresMessage known length last) := by
  rw [← decidesBody_content_iff hends hfirst]
  by_cases hfound : found = .publish
  · simp [hfound, DecidesBody]
  · simp [hfound, DecidesBody]

theorem SettlesPacket.congr {body body' : MessageType → Prop}
    (hsame : none ∉ lengthEnds known length 4 1 → (known 0).isSome →
      ∀ found, body found ↔ body' found) :
    SettlesPacket known length body ↔ SettlesPacket known length body' := by
  refine or_congr_right (exists_congr fun first => and_congr_right fun hfirst => ?_)
  refine forall_congr' fun found => imp_congr_right fun _ => and_congr_right fun hends => ?_
  exact hsame hends (Option.isSome_of_eq_some hfirst) found

theorem decides_readContent_iff :
    Decides known (readContent length) ↔ SettlesPacket known length fun found =>
      found = .publish → ∃ last, lengthEnd (overZeros known) length 4 1 = some last ∧
        StoresMessage known length last := by
  rw [readContent, decides_readPacket_iff]
  exact SettlesPacket.congr fun hends hfirst _ => decidesBody_readContent_iff hends hfirst

/-- The message that is read is that of the response. -/
theorem parseBuffer_cases (memory : Memory) (size : Int) :
    (parseBuffer memory size = none ∧ readContent size.toNat memory = none) ∨
      (∃ resp, parseBuffer memory size = some resp ∧ resp.type ≠ .publish ∧
        readContent size.toNat memory = some none) ∨
      ∃ data, parseBuffer memory size = some (.publish data) ∧ data.qos = firstQos (memory 0) ∧
        readContent size.toNat memory
          = some (some (data.packetId, strncpy (data.message.bytes memory), data.message.size)) := by
  rw [parseBuffer_eq, readContent, readPacket]
  cases lengthEnd memory size.toNat 4 1 with
  | none => exact .inl ⟨rfl, rfl⟩
  | some last =>
      cases MessageType.ofCode ((memory 0).toNat >>> 4) with
      | none => exact .inl ⟨rfl, rfl⟩
      | some found =>
          by_cases hfound : found = .publish
          · subst hfound
            obtain ⟨data, hdata, hqos, hpacketId, hmessage⟩ :=
              eval_deserializePublish_eq memory size.toNat last
            refine .inr (.inr ⟨data, congrArg some hdata, hqos, ?_⟩)
            rw [hpacketId, hmessage]
            rfl
          · refine .inr (.inl ⟨_, rfl, ?_, ?_⟩)
            · rwa [type_deserializeBody]
            · simp [hfound]

end Message

end Smqtt
