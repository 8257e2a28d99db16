import Smqtt.Lib.FirstItem
import Smqtt.Proof.Delimited

/-!
# The length codec

`encode_size` writes base-128 digits, and gives up on what four of them cannot hold. `decode_size`
reads them back, up to the first byte without a continuation bit. It takes the end of the buffer for
the end of the length as well: only a fourth continuation bit makes it give up.
-/

namespace Smqtt

open Base128

section Loop

variable {memory : Memory} {init : List UInt8} {fuel buffer bufferEnd sum multiplier used : Nat}
  {digit last : UInt8}

/-- The loop up to the first byte without a continuation bit. -/
theorem eval_decodeSizeLoop_append (hholds : memory.Holds buffer (init ++ [last]))
    (hinit : ∀ byte ∈ init, 128 ≤ byte.toNat) (hlast : last.toNat < 128)
    (hfuel : init.length < fuel) (hend : buffer + init.length ≤ bufferEnd) :
    (decodeSizeLoop bufferEnd fuel buffer sum multiplier used digit).eval memory
      = (sum + value (init ++ [last]) * multiplier, used + init.length + 1, last) := by
  induction init generalizing fuel buffer sum multiplier used digit with
  | nil =>
      obtain ⟨fuel, rfl⟩ : ∃ fuel', fuel = fuel' + 1 := ⟨fuel - 1, by omega⟩
      obtain ⟨rfl, -⟩ := Memory.holds_cons.mp hholds
      have hvalue : value ([] ++ [memory buffer]) = (memory buffer).toNat := by
        simp [Nat.mod_eq_of_lt hlast]
      have hbuffer : buffer ≤ bufferEnd := hend
      rw [eval_decodeSizeLoop_last hbuffer hlast, hvalue]
      rfl
  | cons byte init ih =>
      obtain ⟨fuel, rfl⟩ : ∃ fuel', fuel = fuel' + 1 := ⟨fuel - 1, by omega⟩
      obtain ⟨rfl, hrest⟩ := Memory.holds_cons.mp hholds
      obtain ⟨hbyte, hinit⟩ := List.forall_mem_cons.mp hinit
      have hlt := (memory buffer).toNat_lt
      rw [List.length_cons] at hfuel hend
      rw [eval_decodeSizeLoop_continue (by omega) hbyte,
        ih hrest hinit (by omega) (by omega), List.cons_append, value_cons, List.length_cons]
      have hdigit : (memory buffer).toNat % 128 = (memory buffer).toNat - 128 := by omega
      rw [hdigit, Prod.mk.injEq, Prod.mk.injEq]
      refine ⟨by ring, by omega, rfl⟩

/-- The loop over bytes with continuation bits, to the fourth of them or to the end of the buffer. -/
theorem eval_decodeSizeLoop_high (hholds : memory.Holds buffer init)
    (hinit : ∀ byte ∈ init, 128 ≤ byte.toNat) (hfuel : init.length ≤ fuel)
    (hend : buffer + init.length ≤ bufferEnd + 1)
    (hstop : init.length = fuel ∨ bufferEnd < buffer + init.length) :
    (decodeSizeLoop bufferEnd fuel buffer sum multiplier used digit).eval memory
      = (sum + value init * multiplier, used + init.length, init.getLast?.getD digit) := by
  induction init generalizing fuel buffer sum multiplier used digit with
  | nil =>
      cases fuel with
      | zero => simp [decodeSizeLoop]
      | succ fuel =>
          have hbuffer : ¬ buffer ≤ bufferEnd := by
            rw [List.length_nil] at hstop
            omega
          simp [decodeSizeLoop, hbuffer]
  | cons byte init ih =>
      obtain ⟨fuel, rfl⟩ : ∃ fuel', fuel = fuel' + 1 := ⟨fuel - 1, by
        rw [List.length_cons] at hfuel
        omega⟩
      obtain ⟨rfl, hrest⟩ := Memory.holds_cons.mp hholds
      obtain ⟨hbyte, hinit⟩ := List.forall_mem_cons.mp hinit
      have hlt := (memory buffer).toNat_lt
      rw [List.length_cons] at hfuel hend hstop
      rw [eval_decodeSizeLoop_continue (by omega) hbyte,
        ih hrest hinit (by omega) (by omega) (by omega), value_cons, List.length_cons,
        List.getLast?_cons]
      have hdigit : (memory buffer).toNat % 128 = (memory buffer).toNat - 128 := by omega
      rw [hdigit, Prod.mk.injEq, Prod.mk.injEq]
      refine ⟨by ring, by omega, rfl⟩

theorem eval_decodeSize_append (hholds : memory.Holds buffer (init ++ [last]))
    (hinit : ∀ byte ∈ init, 128 ≤ byte.toNat) (hlast : last.toNat < 128)
    (hlength : init.length < 4) (hend : buffer + init.length ≤ bufferEnd) :
    (decodeSize buffer bufferEnd).eval memory = (some (value (init ++ [last])), init.length + 1) := by
  have hloop := @eval_decodeSizeLoop_append memory init 4 buffer bufferEnd 0 1 0 0 last hholds hinit
    hlast hlength hend
  have hlow := (and_high_eq_zero_iff last).mpr hlast
  simp [decodeSize, hloop, hlow]

/-- Four continuation bits are too many. -/
theorem eval_decodeSize_overflow (hholds : memory.Holds buffer init)
    (hinit : ∀ byte ∈ init, 128 ≤ byte.toNat) (hlength : init.length = 4)
    (hend : buffer + 4 ≤ bufferEnd + 1) : ((decodeSize buffer bufferEnd).eval memory).1 = none := by
  have hloop := @eval_decodeSizeLoop_high memory init 4 buffer bufferEnd 0 1 0 0 hholds hinit
    hlength.le (by omega) (.inl hlength)
  obtain ⟨front, final, rfl⟩ := List.eq_nil_or_concat' init |>.resolve_left (by
    rintro rfl
    cases hlength)
  have hhigh := hinit final (by simp)
  simp [decodeSize, hloop, hlength, and_high_eq_zero_iff, hhigh]

/-- The end of the buffer ends the length. -/
theorem eval_decodeSize_truncated (hholds : memory.Holds buffer init)
    (hinit : ∀ byte ∈ init, 128 ≤ byte.toNat) (hlength : init.length < 4)
    (hend : bufferEnd + 1 = buffer + init.length) :
    (decodeSize buffer bufferEnd).eval memory = (some (value init), init.length) := by
  have hloop := @eval_decodeSizeLoop_high memory init 4 buffer bufferEnd 0 1 0 0 hholds hinit
    hlength.le hend.ge (.inr (by omega))
  have hne : init.length ≠ 4 := hlength.ne
  simp [decodeSize, hloop, hne]

end Loop

/-! ### There and back -/

theorem encodeSizeLoop_fst (fuel size : Nat) : (encodeSizeLoop fuel size).1 = size / 128 ^ fuel := by
  induction fuel generalizing size with
  | zero => simp [encodeSizeLoop]
  | succ fuel ih =>
      by_cases hquotient : size / 128 = 0
      · have hzero : size / 128 ^ (fuel + 1) = 0 := by
          rw [Nat.pow_succ', ← Nat.div_div_eq_div_mul, hquotient, Nat.zero_div]
        simp [encodeSizeLoop, hquotient, hzero]
      · simp [encodeSizeLoop, hquotient, ih, Nat.div_div_eq_div_mul, Nat.pow_succ']

theorem encodeSize_fst (size : Nat) : (encodeSize size).1 = true ↔ size < Wire.lengthLimit := by
  have hlimit : (128 : Nat) ^ 4 = Wire.lengthLimit := rfl
  simp only [encodeSize, encodeSizeLoop_fst, hlimit, gt_iff_lt, Bool.not_eq_true',
    decide_eq_false_iff_not, Nat.not_lt, Nat.le_zero, Nat.div_eq_zero_iff]
  exact or_iff_right (by decide)

theorem encodeSize_eq {size : Nat} (hsize : size < Wire.lengthLimit) :
    encodeSize size = (true, encode 4 size) :=
  Prod.ext ((encodeSize_fst size).mpr hsize) (encodeSize_snd hsize)

/-- One to four bytes, of which only the last has no continuation bit; a zero at the end stands
alone. -/
def Shortest (bytes : List UInt8) : Prop :=
  ∃ init last, bytes = init ++ [last] ∧ init.length < 4 ∧ (∀ byte ∈ init, 128 ≤ byte.toNat) ∧
    last.toNat < 128 ∧ (init ≠ [] → last ≠ 0)

/-- What is written for a size, and what is read from there on, up to the end of a buffer that holds
at least as much. -/
structure SizeCodec (size : UInt64) (memory : Memory) (buffer bufferEnd : Nat) : Prop where
  fits_iff : (encodeSize size.toNat).1 = true ↔ size.toNat < 2 ^ 28
  least : size.toNat < 2 ^ 28 →
    IsLeast {used | 1 ≤ used ∧ used ≤ 4 ∧ size.toNat < 128 ^ used} (encodeSize size.toNat).2.length
  decoded : size.toNat < 2 ^ 28 → buffer + (encodeSize size.toNat).2.length ≤ bufferEnd + 1 →
    (decodeSize buffer bufferEnd).eval (memory.writeAt buffer (encodeSize size.toNat).2)
      = (some size.toNat, (encodeSize size.toNat).2.length)
  rejected : 2 ^ 28 ≤ size.toNat → (encodeSize size.toNat).2.length = 4 ∧
    (buffer + 4 ≤ bufferEnd + 1 →
      ((decodeSize buffer bufferEnd).eval
        (memory.writeAt buffer (encodeSize size.toNat).2)).1 = none)

theorem sizeCodec (size : UInt64) (memory : Memory) (buffer bufferEnd : Nat) :
    SizeCodec size memory buffer bufferEnd := by
  refine ⟨encodeSize_fst size.toNat, fun hsize => ?_, fun hsize hend => ?_, fun hsize => ?_⟩
  · obtain ⟨⟨hpos, hlength⟩, hleast⟩ := @isLeast_length_encode 3 size.toNat hsize
    rw [encodeSize_snd hsize]
    refine ⟨⟨hpos, length_encode_le 4 size.toNat, hlength⟩, ?_⟩
    rintro used ⟨hused, -, hpow⟩
    exact hleast ⟨hused, hpow⟩
  · rw [encodeSize_snd hsize] at hend ⊢
    exact eval_decodeSize_encode hsize (memory.holds_writeAt buffer _) hend
  · obtain ⟨hlength, hhigh⟩ := encodeSize_overflow hsize
    exact ⟨hlength, eval_decodeSize_overflow (memory.holds_writeAt buffer _) hhigh hlength⟩

/-- **The length codec.** What `encode_size` writes is read back, whatever follows it, and what is in
its shortest form is written again. -/
theorem length_codec (size : UInt64) (memory : Memory) (buffer bufferEnd : Nat)
    (bytes : List UInt8) :
    SizeCodec size memory buffer bufferEnd ∧
      (Shortest bytes → buffer + bytes.length ≤ bufferEnd + 1 → ∃ decoded used,
        (decodeSize buffer bufferEnd).eval (memory.writeAt buffer bytes) = (some decoded, used) ∧
          encodeSize decoded = (true, bytes)) := by
  refine ⟨sizeCodec size memory buffer bufferEnd, ?_⟩
  rintro ⟨init, last, rfl, hlength, hinit, hlast, hshortest⟩ hend
  rw [List.length_append, List.length_singleton] at hend
  refine ⟨_, _, eval_decodeSize_append (memory.holds_writeAt buffer _) hinit hlast hlength
    (by omega), ?_⟩
  have hencode := encode_value hlength hinit hlast hshortest
  have hlimit : value (init ++ [last]) < Wire.lengthLimit := by
    have hbound : value (init ++ [last]) < 128 ^ (init ++ [last]).length := value_lt _
    have hpow : 128 ^ (init ++ [last]).length ≤ 128 ^ 4 := by
      apply Nat.pow_le_pow_right (by decide)
      simpa using hlength
    exact hbound.trans_le hpow
  rw [encodeSize_eq hlimit, hencode]

/-! ### What is accepted -/

/-- `decode_size` accepts a complete length and nothing else: its value are the digits up to the
first byte without the continuation bit, which is one of the first four. No size comes with a
refusal. -/
structure AcceptsPrefix (bytes : List UInt8) (result : Option Nat × Nat) : Prop where
  accepts_iff : result.1.isSome ↔ ∃ byte ∈ bytes.take 4, byte.toNat < 128
  decoded : ∀ init last rest, bytes = init ++ last :: rest → init.length < 4 →
    (∀ byte ∈ init, 128 ≤ byte.toNat) → last.toNat < 128 →
      result = (some (value (init ++ [last])), init.length + 1)

theorem mem_take_four {init rest : List UInt8} {last : UInt8} (hlength : init.length < 4) :
    last ∈ (init ++ last :: rest).take 4 := by
  rw [List.mem_take_iff_getElem]
  refine ⟨init.length, ?_, by simp⟩
  rw [List.length_append, List.length_cons]
  omega

theorem AcceptsPrefix.of_low {init rest : List UInt8} {last : UInt8}
    (hlength : init.length < 4) (hinit : ∀ byte ∈ init, 128 ≤ byte.toNat) (hlast : last.toNat < 128) :
    AcceptsPrefix (init ++ last :: rest) (some (value (init ++ [last])), init.length + 1) where
  accepts_iff := iff_of_true rfl ⟨last, mem_take_four hlength, hlast⟩
  decoded other final behind heq _ hother hfinal := by
    simp only [← not_lt] at hinit hother
    obtain ⟨rfl, rfl, -⟩ := FirstItem.split_unique heq hinit hlast hother hfinal
    rfl

theorem AcceptsPrefix.of_high {bytes : List UInt8} {used : Nat}
    (hhigh : ∀ byte ∈ bytes.take 4, 128 ≤ byte.toNat) : AcceptsPrefix bytes (none, used) where
  accepts_iff := iff_of_false (by simp) fun ⟨byte, hmem, hlow⟩ => by
    have hle := hhigh byte hmem
    omega
  decoded init last rest heq hlength _ hlast := by
    have hle := hhigh last (heq ▸ mem_take_four hlength)
    omega

/-- **Complete lengths.** A string that ends before the fourth byte, with a continuation bit to the
last, is the only one that is accepted without being complete. -/
theorem acceptsPrefix_iff (memory : Memory) (buffer : Nat) (first : UInt8) (rest : List UInt8) :
    AcceptsPrefix (first :: rest) ((decodeSize buffer (buffer + rest.length)).eval
        (memory.writeAt buffer (first :: rest))) ↔
      4 ≤ (first :: rest).length ∨ ∃ byte ∈ first :: rest, byte.toNat < 128 := by
  have hlength : (first :: rest).length = rest.length + 1 := List.length_cons
  have hholds := memory.holds_writeAt buffer (first :: rest)
  generalize memory.writeAt buffer (first :: rest) = memory at hholds ⊢
  generalize first :: rest = bytes at hlength hholds ⊢
  have hfront : memory.Holds buffer (bytes.take 4) := by
    rw [← List.take_append_drop 4 bytes, Memory.holds_append] at hholds
    exact hholds.1
  have hfour : (bytes.take 4).length = min 4 bytes.length := List.length_take
  obtain hhigh | ⟨init, last, behind, hsplit, hinit, hlast⟩ :=
    FirstItem.none_or_split (fun byte : UInt8 => byte.toNat < 128) (bytes.take 4)
  · simp only [not_lt] at hhigh
    by_cases hlong : 4 ≤ bytes.length
    · have hnone := @eval_decodeSize_overflow memory _ buffer (buffer + rest.length) hfront hhigh
        (by omega) (by omega)
      rw [← Prod.mk.eta (p := (decodeSize buffer (buffer + rest.length)).eval memory), hnone]
      exact iff_of_true (.of_high hhigh) (.inl hlong)
    · rw [List.take_of_length_le (by omega)] at hhigh
      rw [eval_decodeSize_truncated hholds hhigh (by omega) (by omega)]
      refine iff_of_false (fun haccepts => ?_) ?_
      · obtain ⟨byte, hmem, hlow⟩ := haccepts.accepts_iff.mp rfl
        have hle := hhigh byte (List.mem_of_mem_take hmem)
        omega
      · rintro (hlength | ⟨byte, hmem, hlow⟩)
        · exact hlong hlength
        · have hle := hhigh byte hmem
          omega
  · simp only [not_lt] at hinit
    have hbytes : bytes = init ++ last :: (behind ++ bytes.drop 4) := by
      rw [← List.cons_append, ← List.append_assoc, ← hsplit, List.take_append_drop]
    have hinitLength : init.length < 4 ∧ init.length < bytes.length := by
      rw [hsplit, List.length_append, List.length_cons] at hfour
      omega
    rw [hsplit, List.append_cons, Memory.holds_append] at hfront
    rw [eval_decodeSize_append hfront.1 hinit hlast hinitLength.1 (by omega)]
    have hmem : last ∈ bytes := List.mem_of_mem_take (hsplit ▸ List.mem_append_cons_self)
    refine iff_of_true ?_ (.inr ⟨last, hmem, hlast⟩)
    rw [hbytes]
    exact .of_low hinitLength.1 hinit hlast

/-- A single continuation byte passes for the length 0. -/
theorem lone_continuation_accepted :
    ¬ AcceptsPrefix [0x80] ((decodeSize 0 0).eval (Memory.writeAt (fun _ => 0) 0 [0x80])) := by
  intro haccepts
  have haccepted : ∃ byte ∈ ([0x80] : List UInt8).take 4, byte.toNat < 128 :=
    haccepts.accepts_iff.mp (by decide)
  revert haccepted
  decide

end Smqtt
