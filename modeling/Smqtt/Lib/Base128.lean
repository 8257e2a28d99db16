import Mathlib

/-!
# Base-128 numbers with continuation bits

A number is written least significant digit first, seven bits to a byte, and every byte but the
last has its high bit set. The code is self-delimiting, so it can stand in front of anything.
-/

namespace Base128

/-- At most `digits` bytes; a number of `128 ^ digits` or more is cut off. -/
def encode : Nat → Nat → List UInt8
  | 0, _ => []
  | digits + 1, value =>
      if value < 128 then [UInt8.ofNat value]
      else UInt8.ofNat (value % 128 + 128) :: encode digits (value / 128)

/-- Read a number of at most `digits` bytes, and what follows it. -/
def decode : Nat → List UInt8 → Option (Nat × List UInt8)
  | 0, _ => none
  | _ + 1, [] => none
  | digits + 1, byte :: bytes =>
      if byte.toNat < 128 then some (byte.toNat, bytes)
      else (decode digits bytes).map fun (value, rest) => (byte.toNat - 128 + 128 * value, rest)

theorem encode_of_lt {digits value : Nat} (hvalue : value < 128) :
    encode (digits + 1) value = [UInt8.ofNat value] := by
  simp [encode, hvalue]

theorem encode_of_le {digits value : Nat} (hvalue : 128 ≤ value) :
    encode (digits + 1) value
      = UInt8.ofNat (value % 128 + 128) :: encode digits (value / 128) := by
  simp [encode, Nat.not_lt.mpr hvalue]

theorem decode_of_lt {digits : Nat} {byte : UInt8} {bytes : List UInt8} (hbyte : byte.toNat < 128) :
    decode (digits + 1) (byte :: bytes) = some (byte.toNat, bytes) := by
  simp [decode, hbyte]

theorem decode_of_le {digits : Nat} {byte : UInt8} {bytes : List UInt8} (hbyte : 128 ≤ byte.toNat) :
    decode (digits + 1) (byte :: bytes)
      = (decode digits bytes).map fun (value, rest) => (byte.toNat - 128 + 128 * value, rest) := by
  simp [decode, Nat.not_lt.mpr hbyte]

/-- The encoding is self-delimiting. -/
theorem decode_encode_append {digits value : Nat} (rest : List UInt8)
    (hvalue : value < 128 ^ (digits + 1)) :
    decode (digits + 1) (encode (digits + 1) value ++ rest) = some (value, rest) := by
  induction digits generalizing value with
  | zero =>
      have hlt : value < 128 := by simpa using hvalue
      have hbyte : (UInt8.ofNat value).toNat = value := by
        rw [UInt8.toNat_ofNat']
        omega
      rw [encode_of_lt hlt, List.singleton_append, decode_of_lt (by omega), hbyte]
  | succ digits ih =>
      by_cases hlt : value < 128
      · have hbyte : (UInt8.ofNat value).toNat = value := by
          rw [UInt8.toNat_ofNat']
          omega
        rw [encode_of_lt hlt, List.singleton_append, decode_of_lt (by omega), hbyte]
      · have hbyte : (UInt8.ofNat (value % 128 + 128)).toNat = value % 128 + 128 := by
          rw [UInt8.toNat_ofNat']
          omega
        have hquotient : value / 128 < 128 ^ (digits + 1) := by
          rw [Nat.div_lt_iff_lt_mul (by omega), ← Nat.pow_succ]
          exact hvalue
        rw [encode_of_le (by omega), List.cons_append, decode_of_le (by omega), ih hquotient, hbyte]
        simp only [Option.map_some, Option.some.injEq, Prod.mk.injEq, and_true]
        omega

/-- Two encodings, each followed by anything, agree only when the numbers and the rests do. -/
theorem encode_append_inj {digits left right : Nat} {leftRest rightRest : List UInt8}
    (hleft : left < 128 ^ (digits + 1)) (hright : right < 128 ^ (digits + 1))
    (heq : encode (digits + 1) left ++ leftRest = encode (digits + 1) right ++ rightRest) :
    left = right ∧ leftRest = rightRest := by
  have hdecode := decode_encode_append leftRest hleft
  rw [heq, decode_encode_append rightRest hright] at hdecode
  simpa [eq_comm] using hdecode

theorem length_of_decode {digits value : Nat} {bytes rest : List UInt8}
    (hdecode : decode digits bytes = some (value, rest)) : rest.length < bytes.length := by
  induction digits generalizing bytes value with
  | zero => simp [decode] at hdecode
  | succ digits ih =>
      cases bytes with
      | nil => simp [decode] at hdecode
      | cons byte bytes =>
          by_cases hbyte : byte.toNat < 128
          · rw [decode_of_lt hbyte] at hdecode
            obtain ⟨-, rfl⟩ := Prod.mk.inj (Option.some.inj hdecode)
            simp
          · rw [decode_of_le (by omega), Option.map_eq_some_iff] at hdecode
            obtain ⟨⟨value, rest'⟩, htail, heq⟩ := hdecode
            obtain ⟨-, rfl⟩ := Prod.mk.inj heq
            have hlength := ih htail
            rw [List.length_cons]
            omega

/-- Zero, with any number of redundant digits in front of the last. -/
theorem decode_eq_zero_iff {digits : Nat} {bytes rest : List UInt8} :
    decode digits bytes = some (0, rest) ↔
      ∃ pad < digits, bytes = List.replicate pad 0x80 ++ 0 :: rest := by
  induction digits generalizing bytes with
  | zero => simp [decode]
  | succ digits ih =>
      constructor
      · intro hdecode
        cases bytes with
        | nil => simp [decode] at hdecode
        | cons byte bytes =>
            by_cases hbyte : byte.toNat < 128
            · rw [decode_of_lt hbyte] at hdecode
              obtain ⟨hzero, rfl⟩ := Prod.mk.inj (Option.some.inj hdecode)
              obtain rfl : byte = 0 := UInt8.toNat_inj.mp hzero
              exact ⟨0, by omega, rfl⟩
            · rw [decode_of_le (by omega), Option.map_eq_some_iff] at hdecode
              obtain ⟨⟨value, rest'⟩, htail, heq⟩ := hdecode
              obtain ⟨hzero, rfl⟩ := Prod.mk.inj heq
              obtain rfl : value = 0 := by omega
              obtain rfl : byte = 0x80 := UInt8.toNat_inj.mp (show byte.toNat = 128 by omega)
              obtain ⟨pad, hpad, rfl⟩ := ih.mp htail
              exact ⟨pad + 1, by omega, rfl⟩
      · rintro ⟨pad, hpad, rfl⟩
        cases pad with
        | zero => exact decode_of_lt (by decide)
        | succ pad =>
            rw [List.replicate_succ, List.cons_append, decode_of_le (by decide),
              ih.mpr ⟨pad, by omega, rfl⟩]
            rfl

theorem length_encode_pos (digits value : Nat) : 0 < (encode (digits + 1) value).length := by
  simp only [encode]
  split <;> simp

theorem length_encode_le (digits value : Nat) : (encode digits value).length ≤ digits := by
  induction digits generalizing value with
  | zero => simp [encode]
  | succ digits ih =>
      simp only [encode]
      split
      · simp
      · simpa using ih (value / 128)

/-- A number below `128 ^ used` takes at most `used` bytes. -/
theorem length_encode_le_of_lt {digits used value : Nat} (hused : used ≤ digits)
    (hvalue : value < 128 ^ (used + 1)) : (encode (digits + 1) value).length ≤ used + 1 := by
  induction used generalizing digits value with
  | zero =>
      rw [encode_of_lt (by simpa using hvalue)]
      simp
  | succ used ih =>
      by_cases hlt : value < 128
      · rw [encode_of_lt hlt]
        simp
      · have hquotient : value / 128 < 128 ^ (used + 1) := by
          rw [Nat.div_lt_iff_lt_mul (by omega), ← Nat.pow_succ]
          exact hvalue
        obtain ⟨digits', rfl⟩ : ∃ digits', digits = digits' + 1 := ⟨digits - 1, by omega⟩
        rw [encode_of_le (by omega), List.length_cons]
        have hdigits : used ≤ digits' := by omega
        exact Nat.succ_le_succ (ih hdigits hquotient)

/-- The length is long enough for the number. -/
theorem lt_pow_length_encode {digits number : Nat} (hnumber : number < 128 ^ digits) :
    number < 128 ^ (encode digits number).length := by
  induction digits generalizing number with
  | zero => simpa [encode] using hnumber
  | succ digits ih =>
      by_cases hlt : number < 128
      · rw [encode_of_lt hlt]
        simpa using hlt
      · have hquotient : number / 128 < 128 ^ digits := by
          rw [Nat.div_lt_iff_lt_mul (by omega), ← Nat.pow_succ]
          exact hnumber
        have hrest := ih hquotient
        rw [encode_of_le (by omega), List.length_cons, Nat.pow_succ]
        omega

/-- The number of bytes is the least that the number needs. -/
theorem isLeast_length_encode {digits number : Nat} (hnumber : number < 128 ^ (digits + 1)) :
    IsLeast {used | 0 < used ∧ number < 128 ^ used} (encode (digits + 1) number).length := by
  refine ⟨⟨length_encode_pos digits number, lt_pow_length_encode hnumber⟩, ?_⟩
  rintro used ⟨hpos, hused⟩
  obtain ⟨used, rfl⟩ : ∃ used', used = used' + 1 := ⟨used - 1, by omega⟩
  by_cases hle : used ≤ digits
  · exact length_encode_le_of_lt hle hused
  · have hmax := length_encode_le (digits + 1) number
    omega

/-! ### Strings of digits -/

/-- The number that a string of bytes stands for, high bits aside. -/
def value (bytes : List UInt8) : Nat := Nat.ofDigits 128 (bytes.map fun byte => byte.toNat % 128)

@[simp]
theorem value_nil : value [] = 0 := rfl

@[simp]
theorem value_cons (byte : UInt8) (bytes : List UInt8) :
    value (byte :: bytes) = byte.toNat % 128 + 128 * value bytes := by
  simp [value, Nat.ofDigits_cons]

theorem value_lt (bytes : List UInt8) : value bytes < 128 ^ bytes.length := by
  induction bytes with
  | nil => simp
  | cons byte bytes ih =>
      rw [value_cons, List.length_cons, Nat.pow_succ]
      omega

theorem value_append_singleton_pos {last : UInt8} (hlast : last.toNat < 128) (hne : last ≠ 0)
    (init : List UInt8) : 0 < value (init ++ [last]) := by
  induction init with
  | nil =>
      have hpos : last.toNat ≠ 0 := fun hzero => hne (UInt8.toNat_inj.mp hzero)
      rw [List.nil_append, value_cons, value_nil]
      omega
  | cons byte init ih =>
      rw [List.cons_append, value_cons]
      omega

/-- A string in its shortest form is the encoding of its value. -/
theorem encode_value {digits : Nat} {init : List UInt8} {last : UInt8}
    (hdigits : init.length < digits) (hinit : ∀ byte ∈ init, 128 ≤ byte.toNat)
    (hlast : last.toNat < 128) (hshortest : init ≠ [] → last ≠ 0) :
    encode digits (value (init ++ [last])) = init ++ [last] := by
  induction init generalizing digits with
  | nil =>
      obtain ⟨digits, rfl⟩ : ∃ digits', digits = digits' + 1 := ⟨digits - 1, by omega⟩
      have hvalue : value ([] ++ [last]) = last.toNat := by
        rw [List.nil_append, value_cons, value_nil]
        omega
      rw [hvalue, encode_of_lt hlast, UInt8.ofNat_toNat, List.nil_append]
  | cons byte init ih =>
      obtain ⟨digits, rfl⟩ : ∃ digits', digits = digits' + 1 := ⟨digits - 1, by omega⟩
      obtain ⟨hbyte, hinit⟩ := List.forall_mem_cons.mp hinit
      have hne := hshortest (List.cons_ne_nil byte init)
      have hpos := value_append_singleton_pos hlast hne init
      have hlt := byte.toNat_lt
      have hdigit : UInt8.ofNat ((byte.toNat % 128 + 128 * value (init ++ [last])) % 128 + 128)
          = byte := by
        apply UInt8.toNat_inj.mp
        rw [UInt8.toNat_ofNat']
        omega
      have hrest : (byte.toNat % 128 + 128 * value (init ++ [last])) / 128
          = value (init ++ [last]) := by
        omega
      rw [List.length_cons] at hdigits
      rw [List.cons_append, value_cons, encode_of_le (by omega), hdigit, hrest,
        ih (by omega) hinit fun _ => hne]

end Base128
