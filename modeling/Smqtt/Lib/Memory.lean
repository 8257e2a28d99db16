import Mathlib

/-!
# Byte memory

Memory is read by offset from the start of some buffer. Nothing is said about where the buffer
ends: a byte past its end is arbitrary but fixed, which is what a program that reads too far sees.
-/

abbrev Memory := Nat → UInt8

namespace Memory

/-- Overwrite a leading stretch of memory. -/
def write (memory : Memory) (bytes : List UInt8) : Memory :=
  fun index => bytes[index]?.getD (memory index)

/-- Overwrite the stretch that starts at `offset`. -/
def writeAt (memory : Memory) (offset : Nat) (bytes : List UInt8) : Memory :=
  fun index => if index < offset then memory index else bytes[index - offset]?.getD (memory index)

/-- Overwrite the bytes that are given. -/
def patch (memory : Memory) (bytes : Nat → Option UInt8) : Memory :=
  fun index => (bytes index).getD (memory index)

def slice (memory : Memory) (offset size : Nat) : List UInt8 :=
  (List.range size).map fun index => memory (offset + index)

/-- The bytes stand in memory from `offset` on. -/
def Holds (memory : Memory) (offset : Nat) (bytes : List UInt8) : Prop :=
  ∀ index, ∀ hindex : index < bytes.length, memory (offset + index) = bytes[index]

variable {memory : Memory} {offset : Nat} {bytes rest : List UInt8} {byte : UInt8}

@[simp]
theorem length_slice (memory : Memory) (offset size : Nat) :
    (memory.slice offset size).length = size := by
  simp [slice]

theorem write_of_lt {index : Nat} (hindex : index < bytes.length) :
    memory.write bytes index = bytes[index] := by
  simp [write, List.getElem?_eq_getElem hindex]

theorem write_of_le {index : Nat} (hindex : bytes.length ≤ index) :
    memory.write bytes index = memory index := by
  simp [write, List.getElem?_eq_none hindex]

theorem holds_write (memory : Memory) (bytes : List UInt8) : (memory.write bytes).Holds 0 bytes := by
  intro index hindex
  rw [Nat.zero_add, write_of_lt hindex]

theorem holds_writeAt (memory : Memory) (offset : Nat) (bytes : List UInt8) :
    (memory.writeAt offset bytes).Holds offset bytes := by
  intro index hindex
  simp [writeAt, List.getElem?_eq_getElem hindex]

theorem Holds.writeAt (hholds : memory.Holds offset bytes) (rest : List UInt8) :
    (memory.writeAt (offset + bytes.length) rest).Holds offset bytes := by
  intro index hindex
  rw [Memory.writeAt, if_pos (by omega)]
  exact hholds index hindex

/-- What lies past the overwritten stretch reads as before. -/
theorem slice_write_of_le {size : Nat} (hoffset : bytes.length ≤ offset) :
    (memory.write bytes).slice offset size = memory.slice offset size := by
  refine List.map_congr_left fun index _ => ?_
  exact write_of_le (by omega)

theorem Holds.slice_eq (hholds : memory.Holds offset bytes) :
    memory.slice offset bytes.length = bytes := by
  apply List.ext_getElem (by simp)
  intro index hleft hright
  simpa [slice] using hholds index hright

theorem holds_nil : memory.Holds offset [] := by
  intro index hindex
  simp at hindex

theorem holds_cons :
    memory.Holds offset (byte :: bytes) ↔ memory offset = byte ∧ memory.Holds (offset + 1) bytes := by
  constructor
  · intro hholds
    refine ⟨hholds 0 (by simp), fun index hindex => ?_⟩
    have hnext := hholds (index + 1) (by simpa using hindex)
    rwa [List.getElem_cons_succ, show offset + (index + 1) = offset + 1 + index by omega] at hnext
  · rintro ⟨hhead, htail⟩ index hindex
    cases index with
    | zero => simpa using hhead
    | succ index =>
        have hnext := htail index (by simpa using hindex)
        rwa [show offset + 1 + index = offset + (index + 1) by omega] at hnext

theorem holds_append :
    memory.Holds offset (bytes ++ rest) ↔
      memory.Holds offset bytes ∧ memory.Holds (offset + bytes.length) rest := by
  induction bytes generalizing offset with
  | nil => simp [holds_nil]
  | cons byte bytes ih =>
      rw [List.cons_append, holds_cons, holds_cons, ih, and_assoc, List.length_cons,
        show offset + 1 + bytes.length = offset + (bytes.length + 1) by omega]

theorem patch_getElem (memory : Memory) (bytes : List UInt8) :
    memory.patch (fun index => bytes[index]?) = memory.write bytes := rfl

/-! ### Memory of which a part is known -/

/-- The memory holds the bytes that are known. -/
def Agrees (known : Nat → Option UInt8) (memory : Memory) : Prop :=
  ∀ index byte, known index = some byte → memory index = byte

/-- The known bytes settle the value, whatever the others are. -/
def Decides {α : Type*} (known : Nat → Option UInt8) (value : Memory → α) : Prop :=
  ∀ left right, Agrees known left → Agrees known right → value left = value right

/-- What is known once more bytes have been stored. -/
def overlay (stored known : Nat → Option UInt8) : Nat → Option UInt8 :=
  fun index => (stored index).or (known index)

variable {known stored : Nat → Option UInt8}

theorem agrees_patch (memory : Memory) (known : Nat → Option UInt8) :
    Agrees known (memory.patch known) := by
  intro index byte hknown
  simp [patch, hknown]

theorem patch_of_none {index : Nat} (hknown : known index = none) :
    memory.patch known index = memory index := by
  simp [patch, hknown]

/-- An unknown byte can be anything. -/
theorem Agrees.update (hagrees : Agrees known memory) {index : Nat} (hknown : known index = none)
    (byte : UInt8) : Agrees known (Function.update memory index byte) := by
  intro other value hother
  have hne : other ≠ index := by
    rintro rfl
    simp [hknown] at hother
  rw [Function.update_of_ne hne]
  exact hagrees other value hother

theorem Agrees.overlay_patch (hagrees : Agrees known memory) (stored : Nat → Option UInt8) :
    Agrees (overlay stored known) (memory.patch stored) := by
  intro index byte hknown
  cases hstored : stored index with
  | none =>
      rw [overlay, hstored, Option.none_or] at hknown
      rw [patch_of_none hstored]
      exact hagrees index byte hknown
  | some value =>
      rw [overlay, hstored, Option.some_or] at hknown
      simpa [patch, hstored] using hknown

/-- Every memory that holds the known bytes and those stored since comes from one that held the
known bytes. -/
theorem exists_patch_of_agrees_overlay (hagrees : Agrees (overlay stored known) memory) :
    ∃ before, Agrees known before ∧ before.patch stored = memory := by
  refine ⟨memory.patch known, agrees_patch memory known, ?_⟩
  funext index
  cases hstored : stored index with
  | some value =>
      rw [patch, hstored, Option.getD_some]
      exact (hagrees index value (by simp [overlay, hstored])).symm
  | none =>
      rw [patch_of_none hstored]
      cases hknown : known index with
      | none => exact patch_of_none hknown
      | some value =>
          rw [patch, hknown, Option.getD_some]
          exact (hagrees index value (by simp [overlay, hstored, hknown])).symm

/-- Deciding what is read behind a store. -/
theorem decides_patch_iff {α : Type*} (value : Memory → α) :
    Decides known (fun memory => value (memory.patch stored)) ↔
      Decides (overlay stored known) value := by
  constructor
  · intro hdecides left right hleft hright
    obtain ⟨first, hfirst, rfl⟩ := exists_patch_of_agrees_overlay hleft
    obtain ⟨second, hsecond, rfl⟩ := exists_patch_of_agrees_overlay hright
    exact hdecides first second hfirst hsecond
  · intro hdecides left right hleft hright
    exact hdecides _ _ (hleft.overlay_patch stored) (hright.overlay_patch stored)

theorem decides_const {α : Type*} (known : Nat → Option UInt8) (value : α) :
    Decides known (fun _ => value) :=
  fun _ _ _ _ => rfl

theorem Decides.congr {α : Type*} {value other : Memory → α}
    (hsame : ∀ memory, Agrees known memory → value memory = other memory) :
    Decides known value ↔ Decides known other := by
  constructor
  · intro hdecides left right hleft hright
    rw [← hsame left hleft, ← hsame right hright]
    exact hdecides left right hleft hright
  · intro hdecides left right hleft hright
    rw [hsame left hleft, hsame right hright]
    exact hdecides left right hleft hright

/-- A value that shows what it was computed from is settled if that is, and then itself. -/
theorem decides_comp_iff {α β : Type*} (part : Memory → β) {value : β → Memory → α}
    (hshows : ∀ first second left right, value first left = value second right → first = second)
    {base : Memory} (hbase : Agrees known base) :
    Decides known (fun memory => value (part memory) memory) ↔
      Decides known part ∧ Decides known (value (part base)) := by
  have hpart (hdecides : Decides known part) (memory : Memory) (hagrees : Agrees known memory) :
      value (part memory) memory = value (part base) memory := by
    rw [hdecides memory base hagrees hbase]
  constructor
  · intro hdecides
    have hdecidesPart : Decides known part := fun left right hleft hright =>
      hshows _ _ left right (hdecides left right hleft hright)
    exact ⟨hdecidesPart, (Decides.congr (hpart hdecidesPart)).mp hdecides⟩
  · rintro ⟨hdecidesPart, hdecides⟩
    exact (Decides.congr (hpart hdecidesPart)).mpr hdecides

end Memory
