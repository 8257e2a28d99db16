import Mathlib

/-!
# A pool of slots in circulation

A fixed set of slots goes round between a free list, any number of holders, a queue and one server.
Each move takes one slot from one place to another, so the slots in all places together never
change; if they are distinct at the start, no slot is ever in two places.
-/

namespace SlotPool

variable {Holder Slot : Type}

@[ext]
structure State (Holder Slot : Type) where
  free : List Slot
  held : Holder → Option Slot
  queued : List Slot
  serving : Option Slot

inductive Step [DecidableEq Holder] : State Holder Slot → State Holder Slot → Prop
  | stay (state : State Holder Slot) : Step state state
  | take {state : State Holder Slot} {holder : Holder} {slot : Slot} {rest : List Slot}
      (hfree : state.free = slot :: rest) (hheld : state.held holder = none) :
      Step state
        { state with free := rest, held := Function.update state.held holder (some slot) }
  | submit {state : State Holder Slot} {holder : Holder} {slot : Slot}
      (hheld : state.held holder = some slot) :
      Step state
        { state with
          held := Function.update state.held holder none
          queued := state.queued ++ [slot] }
  | serve {state : State Holder Slot} {slot : Slot} {rest : List Slot}
      (hqueued : state.queued = slot :: rest) (hserving : state.serving = none) :
      Step state { state with queued := rest, serving := some slot }
  | release {state : State Holder Slot} {slot : Slot} (hserving : state.serving = some slot) :
      Step state { state with free := state.free ++ [slot], serving := none }

/-- The slots of a place that has room for one. -/
def slotsOf : Option Slot → Multiset Slot
  | none => 0
  | some slot => {slot}

@[simp]
theorem slotsOf_none : slotsOf (none : Option Slot) = 0 := rfl

@[simp]
theorem slotsOf_some (slot : Slot) : slotsOf (some slot) = {slot} := rfl

section Slots

variable [Fintype Holder]

/-- The slots in all places. -/
def State.slots (state : State Holder Slot) : Multiset Slot :=
  state.free + state.queued + (∑ holder, slotsOf (state.held holder)) + slotsOf state.serving

theorem sum_update_held [DecidableEq Holder] (held : Holder → Option Slot) (holder : Holder)
    (place : Option Slot) :
    (∑ other, slotsOf (Function.update held holder place other)) + slotsOf (held holder)
      = (∑ other, slotsOf (held other)) + slotsOf place := by
  have hupdate : (fun other => slotsOf (Function.update held holder place other))
      = Function.update (fun other => slotsOf (held other)) holder (slotsOf place) := by
    funext other
    by_cases heq : other = holder
    · subst heq
      simp
    · simp [heq]
  have hsum := Finset.sum_erase_add Finset.univ (fun other => slotsOf (held other))
    (Finset.mem_univ holder)
  rw [hupdate, Finset.sum_update_of_mem (Finset.mem_univ holder), ← hsum,
    Finset.sdiff_singleton_eq_erase]
  abel

/-- **Conservation.** -/
theorem Step.slots_eq [DecidableEq Holder] {state next : State Holder Slot}
    (hstep : Step state next) : next.slots = state.slots := by
  cases hstep with
  | stay => rfl
  | @take holder slot rest hfree hheld =>
      have hsum := sum_update_held state.held holder (some slot)
      rw [hheld] at hsum
      simp only [slotsOf_some, slotsOf_none, add_zero] at hsum
      simp only [State.slots, hfree, hsum, ← Multiset.cons_coe, ← Multiset.singleton_add]
      abel
  | @submit holder slot hheld =>
      have hsum := sum_update_held state.held holder none
      rw [hheld] at hsum
      simp only [slotsOf_some, slotsOf_none, add_zero] at hsum
      simp only [State.slots, ← Multiset.coe_add, Multiset.coe_singleton, ← hsum]
      abel
  | @serve slot rest hqueued hserving =>
      simp only [State.slots, hqueued, hserving, slotsOf_some, slotsOf_none, ← Multiset.cons_coe,
        ← Multiset.singleton_add]
      abel
  | @release slot hserving =>
      simp only [State.slots, hserving, slotsOf_some, slotsOf_none, ← Multiset.coe_add,
        Multiset.coe_singleton]
      abel

/-! ### No slot is in two places -/

variable {state : State Holder Slot} {holder other : Holder} {slot : Slot}

theorem le_sum_held (hheld : state.held holder = some slot) :
    {slot} ≤ ∑ holder, slotsOf (state.held holder) := by
  have hle := Finset.single_le_sum (f := fun holder => slotsOf (state.held holder))
    (fun _ _ => Multiset.zero_le _) (Finset.mem_univ holder)
  simpa [hheld] using hle

theorem not_nodup_of_twice (slot : Slot) {slots : Multiset Slot} (htwice : {slot} + {slot} ≤ slots) :
    ¬ slots.Nodup := by
  intro hnodup
  have hpair := Multiset.nodup_add.mp (Multiset.nodup_of_le htwice hnodup)
  exact Multiset.disjoint_left.mp hpair.2.2 (Multiset.mem_singleton_self slot)
    (Multiset.mem_singleton_self slot)

theorem State.held_notMem_queued (hnodup : state.slots.Nodup)
    (hheld : state.held holder = some slot) : slot ∉ state.queued := by
  intro hmem
  have hqueued : {slot} ≤ (state.queued : Multiset Slot) :=
    Multiset.singleton_le.mpr (Multiset.mem_coe.mpr hmem)
  refine not_nodup_of_twice slot ?_ hnodup
  calc {slot} + {slot} ≤ (state.queued : Multiset Slot) + ∑ holder, slotsOf (state.held holder) :=
        add_le_add hqueued (le_sum_held hheld)
    _ ≤ state.free + (state.queued + ∑ holder, slotsOf (state.held holder)) :=
        Multiset.le_add_left _ _
    _ ≤ state.free + (state.queued + ∑ holder, slotsOf (state.held holder))
          + slotsOf state.serving := Multiset.le_add_right _ _
    _ = state.slots := by
        rw [State.slots]
        abel

theorem State.held_ne_serving (hnodup : state.slots.Nodup)
    (hheld : state.held holder = some slot) : state.serving ≠ some slot := by
  intro hserving
  refine not_nodup_of_twice slot ?_ hnodup
  calc {slot} + {slot} ≤ (∑ holder, slotsOf (state.held holder)) + slotsOf state.serving :=
        add_le_add (le_sum_held hheld) (by simp [hserving])
    _ ≤ (state.free + state.queued : Multiset Slot)
          + ((∑ holder, slotsOf (state.held holder)) + slotsOf state.serving) :=
        Multiset.le_add_left _ _
    _ = state.slots := by
        rw [State.slots]
        abel

theorem State.held_ne_held [DecidableEq Holder] (hnodup : state.slots.Nodup) (hne : holder ≠ other)
    (hheld : state.held holder = some slot) : state.held other ≠ some slot := by
  intro hother
  refine not_nodup_of_twice slot ?_ hnodup
  have hpair : {slot} + {slot} ≤ ∑ holder, slotsOf (state.held holder) := by
    have hsub := Finset.sum_le_sum_of_subset (f := fun holder => slotsOf (state.held holder))
      (Finset.subset_univ {holder, other})
    rwa [Finset.sum_pair hne, hheld, hother] at hsub
  calc {slot} + {slot} ≤ ∑ holder, slotsOf (state.held holder) := hpair
    _ ≤ (∑ holder, slotsOf (state.held holder)) + (state.free + state.queued
          + slotsOf state.serving) := Multiset.le_add_right _ _
    _ = state.slots := by
        rw [State.slots]
        abel

end Slots

end SlotPool
