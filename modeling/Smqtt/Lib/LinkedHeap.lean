import Mathlib

/-!
# A heap of linked nodes

Nodes sit at addresses and point to their neighbours. A `Segment` says which nodes a chain visits,
what they carry, and where the chain is entered and left; it comes in two strengths, according to
whether the back pointers are vouched for or only the forward ones. The lemmas say how a segment
splits, and what one store does to it.
-/

namespace LinkedHeap

structure Node (α : Type) where
  payload : α
  previous : Option Nat
  next : Option Nat

/-- A freed address, like one never allocated, holds nothing. -/
abbrev Heap (α : Type) := List (Option (Node α))

variable {α : Type}

namespace Heap

def lookup (heap : Heap α) (address : Nat) : Option (Node α) := heap[address]?.join

def store (heap : Heap α) (address : Nat) (node : Option (Node α)) : Heap α :=
  (heap ++ List.replicate (address + 1 - heap.length) none).set address node

/-- The first address that holds nothing; a freed one is used again. -/
def fresh (heap : Heap α) : Nat := heap.findIdx Option.isNone

theorem lookup_store (heap : Heap α) (address other : Nat) (node : Option (Node α)) :
    (heap.store address node).lookup other = if address = other then node else heap.lookup other := by
  unfold lookup store
  rw [List.getElem?_set]
  split
  · rename_i heq
    subst heq
    rw [if_pos (by simp; omega)]
    rfl
  · rename_i hne
    rw [List.getElem?_append]
    split
    · rfl
    · rename_i hle
      rw [List.getElem?_eq_none (Nat.not_lt.mp hle), List.getElem?_replicate]
      split <;> rfl

@[simp]
theorem lookup_store_self (heap : Heap α) (address : Nat) (node : Option (Node α)) :
    (heap.store address node).lookup address = node := by
  rw [lookup_store, if_pos rfl]

theorem lookup_store_of_ne {heap : Heap α} {address other : Nat} {node : Option (Node α)}
    (hne : address ≠ other) : (heap.store address node).lookup other = heap.lookup other := by
  rw [lookup_store, if_neg hne]

theorem lookup_fresh (heap : Heap α) : heap.lookup heap.fresh = none := by
  unfold lookup fresh
  by_cases hlt : heap.findIdx Option.isNone < heap.length
  · have hfound := List.findIdx_getElem (w := hlt)
    rw [List.getElem?_eq_getElem hlt, Option.isNone_iff_eq_none.mp hfound]
    rfl
  · rw [List.getElem?_eq_none (Nat.not_lt.mp hlt)]
    rfl

theorem lt_length_of_lookup {heap : Heap α} {address : Nat} {node : Node α}
    (hlookup : heap.lookup address = some node) : address < heap.length := by
  by_contra hle
  rw [lookup, List.getElem?_eq_none (Nat.not_lt.mp hle)] at hlookup
  simp at hlookup

/-- Follow the forward pointers, at most `fuel` of them. -/
def walk (heap : Heap α) : Nat → Option Nat → List α
  | 0, _ => []
  | _ + 1, none => []
  | fuel + 1, some address =>
      match heap.lookup address with
      | none => []
      | some node => node.payload :: walk heap fuel node.next

end Heap

/-- The address at which a chain of cells is entered. -/
def firstAddress (cells : List (Nat × α)) : Option Nat := cells.head?.map Prod.fst

def lastAddress (cells : List (Nat × α)) : Option Nat := cells.getLast?.map Prod.fst

@[simp]
theorem firstAddress_nil : firstAddress ([] : List (Nat × α)) = none := rfl

@[simp]
theorem firstAddress_cons (cell : Nat × α) (cells : List (Nat × α)) :
    firstAddress (cell :: cells) = some cell.1 := rfl

@[simp]
theorem lastAddress_nil : lastAddress ([] : List (Nat × α)) = none := rfl

@[simp]
theorem lastAddress_concat (cells : List (Nat × α)) (cell : Nat × α) :
    lastAddress (cells ++ [cell]) = some cell.1 := by
  simp [lastAddress]

theorem firstAddress_append (left right : List (Nat × α)) :
    firstAddress (left ++ right) = (firstAddress left).or (firstAddress right) := by
  cases left <;> simp [firstAddress]

theorem lastAddress_append (left right : List (Nat × α)) :
    lastAddress (left ++ right) = (lastAddress right).or (lastAddress left) := by
  rw [lastAddress, List.getLast?_append, Option.map_or]
  rfl

theorem eq_cons_of_firstAddress {cells : List (Nat × α)} {address : Nat}
    (hfirst : firstAddress cells = some address) :
    ∃ payload rest, cells = (address, payload) :: rest := by
  cases cells with
  | nil => simp at hfirst
  | cons cell rest =>
      obtain rfl := Option.some.inj hfirst
      exact ⟨cell.2, rest, rfl⟩

theorem eq_concat_of_lastAddress {cells : List (Nat × α)} {address : Nat}
    (hlast : lastAddress cells = some address) :
    ∃ init payload, cells = init ++ [(address, payload)] := by
  obtain rfl | ⟨init, cell, rfl⟩ := List.eq_nil_or_concat' cells
  · simp at hlast
  · rw [lastAddress_concat] at hlast
    obtain rfl := Option.some.inj hlast
    exact ⟨init, cell.2, rfl⟩

theorem exists_split_of_mem {cells : List (Nat × α)} {address : Nat}
    (hmem : address ∈ cells.map Prod.fst) :
    ∃ left payload right, cells = left ++ (address, payload) :: right := by
  obtain ⟨⟨_, payload⟩, hcell, rfl⟩ := List.mem_map.mp hmem
  obtain ⟨left, right, hsplit⟩ := List.append_of_mem hcell
  exact ⟨left, payload, right, hsplit⟩

/-- The chain that visits `cells` in order, entered from `before` and leaving to `after`. With
`doubly` the back pointers are right as well. -/
def Segment (doubly : Bool) (heap : Heap α) :
    Option Nat → Option Nat → List (Nat × α) → Prop
  | _, _, [] => True
  | before, after, (address, payload) :: cells =>
      (∃ node, heap.lookup address = some node ∧ node.payload = payload ∧
        node.next = (firstAddress cells).or after ∧ (doubly = true → node.previous = before)) ∧
      Segment doubly heap (some address) after cells

section Segment

variable {doubly : Bool} {heap : Heap α} {before after : Option Nat} {cells left right : List (Nat × α)}
  {address : Nat} {payload : α}

theorem segment_nil : Segment doubly heap before after ([] : List (Nat × α)) := trivial

theorem segment_append :
    Segment doubly heap before after (left ++ right) ↔
      Segment doubly heap before ((firstAddress right).or after) left ∧
      Segment doubly heap ((lastAddress left).or before) after right := by
  induction left generalizing before with
  | nil => simp [Segment]
  | cons cell left ih =>
      obtain ⟨address, payload⟩ := cell
      have hlast : (lastAddress ((address, payload) :: left)).or before
          = (lastAddress left).or (some address) := by
        rw [show (address, payload) :: left = [(address, payload)] ++ left from rfl,
          lastAddress_append]
        cases lastAddress left <;> simp [lastAddress]
      simp only [List.cons_append, Segment, ih, firstAddress_append, hlast, Option.or_assoc, and_assoc]

theorem segment_singleton :
    Segment doubly heap before after [(address, payload)] ↔
      ∃ node, heap.lookup address = some node ∧ node.payload = payload ∧ node.next = after ∧
        (doubly = true → node.previous = before) := by
  simp [Segment]

/-- A store elsewhere leaves the chain alone. -/
theorem Segment.store_of_notMem {target : Nat} {node : Option (Node α)}
    (hsegment : Segment doubly heap before after cells) (hnotMem : target ∉ cells.map Prod.fst) :
    Segment doubly (heap.store target node) before after cells := by
  induction cells generalizing before with
  | nil => trivial
  | cons cell cells ih =>
      obtain ⟨address, payload⟩ := cell
      obtain ⟨⟨held, hlookup, hrest⟩, htail⟩ := hsegment
      simp only [List.map_cons, List.mem_cons, not_or] at hnotMem
      refine ⟨⟨held, ?_, hrest⟩, ih htail hnotMem.2⟩
      rwa [Heap.lookup_store_of_ne hnotMem.1]

theorem Segment.store_last {node : Node α} {target : Nat} (other : Option Nat)
    (hsegment : Segment doubly heap before after (cells ++ [(target, payload)]))
    (hnotMem : target ∉ cells.map Prod.fst) (hlookup : heap.lookup target = some node) :
    Segment doubly (heap.store target (some { node with next := other })) before other
      (cells ++ [(target, payload)]) := by
  obtain ⟨hcells, hlast⟩ := segment_append.mp hsegment
  obtain ⟨held, hheld, hpayload, -, hprevious⟩ := segment_singleton.mp hlast
  obtain rfl : node = held := Option.some.inj (hlookup.symm.trans hheld)
  refine segment_append.mpr ⟨hcells.store_of_notMem hnotMem, segment_singleton.mpr ?_⟩
  exact ⟨_, Heap.lookup_store_self _ _ _, hpayload, rfl, hprevious⟩

theorem Segment.store_first {node : Node α} {target : Nat} (other : Option Nat)
    (hsegment : Segment doubly heap before after ((target, payload) :: cells))
    (hnotMem : target ∉ cells.map Prod.fst) (hlookup : heap.lookup target = some node) :
    Segment doubly (heap.store target (some { node with previous := other })) other after
      ((target, payload) :: cells) := by
  obtain ⟨⟨held, hheld, hpayload, hnext, -⟩, hcells⟩ := hsegment
  obtain rfl : node = held := Option.some.inj (hlookup.symm.trans hheld)
  exact ⟨⟨_, Heap.lookup_store_self _ _ _, hpayload, hnext, fun _ => rfl⟩,
    hcells.store_of_notMem hnotMem⟩

/-- Only the forward pointers are claimed of a chain of the weaker kind, so it may be entered from
anywhere. -/
theorem Segment.of_before (hsegment : Segment false heap before after cells) (other : Option Nat) :
    Segment false heap other after cells := by
  cases cells with
  | nil => trivial
  | cons cell cells =>
      obtain ⟨⟨node, hlookup, hpayload, hnext, -⟩, htail⟩ := hsegment
      exact ⟨⟨node, hlookup, hpayload, hnext, by simp⟩, htail⟩

theorem Segment.lookup_of_mem (hsegment : Segment doubly heap before after cells)
    (hmem : address ∈ cells.map Prod.fst) : ∃ node, heap.lookup address = some node := by
  induction cells generalizing before with
  | nil => simp at hmem
  | cons cell cells ih =>
      obtain ⟨⟨node, hlookup, -⟩, htail⟩ := hsegment
      simp only [List.map_cons, List.mem_cons] at hmem
      obtain rfl | hmem := hmem
      · exact ⟨node, hlookup⟩
      · exact ih htail hmem

/-- A chain without repetitions is no longer than the heap. -/
theorem Segment.length_le (hsegment : Segment doubly heap before after cells)
    (hnodup : (cells.map Prod.fst).Nodup) : cells.length ≤ heap.length := by
  have hsubset : cells.map Prod.fst ⊆ List.range heap.length := by
    intro address hmem
    obtain ⟨node, hlookup⟩ := hsegment.lookup_of_mem hmem
    exact List.mem_range.mpr (Heap.lt_length_of_lookup hlookup)
  simpa using (hnodup.subperm hsubset).length_le

theorem Segment.walk_eq (hsegment : Segment doubly heap before none cells) {fuel : Nat}
    (hfuel : cells.length ≤ fuel) : heap.walk fuel (firstAddress cells) = cells.map Prod.snd := by
  induction cells generalizing before fuel with
  | nil => cases fuel <;> rfl
  | cons cell cells ih =>
      obtain ⟨address, payload⟩ := cell
      obtain ⟨⟨node, hlookup, hpayload, hnext, -⟩, htail⟩ := hsegment
      obtain ⟨fuel, rfl⟩ : ∃ fuel', fuel = fuel' + 1 := ⟨fuel - 1, by
        rw [List.length_cons] at hfuel
        omega⟩
      rw [Option.or_none] at hnext
      simp only [firstAddress_cons, Heap.walk, hlookup, hpayload, List.map_cons, hnext]
      rw [ih htail (by simpa using hfuel)]

end Segment

end LinkedHeap
