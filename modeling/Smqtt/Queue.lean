import Smqtt.Lib.LinkedHeap

/-!
# The queues of `connection.c`

`queue_t` is a pair of pointers into a heap of doubly linked entries. The operations below follow
the pointer code; `none` stands for a dereference of a freed or null pointer. `dequeue` frees the
entry it takes and leaves the next entry's back pointer dangling, so a queue that is only ever
dequeued keeps its forward links and a queue that is only ever searched keeps both. The two kinds
are the two subtypes at the end, on which the operations are total.
-/

namespace Smqtt

open LinkedHeap

/-- `queue_t` together with the entries it reaches. -/
structure Queue (α : Type) where
  heap : Heap α
  head : Option Nat
  tail : Option Nat

variable {α : Type}

def initQueue : Queue α := ⟨[], none, none⟩

/-- No payload comes with the `false` of an empty queue. -/
def dequeue (queue : Queue α) : Option (Option α × Queue α) :=
  match queue.head with
  | none => some (none, queue)
  | some first => do
      let entry ← queue.heap.lookup first
      let heap := queue.heap.store first none
      if queue.tail = queue.head then
        some (some entry.payload, ⟨heap, none, none⟩)
      else
        some (some entry.payload, ⟨heap, entry.next, queue.tail⟩)

/-- The first `if` of `remove_from_queue`: the predecessor, or the head, points past the entry. -/
def Queue.skipForward (queue : Queue α) (entry : Node α) : Option (Queue α) :=
  match entry.previous with
  | none => some { queue with head := entry.next }
  | some previous => do
      let neighbour ← queue.heap.lookup previous
      some { queue with
        heap := queue.heap.store previous (some { neighbour with next := entry.next }) }

/-- The second `if`: the successor, or the tail, points back past the entry. -/
def Queue.skipBack (queue : Queue α) (entry : Node α) : Option (Queue α) :=
  match entry.next with
  | none => some { queue with tail := entry.previous }
  | some next => do
      let neighbour ← queue.heap.lookup next
      some { queue with
        heap := queue.heap.store next (some { neighbour with previous := entry.previous }) }

def removeFromQueue (queue : Queue α) (entry : Nat) : Option (Queue α) := do
  let node ← queue.heap.lookup entry
  let queue ← queue.skipForward node
  let node ← queue.heap.lookup entry
  queue.skipBack node

/-- `enqueue`, whichever unused address `malloc` returns. -/
def enqueueAt (queue : Queue α) (entry : Nat) (payload : α) : Option (Queue α) :=
  match queue.head with
  | none => some ⟨queue.heap.store entry (some ⟨payload, none, none⟩), some entry, some entry⟩
  | some first => do
      let heap := queue.heap.store entry (some ⟨payload, queue.tail, none⟩)
      let tail ← queue.tail
      let last ← heap.lookup tail
      some ⟨heap.store tail (some { last with next := some entry }), some first, some entry⟩

/-- With the first address that is unused. -/
def enqueue (queue : Queue α) (payload : α) : Option (Queue α) :=
  enqueueAt queue queue.heap.fresh payload

/-- What the loop body of a search makes of one entry: unlink and return it, return `true` without
it, go on to the next, or read memory that was never written. -/
inductive Verdict where
  | take
  | stop
  | skip
  | unknown
  deriving DecidableEq

/-- How a search ends: with an entry, with a `true` that comes with no entry, or with `false`. -/
inductive Search (α : Type) where
  | found (payload : α)
  | unassigned
  | notFound
  deriving DecidableEq

/-- The `while` loop of a search, at most `fuel` entries long. -/
def searchLoop (inspect : α → Verdict) (queue : Queue α) :
    Nat → Option Nat → Option (Search α × Queue α)
  | 0, _ => none
  | _ + 1, none => some (.notFound, queue)
  | fuel + 1, some entry => do
      let node ← queue.heap.lookup entry
      match inspect node.payload with
      | .take => do
          let queue ← removeFromQueue queue entry
          some (.found node.payload, queue)
      | .stop => some (.unassigned, queue)
      | .skip => searchLoop inspect queue fuel node.next
      | .unknown => none

def searchQueue (inspect : α → Verdict) (queue : Queue α) : Option (Search α × Queue α) :=
  searchLoop inspect queue (queue.heap.length + 1) queue.head

/-- The search on the list of payloads. -/
def searchList (inspect : α → Verdict) : List α → Option (Search α × List α)
  | [] => some (.notFound, [])
  | payload :: rest =>
      match inspect payload with
      | .take => some (.found payload, rest)
      | .stop => some (.unassigned, payload :: rest)
      | .skip => (searchList inspect rest).map fun (result, left) => (result, payload :: left)
      | .unknown => none

/-- A search that passes no judgement but `take` and `skip` finds the first entry it would take. -/
theorem searchList_cases {inspect : α → Verdict} {entries : List α}
    (hdecided : ∀ payload ∈ entries, inspect payload = .take ∨ inspect payload = .skip) :
    (searchList inspect entries = some (.notFound, entries) ∧
        ∀ payload ∈ entries, inspect payload = .skip) ∨
      ∃ left payload right, entries = left ++ payload :: right ∧
        (∀ other ∈ left, inspect other = .skip) ∧ inspect payload = .take ∧
        searchList inspect entries = some (.found payload, left ++ right) := by
  induction entries with
  | nil => exact .inl ⟨rfl, by simp⟩
  | cons payload entries ih =>
      obtain ⟨hpayload, hentries⟩ := List.forall_mem_cons.mp hdecided
      obtain htake | hskip := hpayload
      · exact .inr ⟨[], payload, entries, rfl, by simp, htake, by simp [searchList, htake]⟩
      · obtain ⟨hsearch, hall⟩ | ⟨left, found, right, rfl, hleft, hfound, hsearch⟩ := ih hentries
        · refine .inl ⟨by simp [searchList, hskip, hsearch], ?_⟩
          exact List.forall_mem_cons.mpr ⟨hskip, hall⟩
        · refine .inr ⟨payload :: left, found, right, rfl, ?_, hfound, ?_⟩
          · exact List.forall_mem_cons.mpr ⟨hskip, hleft⟩
          · simp [searchList, hskip, hsearch]

/-- A search ends at the first entry it does not pass over. -/
theorem searchList_find (inspect : α → Verdict) (entries : List α) :
    (searchList inspect entries).map Prod.fst
      = match entries.find? (fun payload => inspect payload ≠ .skip) with
        | none => some .notFound
        | some payload =>
            match inspect payload with
            | .take => some (.found payload)
            | .stop => some .unassigned
            | _ => none := by
  induction entries with
  | nil => rfl
  | cons payload entries ih =>
      cases hverdict : inspect payload with
      | skip =>
          rw [List.find?_cons_of_neg (by simp [hverdict]), ← ih]
          simp [searchList, hverdict, Function.comp_def]
      | _ => simp [searchList, hverdict]

theorem searchList_subset {inspect : α → Verdict} {entries rest : List α} {result : Search α}
    (hsearch : searchList inspect entries = some (result, rest)) : rest ⊆ entries := by
  induction entries generalizing rest with
  | nil =>
      obtain ⟨-, rfl⟩ : _ ∧ [] = rest := by simpa [searchList] using hsearch
      exact List.Subset.refl []
  | cons payload entries ih =>
      cases hverdict : inspect payload with
      | take =>
          obtain ⟨-, rfl⟩ : _ ∧ entries = rest := by simpa [searchList, hverdict] using hsearch
          exact List.subset_cons_self payload entries
      | stop =>
          obtain ⟨-, rfl⟩ : _ ∧ payload :: entries = rest := by
            simpa [searchList, hverdict] using hsearch
          exact List.Subset.refl _
      | unknown => simp [searchList, hverdict] at hsearch
      | skip =>
          simp only [searchList, hverdict, Option.map_eq_some_iff] at hsearch
          obtain ⟨⟨result', left⟩, hleft, hpair⟩ := hsearch
          obtain ⟨rfl, rfl⟩ := Prod.mk.inj hpair
          exact List.cons_subset_cons payload (ih hleft)

/-- The payloads from head to tail. -/
def Queue.toList (queue : Queue α) : List α := queue.heap.walk queue.heap.length queue.head

/-- The queue visits exactly `cells`; with `doubly` its back pointers are right too. -/
structure Queue.Represents (doubly : Bool) (queue : Queue α) (cells : List (Nat × α)) : Prop where
  head : queue.head = firstAddress cells
  tail : queue.tail = lastAddress cells
  nodup : (cells.map Prod.fst).Nodup
  segment : Segment doubly queue.heap none none cells

section Represents

variable {doubly : Bool} {queue : Queue α} {cells left right : List (Nat × α)} {payload : α}
  {address : Nat} {node : Node α}

theorem Queue.Represents.toList_eq (hqueue : queue.Represents doubly cells) :
    queue.toList = cells.map Prod.snd := by
  rw [Queue.toList, hqueue.head]
  exact hqueue.segment.walk_eq (hqueue.segment.length_le hqueue.nodup)

theorem represents_initQueue : (initQueue : Queue α).Represents doubly [] :=
  ⟨rfl, rfl, List.nodup_nil, segment_nil⟩

/-- What is in use is not handed out again. -/
theorem Queue.Represents.notMem_of_lookup {entry : Nat} (hqueue : queue.Represents doubly cells)
    (hunused : queue.heap.lookup entry = none) : entry ∉ cells.map Prod.fst := by
  intro hmem
  obtain ⟨node, hlookup⟩ := hqueue.segment.lookup_of_mem hmem
  rw [hunused] at hlookup
  simp at hlookup

theorem enqueueAt_represents {entry : Nat} (hqueue : queue.Represents doubly cells)
    (hunused : queue.heap.lookup entry = none) (payload : α) :
    ∃ next, enqueueAt queue entry payload = some next ∧
      next.Represents doubly (cells ++ [(entry, payload)]) := by
  have hnotMem := hqueue.notMem_of_lookup hunused
  have hnodup : ((cells ++ [(entry, payload)]).map Prod.fst).Nodup := by
    rw [List.map_append, List.nodup_append]
    refine ⟨hqueue.nodup, by simp, ?_⟩
    intro address hmem other hother
    obtain rfl : other = entry := by simpa using hother
    exact fun heq => hnotMem (heq ▸ hmem)
  obtain rfl | ⟨init, ⟨last, carried⟩, rfl⟩ := List.eq_nil_or_concat' cells
  · have hhead : queue.head = none := hqueue.head
    refine ⟨⟨queue.heap.store entry (some ⟨payload, none, none⟩), some entry, some entry⟩,
      by simp only [enqueueAt, hhead], rfl, rfl, hnodup, segment_singleton.mpr ?_⟩
    exact ⟨⟨payload, none, none⟩, Heap.lookup_store_self _ _ _, rfl, rfl, fun _ => rfl⟩
  · have htail : queue.tail = some last := by rw [hqueue.tail, lastAddress_concat]
    obtain ⟨first, hhead⟩ : ∃ first, queue.head = some first := by
      rw [hqueue.head]
      cases init <;> exact ⟨_, rfl⟩
    have hne : entry ≠ last := by
      intro heq
      exact hnotMem (by simp [heq])
    obtain ⟨node, hlookup⟩ := hqueue.segment.lookup_of_mem
      (show last ∈ (init ++ [(last, carried)]).map Prod.fst by simp)
    have hlast : (queue.heap.store entry (some ⟨payload, some last, none⟩)).lookup last
        = some node := by
      rwa [Heap.lookup_store_of_ne hne]
    have hlastNotMem : last ∉ init.map Prod.fst := by
      have hinit := hqueue.nodup
      rw [List.map_append, List.nodup_append] at hinit
      exact fun hmem => hinit.2.2 last hmem last (by simp) rfl
    refine ⟨⟨(queue.heap.store entry (some ⟨payload, some last, none⟩)).store last
        (some { node with next := some entry }), some first, some entry⟩,
      by simp [enqueueAt, hhead, htail, hlast], ?_, ?_, hnodup,
      segment_append.mpr ⟨?_, segment_singleton.mpr ⟨⟨payload, some last, none⟩, ?_, rfl, rfl, ?_⟩⟩⟩
    · rw [← hhead, hqueue.head]
      cases init <;> rfl
    · rw [lastAddress_concat]
    · exact (hqueue.segment.store_of_notMem hnotMem).store_last _ hlastNotMem hlast
    · rw [Heap.lookup_store_of_ne hne.symm, Heap.lookup_store_self]
    · rw [lastAddress_concat]
      exact fun _ => rfl

theorem enqueue_represents (hqueue : queue.Represents doubly cells) (payload : α) :
    ∃ next, enqueue queue payload = some next ∧
      next.Represents doubly (cells ++ [(queue.heap.fresh, payload)]) :=
  enqueueAt_represents hqueue (Heap.lookup_fresh queue.heap) payload

theorem dequeue_represents_nil (hqueue : queue.Represents doubly []) :
    dequeue queue = some (none, queue) := by
  have hhead : queue.head = none := hqueue.head
  simp only [dequeue, hhead]

/-- Taking the first entry keeps the forward links only. -/
theorem dequeue_represents_cons (hqueue : queue.Represents false ((address, payload) :: cells)) :
    ∃ next, dequeue queue = some (some payload, next) ∧ next.Represents false cells := by
  have hhead : queue.head = some address := hqueue.head
  obtain ⟨⟨node, hlookup, hpayload, hnext, -⟩, hcells⟩ := hqueue.segment
  obtain ⟨hnotMem, hnodup⟩ := List.nodup_cons.mp hqueue.nodup
  rw [Option.or_none] at hnext
  have hfreed : Segment false (queue.heap.store address none) none none cells :=
    (hcells.of_before none).store_of_notMem hnotMem
  obtain rfl | ⟨init, last, rfl⟩ := List.eq_nil_or_concat' cells
  · have htail : queue.tail = some address := hqueue.tail
    exact ⟨⟨queue.heap.store address none, none, none⟩,
      by simp [dequeue, hhead, htail, hlookup, hpayload], rfl, rfl, hnodup, hfreed⟩
  · have htail : queue.tail = some last.1 := by
      rw [hqueue.tail, ← List.cons_append, lastAddress_concat]
    have hne : last.1 ≠ address := by
      intro heq
      exact hnotMem (by simp [heq])
    exact ⟨⟨queue.heap.store address none, node.next, queue.tail⟩,
      by simp [dequeue, hhead, htail, hlookup, hpayload, hne],
      hnext, by rw [htail, lastAddress_concat], hnodup, hfreed⟩

/-! ### Unlinking an entry

The two halves of `remove_from_queue` each mend one direction. Between them the cells left of the
entry lead past it while those right of it still point back to it. -/

theorem Queue.skipForward_segments
    (hhead : queue.head = firstAddress (left ++ (address, payload) :: right))
    (hnext : node.next = firstAddress right) (hprevious : node.previous = lastAddress left)
    (hlookup : queue.heap.lookup address = some node)
    (hnodup : ((left ++ (address, payload) :: right).map Prod.fst).Nodup)
    (hleft : Segment true queue.heap none (some address) left)
    (hright : Segment true queue.heap (some address) none right) :
    ∃ next, queue.skipForward node = some next ∧ next.head = firstAddress (left ++ right) ∧
      next.tail = queue.tail ∧ next.heap.lookup address = some node ∧
      Segment true next.heap none (firstAddress right) left ∧
      Segment true next.heap (some address) none right := by
  obtain rfl | ⟨init, ⟨last, carried⟩, rfl⟩ := List.eq_nil_or_concat' left
  · have hnone : node.previous = none := hprevious
    exact ⟨{ queue with head := node.next }, by simp only [skipForward, hnone], hnext, rfl, hlookup,
      segment_nil, hright⟩
  · have hsome : node.previous = some last := by rw [hprevious, lastAddress_concat]
    obtain ⟨neighbour, hneighbour⟩ := hleft.lookup_of_mem
      (show last ∈ (init ++ [(last, carried)]).map Prod.fst by simp)
    rw [List.map_append, List.map_append, List.map_cons, List.nodup_append, List.nodup_append] at hnodup
    obtain ⟨⟨-, -, hinit⟩, -, hacross⟩ := hnodup
    have hlastInit : last ∉ init.map Prod.fst := fun hmem => hinit last hmem last (by simp) rfl
    have hlastAddress : last ≠ address := hacross last (by simp) address (by simp)
    have hlastRight : last ∉ right.map Prod.fst :=
      fun hmem => hacross last (by simp) last (List.mem_cons_of_mem _ hmem) rfl
    refine ⟨{ queue with
        heap := queue.heap.store last (some { neighbour with next := node.next }) },
      by simp [skipForward, hsome, hneighbour], ?_, rfl, ?_, ?_, ?_⟩
    · rw [hhead]
      cases init <;> rfl
    · rwa [Heap.lookup_store_of_ne hlastAddress]
    · rw [hnext]
      exact hleft.store_last _ hlastInit hneighbour
    · exact hright.store_of_notMem hlastRight

theorem Queue.skipBack_segments
    (htail : queue.tail = lastAddress (left ++ (address, payload) :: right))
    (hnext : node.next = firstAddress right) (hprevious : node.previous = lastAddress left)
    (hnodup : ((left ++ (address, payload) :: right).map Prod.fst).Nodup)
    (hleft : Segment true queue.heap none (firstAddress right) left)
    (hright : Segment true queue.heap (some address) none right) :
    ∃ next, queue.skipBack node = some next ∧ next.head = queue.head ∧
      next.tail = lastAddress (left ++ right) ∧
      Segment true next.heap none (firstAddress right) left ∧
      Segment true next.heap (lastAddress left) none right := by
  cases right with
  | nil =>
      have hnone : node.next = none := hnext
      exact ⟨{ queue with tail := node.previous }, by simp only [skipBack, hnone], rfl,
        by rw [List.append_nil]; exact hprevious, hleft, segment_nil⟩
  | cons cell right =>
      obtain ⟨first, carried⟩ := cell
      have hsome : node.next = some first := hnext
      obtain ⟨neighbour, hneighbour⟩ := hright.lookup_of_mem
        (show first ∈ ((first, carried) :: right).map Prod.fst by simp)
      rw [List.map_append, List.map_cons, List.map_cons, List.nodup_append, List.nodup_cons,
        List.nodup_cons] at hnodup
      obtain ⟨-, ⟨-, hfirstRight, -⟩, hacross⟩ := hnodup
      have hfirstLeft : first ∉ left.map Prod.fst :=
        fun hmem => hacross first hmem first (by simp) rfl
      refine ⟨{ queue with
          heap := queue.heap.store first (some { neighbour with previous := node.previous }) },
        by simp [skipBack, hsome, hneighbour], rfl, ?_, hleft.store_of_notMem hfirstLeft, ?_⟩
      · rw [htail, lastAddress_append, lastAddress_append]
        simp [lastAddress]
      · rw [hprevious]
        exact hright.store_first _ hfirstRight hneighbour

/-- Unlinking an entry anywhere in a doubly linked queue. -/
theorem removeFromQueue_represents
    (hqueue : queue.Represents true (left ++ (address, payload) :: right)) :
    ∃ next, removeFromQueue queue address = some next ∧ next.Represents true (left ++ right) := by
  obtain ⟨hleft, ⟨node, hlookup, -, hnext, hprevious⟩, hright⟩ := segment_append.mp hqueue.segment
  rw [Option.or_none] at hnext
  replace hprevious : node.previous = lastAddress left := by simpa using hprevious rfl
  obtain ⟨middle, hforward, hhead, htail, hlookup', hleft', hright'⟩ :=
    queue.skipForward_segments hqueue.head hnext hprevious hlookup hqueue.nodup hleft hright
  obtain ⟨final, hback, hhead', htail', hleft'', hright''⟩ :=
    middle.skipBack_segments (htail.trans hqueue.tail) hnext hprevious hqueue.nodup hleft' hright'
  refine ⟨final, by simp [removeFromQueue, hlookup, hforward, hlookup', hback],
    hhead'.trans hhead, htail', ?_, segment_append.mpr ⟨?_, ?_⟩⟩
  · exact hqueue.nodup.sublist (List.Sublist.map _ (by simp))
  · rwa [Option.or_none]
  · rwa [Option.or_none]

/-- What the loop does at one entry. -/
theorem searchLoop_cell (inspect : α → Verdict) {left right : List (Nat × α)}
    (hqueue : queue.Represents true (left ++ (address, payload) :: right)) (fuel : Nat) :
    searchLoop inspect queue (fuel + 1) (some address) = match inspect payload with
      | .take => (removeFromQueue queue address).bind fun next => some (.found payload, next)
      | .stop => some (.unassigned, queue)
      | .skip => searchLoop inspect queue fuel (firstAddress right)
      | .unknown => none := by
  obtain ⟨-, ⟨node, hlookup, hpayload, hnext, -⟩, -⟩ := segment_append.mp hqueue.segment
  rw [Option.or_none] at hnext
  simp [searchLoop, hlookup, hpayload, hnext]

/-- The loop, entered behind `left`, does what the search of the remaining payloads does. -/
theorem searchLoop_represents (inspect : α → Verdict)
    (hqueue : queue.Represents true (left ++ right)) {fuel : Nat} (hfuel : right.length < fuel) :
    match searchList inspect (right.map Prod.snd) with
    | none => searchLoop inspect queue fuel (firstAddress right) = none
    | some (result, rest) => ∃ next cells,
        searchLoop inspect queue fuel (firstAddress right) = some (result, next) ∧
        next.Represents true (left ++ cells) ∧ cells.map Prod.snd = rest := by
  induction right generalizing left fuel with
  | nil =>
      obtain ⟨fuel, rfl⟩ : ∃ fuel', fuel = fuel' + 1 := ⟨fuel - 1, by omega⟩
      exact ⟨queue, [], rfl, hqueue, rfl⟩
  | cons cell right ih =>
      obtain ⟨address, payload⟩ := cell
      obtain ⟨fuel, rfl⟩ : ∃ fuel', fuel = fuel' + 1 := ⟨fuel - 1, by omega⟩
      simp only [List.map_cons, searchList, firstAddress_cons, searchLoop_cell inspect hqueue fuel]
      cases hverdict : inspect payload with
      | take =>
          obtain ⟨next, hremove, hrepresents⟩ := removeFromQueue_represents hqueue
          exact ⟨next, right, by simp [hremove], hrepresents, rfl⟩
      | stop => exact ⟨queue, (address, payload) :: right, rfl, hqueue, rfl⟩
      | unknown => rfl
      | skip =>
          have hqueue' : queue.Represents true ((left ++ [(address, payload)]) ++ right) := by
            simpa using hqueue
          have hfuel' : right.length < fuel := by simpa using hfuel
          have hrest := ih hqueue' hfuel'
          revert hrest
          cases searchList inspect (right.map Prod.snd) with
          | none => exact id
          | some answer =>
              rintro ⟨next, cells, heq, hrepresents, hvalues⟩
              exact ⟨next, (address, payload) :: cells, heq, by simpa using hrepresents,
                by simp [hvalues]⟩

end Represents

/-! ### Queues that keep their shape -/

/-- A well-formed queue: the forward links are right, and with `doubly` the back links as well. -/
abbrev LinkedQueue (doubly : Bool) (α : Type) :=
  { queue : Queue α // ∃ cells, queue.Represents doubly cells }

namespace LinkedQueue

variable {doubly : Bool}

def toList (queue : LinkedQueue doubly α) : List α := queue.1.toList

def init : LinkedQueue doubly α := ⟨initQueue, [], represents_initQueue⟩

@[simp]
theorem toList_init : (init : LinkedQueue doubly α).toList = [] := rfl

theorem isSome_enqueue (queue : LinkedQueue doubly α) (payload : α) :
    (Smqtt.enqueue queue.1 payload).isSome := by
  obtain ⟨cells, hcells⟩ := queue.2
  obtain ⟨next, hnext, -⟩ := enqueue_represents hcells payload
  rw [hnext]
  rfl

theorem represents_enqueue (queue : LinkedQueue doubly α) (payload : α) :
    ∃ cells, ((Smqtt.enqueue queue.1 payload).get (queue.isSome_enqueue payload)).Represents
      doubly cells ∧ cells.map Prod.snd = queue.toList ++ [payload] := by
  obtain ⟨cells, hcells⟩ := queue.2
  obtain ⟨next, hnext, hrepresents⟩ := enqueue_represents hcells payload
  refine ⟨_, by simpa [hnext] using hrepresents, ?_⟩
  rw [toList, hcells.toList_eq]
  simp

def enqueue (queue : LinkedQueue doubly α) (payload : α) : LinkedQueue doubly α :=
  ⟨(Smqtt.enqueue queue.1 payload).get (queue.isSome_enqueue payload),
    let ⟨cells, hcells, _⟩ := queue.represents_enqueue payload
    ⟨cells, hcells⟩⟩

@[simp]
theorem toList_enqueue (queue : LinkedQueue doubly α) (payload : α) :
    (queue.enqueue payload).toList = queue.toList ++ [payload] := by
  obtain ⟨cells, hcells, hvalues⟩ := queue.represents_enqueue payload
  exact hcells.toList_eq.trans hvalues

/-- The first payload, if there is one, and the queue without it. -/
theorem represents_dequeue (queue : LinkedQueue false α) :
    ∃ next cells, Smqtt.dequeue queue.1 = some (queue.toList.head?, next) ∧
      next.Represents false cells ∧ cells.map Prod.snd = queue.toList.tail := by
  obtain ⟨cells, hcells⟩ := queue.2
  rw [toList, hcells.toList_eq]
  cases cells with
  | nil => exact ⟨queue.1, [], dequeue_represents_nil hcells, hcells, rfl⟩
  | cons cell cells =>
      obtain ⟨next, hdequeue, hrepresents⟩ := dequeue_represents_cons hcells
      exact ⟨next, cells, hdequeue, hrepresents, rfl⟩

theorem isSome_dequeue (queue : LinkedQueue false α) : (Smqtt.dequeue queue.1).isSome := by
  obtain ⟨next, cells, hdequeue, -⟩ := queue.represents_dequeue
  rw [hdequeue]
  rfl

theorem represents_get_dequeue (queue : LinkedQueue false α) :
    ∃ cells, ((Smqtt.dequeue queue.1).get queue.isSome_dequeue).2.Represents false cells ∧
      cells.map Prod.snd = queue.toList.tail := by
  obtain ⟨next, cells, hdequeue, hrepresents, hvalues⟩ := queue.represents_dequeue
  exact ⟨cells, by simpa [hdequeue] using hrepresents, hvalues⟩

def dequeue (queue : LinkedQueue false α) : Option α × LinkedQueue false α :=
  (((Smqtt.dequeue queue.1).get queue.isSome_dequeue).1,
    ⟨((Smqtt.dequeue queue.1).get queue.isSome_dequeue).2,
      let ⟨cells, hcells, _⟩ := queue.represents_get_dequeue
      ⟨cells, hcells⟩⟩)

@[simp]
theorem dequeue_fst (queue : LinkedQueue false α) : queue.dequeue.1 = queue.toList.head? := by
  obtain ⟨next, cells, hdequeue, -⟩ := queue.represents_dequeue
  simp [dequeue, hdequeue]

theorem dequeue_of_cons {queue : LinkedQueue false α} {payload : α} {rest : List α}
    (hqueue : queue.toList = payload :: rest) : queue.dequeue = (some payload, queue.dequeue.2) :=
  Prod.ext (by rw [dequeue_fst, hqueue, List.head?_cons]) rfl

theorem dequeue_of_nil {queue : LinkedQueue false α} (hqueue : queue.toList = []) :
    queue.dequeue = (none, queue.dequeue.2) :=
  Prod.ext (by rw [dequeue_fst, hqueue, List.head?_nil]) rfl

@[simp]
theorem toList_dequeue (queue : LinkedQueue false α) :
    queue.dequeue.2.toList = queue.toList.tail := by
  obtain ⟨cells, hcells, hvalues⟩ := queue.represents_get_dequeue
  exact hcells.toList_eq.trans hvalues

/-- The search of a doubly linked queue runs to its end and leaves a doubly linked queue. -/
theorem represents_search (inspect : α → Verdict) (queue : LinkedQueue true α) :
    match searchList inspect queue.toList with
    | none => searchQueue inspect queue.1 = none
    | some (result, rest) => ∃ next cells, searchQueue inspect queue.1 = some (result, next) ∧
        next.Represents true cells ∧ cells.map Prod.snd = rest := by
  obtain ⟨cells, hcells⟩ := queue.2
  have hfuel : cells.length < queue.1.heap.length + 1 :=
    Nat.lt_succ_of_le (hcells.segment.length_le hcells.nodup)
  rw [toList, hcells.toList_eq, searchQueue, hcells.head]
  exact searchLoop_represents inspect (show queue.1.Represents true ([] ++ cells) from hcells) hfuel

theorem represents_of_search {inspect : α → Verdict} {queue : LinkedQueue true α}
    {result : Search α} {next : Queue α} (hsearch : searchQueue inspect queue.1 = some (result, next)) :
    ∃ cells, next.Represents true cells := by
  have hspec := queue.represents_search inspect
  revert hspec
  cases searchList inspect queue.toList with
  | none => simp [hsearch]
  | some answer =>
      rintro ⟨next', cells, heq, hrepresents, -⟩
      obtain ⟨rfl, rfl⟩ : result = answer.1 ∧ next = next' := by simpa [hsearch] using heq
      exact ⟨cells, hrepresents⟩

def search (inspect : α → Verdict) (queue : LinkedQueue true α) :
    Option (Search α × LinkedQueue true α) :=
  match hsearch : searchQueue inspect queue.1 with
  | none => none
  | some (result, next) => some (result, ⟨next, represents_of_search hsearch⟩)

/-- Searching the linked queue is searching the list of its payloads. -/
theorem search_toList (inspect : α → Verdict) (queue : LinkedQueue true α) :
    (queue.search inspect).map (fun answer => (answer.1, answer.2.toList))
      = searchList inspect queue.toList := by
  have hspec := queue.represents_search inspect
  unfold search
  cases hlist : searchList inspect queue.toList with
  | none =>
      rw [hlist] at hspec
      split
      · rfl
      · rename_i heq
        rw [hspec] at heq
        simp at heq
  | some answer =>
      rw [hlist] at hspec
      obtain ⟨next, cells, heq, hrepresents, hvalues⟩ := hspec
      split
      · rename_i hnone
        rw [heq] at hnone
        simp at hnone
      · rename_i result next' hsome
        obtain ⟨rfl, rfl⟩ : answer.1 = result ∧ next = next' := by simpa [heq] using hsome
        simp only [Option.map_some, toList, hrepresents.toList_eq, hvalues]

end LinkedQueue

end Smqtt
