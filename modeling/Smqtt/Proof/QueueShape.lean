import Smqtt.Lib.Run
import Smqtt.Queue

/-!
# The shape of a queue

A queue under any mixture of `enqueue`, `dequeue` and `remove_from_queue`, beside the list that it
should stand for. `dequeue` leaves the back pointer of the new head as it was, and that is the only
step at which the shape is lost.
-/

namespace Smqtt

open LinkedHeap

variable {α : Type}

/-- A well-formed doubly linked list, with the entries `cells` from head to tail. -/
structure Queue.WellFormed (queue : Queue α) (cells : List (Nat × α)) : Prop where
  distinct : (cells.map Prod.fst).Nodup
  head : queue.head = firstAddress cells
  tail : queue.tail = lastAddress cells
  null : queue.head = none ↔ queue.tail = none
  headPrevious : ∀ entry node, queue.head = some entry → queue.heap.lookup entry = some node →
    node.previous = none
  tailNext : ∀ entry node, queue.tail = some entry → queue.heap.lookup entry = some node →
    node.next = none
  inverse : ∀ entry node other neighbour,
    entry ∈ cells.map Prod.fst → queue.heap.lookup entry = some node →
    other ∈ cells.map Prod.fst → queue.heap.lookup other = some neighbour →
      (node.next = some other ↔ neighbour.previous = some entry)
  live : ∀ entry node link, entry ∈ cells.map Prod.fst → queue.heap.lookup entry = some node →
    node.next = some link ∨ node.previous = some link → (queue.heap.lookup link).isSome
  entries : ∀ left entry payload right, cells = left ++ (entry, payload) :: right →
    queue.heap.lookup entry = some ⟨payload, lastAddress left, firstAddress right⟩

section WellFormed

variable {queue : Queue α} {cells left right : List (Nat × α)} {entry other : Nat} {payload : α}
  {node : Node α}

theorem Queue.Represents.lookup_eq
    (hqueue : queue.Represents true (left ++ (entry, payload) :: right)) :
    queue.heap.lookup entry = some ⟨payload, lastAddress left, firstAddress right⟩ := by
  obtain ⟨-, ⟨node, hlookup, hpayload, hnext, hprevious⟩, -⟩ := segment_append.mp hqueue.segment
  replace hprevious := hprevious rfl
  rw [Option.or_none] at hnext hprevious
  rw [hlookup, ← hpayload, ← hnext, ← hprevious]

/-- Where an entry stands, and that its links lead to both sides of that place. -/
theorem Queue.Represents.exists_split (hqueue : queue.Represents true cells)
    (hentry : entry ∈ cells.map Prod.fst) (hnode : queue.heap.lookup entry = some node) :
    ∃ left right, cells = left ++ (entry, node.payload) :: right ∧
      node.previous = lastAddress left ∧ node.next = firstAddress right := by
  obtain ⟨left, payload, right, rfl⟩ := exists_split_of_mem hentry
  obtain rfl := Option.some.inj (hnode.symm.trans hqueue.lookup_eq)
  exact ⟨left, right, rfl, rfl, rfl⟩

/-- The next entry is there, and its back pointer leads back. -/
theorem Queue.Represents.next_linked (hqueue : queue.Represents true cells)
    (hentry : entry ∈ cells.map Prod.fst) (hnode : queue.heap.lookup entry = some node)
    (hnext : node.next = some other) :
    ∃ neighbour, queue.heap.lookup other = some neighbour ∧ neighbour.previous = some entry := by
  obtain ⟨left, right, rfl, -, hright⟩ := hqueue.exists_split hentry hnode
  obtain ⟨carried, rest, rfl⟩ := eq_cons_of_firstAddress (hright.symm.trans hnext)
  have hsplit :
      queue.Represents true ((left ++ [(entry, node.payload)]) ++ (other, carried) :: rest) := by
    simpa using hqueue
  exact ⟨_, hsplit.lookup_eq, lastAddress_concat left _⟩

/-- The entry before is there, and its pointer leads back. -/
theorem Queue.Represents.previous_linked (hqueue : queue.Represents true cells)
    (hentry : entry ∈ cells.map Prod.fst) (hnode : queue.heap.lookup entry = some node)
    (hprevious : node.previous = some other) :
    ∃ neighbour, queue.heap.lookup other = some neighbour ∧ neighbour.next = some entry := by
  obtain ⟨left, right, rfl, hleft, -⟩ := hqueue.exists_split hentry hnode
  obtain ⟨init, carried, rfl⟩ := eq_concat_of_lastAddress (hleft.symm.trans hprevious)
  have hsplit :
      queue.Represents true (init ++ (other, carried) :: (entry, node.payload) :: right) := by
    simpa using hqueue
  exact ⟨_, hsplit.lookup_eq, rfl⟩

theorem Queue.Represents.wellFormed (hqueue : queue.Represents true cells) :
    queue.WellFormed cells := by
  refine ⟨hqueue.nodup, hqueue.head, hqueue.tail, ?_, ?_, ?_, ?_, ?_, ?_⟩
  · rw [hqueue.head, hqueue.tail]
    simp [firstAddress, lastAddress]
  · intro entry node hhead hlookup
    obtain ⟨payload, rest, rfl⟩ := eq_cons_of_firstAddress (hqueue.head.symm.trans hhead)
    have hentry := @Queue.Represents.lookup_eq α queue [] rest entry payload hqueue
    obtain rfl := Option.some.inj (hlookup.symm.trans hentry)
    rfl
  · intro entry node htail hlookup
    obtain ⟨init, payload, rfl⟩ := eq_concat_of_lastAddress (hqueue.tail.symm.trans htail)
    obtain rfl := Option.some.inj (hlookup.symm.trans hqueue.lookup_eq)
    rfl
  · intro entry node other neighbour hentry hnode hother hneighbour
    constructor
    · intro hnext
      obtain ⟨linked, hlinked, hback⟩ := hqueue.next_linked hentry hnode hnext
      obtain rfl := Option.some.inj (hneighbour.symm.trans hlinked)
      exact hback
    · intro hprevious
      obtain ⟨linked, hlinked, hforward⟩ := hqueue.previous_linked hother hneighbour hprevious
      obtain rfl := Option.some.inj (hnode.symm.trans hlinked)
      exact hforward
  · rintro entry node link hentry hnode (hnext | hprevious)
    · obtain ⟨linked, hlinked, -⟩ := hqueue.next_linked hentry hnode hnext
      exact Option.isSome_of_eq_some hlinked
    · obtain ⟨linked, hlinked, -⟩ := hqueue.previous_linked hentry hnode hprevious
      exact Option.isSome_of_eq_some hlinked
  · rintro left entry payload right rfl
    exact hqueue.lookup_eq

/-- An only entry leaves an empty queue behind. -/
theorem dequeue_represents_singleton (hqueue : queue.Represents true [(entry, payload)]) :
    ∃ next, dequeue queue = some (some payload, next) ∧ next.Represents true [] := by
  have hhead : queue.head = some entry := hqueue.head
  have htail : queue.tail = some entry := hqueue.tail
  have hlookup := @Queue.Represents.lookup_eq α queue [] [] entry payload hqueue
  exact ⟨⟨queue.heap.store entry none, none, none⟩, by simp [dequeue, hhead, htail, hlookup],
    rfl, rfl, List.nodup_nil, segment_nil⟩

/-- The entry that is taken is freed, and nothing else is written. -/
theorem heap_dequeue {taken : Option α} {next : Queue α} (hhead : queue.head = some entry)
    (hdequeue : dequeue queue = some (taken, next)) : next.heap = queue.heap.store entry none := by
  simp only [dequeue, hhead] at hdequeue
  obtain ⟨node, -, hnext⟩ := Option.bind_eq_some_iff.mp hdequeue
  split at hnext
  · obtain ⟨-, rfl⟩ := Prod.mk.inj (Option.some.inj hnext)
    rfl
  · obtain ⟨-, rfl⟩ := Prod.mk.inj (Option.some.inj hnext)
    rfl

/-- The back pointer of the new head is left on the entry that has been freed. -/
theorem dequeue_not_wellFormed {second : Nat × α} {rest : List (Nat × α)}
    (hqueue : queue.Represents true ((entry, payload) :: second :: rest)) {taken : Option α}
    {next : Queue α} (hdequeue : dequeue queue = some (taken, next)) :
    ¬ next.WellFormed (second :: rest) := by
  intro hwellFormed
  have hhead : queue.head = some entry := hqueue.head
  have hsecond : queue.heap.lookup second.1 = some ⟨second.2, some entry, firstAddress rest⟩ :=
    @Queue.Represents.lookup_eq α queue [(entry, payload)] rest second.1 second.2 hqueue
  have hne : entry ≠ second.1 := by
    have hdistinct := hqueue.nodup
    simp only [List.map_cons, List.nodup_cons, List.mem_cons, not_or] at hdistinct
    exact hdistinct.1.1
  have hlookup : next.heap.lookup second.1 = some ⟨second.2, some entry, firstAddress rest⟩ := by
    rw [heap_dequeue hhead hdequeue, Heap.lookup_store_of_ne hne, hsecond]
  have hprevious := hwellFormed.headPrevious second.1 _ hwellFormed.head hlookup
  simp at hprevious

end WellFormed

/-! ### Any mixture of operations -/

/-- One call on a queue. The address of a new entry is the one that `malloc` returns. -/
inductive QueueOp (α : Type) where
  | enqueue (entry : Nat) (payload : α)
  | dequeue
  | remove (entry : Nat)

/-- What a call does to the queue. -/
def QueueOp.perform (queue : Queue α) : QueueOp α → Option (Queue α)
  | enqueue entry payload => enqueueAt queue entry payload
  | dequeue => (Smqtt.dequeue queue).map Prod.snd
  | remove entry => removeFromQueue queue entry

/-- What it should do to the list of the entries. -/
def QueueOp.apply (cells : List (Nat × α)) : QueueOp α → List (Nat × α)
  | enqueue entry payload => cells ++ [(entry, payload)]
  | dequeue => cells.tail
  | remove entry => cells.eraseP fun cell => cell.1 = entry

/-- A queue, and the list that it should stand for. -/
structure Ledger (α : Type) where
  queue : Queue α
  cells : List (Nat × α)

namespace Ledger

def init : Ledger α := ⟨initQueue, []⟩

def step (ledger : Ledger α) (op : QueueOp α) : Option (Ledger α) :=
  (op.perform ledger.queue).map fun queue => ⟨queue, op.apply ledger.cells⟩

/-- `malloc` returns what is not in use, and an entry that is removed is in the queue. -/
def Possible (ledger : Ledger α) : QueueOp α → Prop
  | .enqueue entry _ => ledger.queue.heap.lookup entry = none
  | .dequeue => True
  | .remove entry => entry ∈ ledger.cells.map Prod.fst

/-- No entry is left that could point back. -/
def Clean (ledger : Ledger α) : QueueOp α → Prop
  | .dequeue => ledger.cells.length ≤ 1
  | _ => True

variable {ledger next : Ledger α} {op : QueueOp α}

theorem represents_step (hledger : ledger.queue.Represents true ledger.cells)
    (hpossible : ledger.Possible op) (hclean : ledger.Clean op) :
    ∃ next, ledger.step op = some next ∧ next.queue.Represents true next.cells := by
  obtain ⟨queue, cells⟩ := ledger
  cases op with
  | enqueue entry payload =>
      obtain ⟨next, hnext, hrepresents⟩ := enqueueAt_represents hledger hpossible payload
      exact ⟨⟨next, cells ++ [(entry, payload)]⟩,
        by simp [step, QueueOp.perform, QueueOp.apply, hnext], hrepresents⟩
  | dequeue =>
      cases cells with
      | nil =>
          have hempty := dequeue_represents_nil hledger
          exact ⟨⟨queue, []⟩, by simp [step, QueueOp.perform, QueueOp.apply, hempty], hledger⟩
      | cons cell rest =>
          obtain rfl : rest = [] := by simpa [Clean] using hclean
          obtain ⟨next, hnext, hrepresents⟩ := dequeue_represents_singleton hledger
          exact ⟨⟨next, []⟩, by simp [step, QueueOp.perform, QueueOp.apply, hnext], hrepresents⟩
  | remove entry =>
      obtain ⟨left, payload, right, rfl⟩ := exists_split_of_mem hpossible
      obtain ⟨next, hnext, hrepresents⟩ := removeFromQueue_represents hledger
      have hleft : ∀ cell ∈ left, ¬ decide (cell.1 = entry) = true := by
        intro cell hmem heq
        have hnodup := hledger.nodup
        rw [List.map_append, List.nodup_append] at hnodup
        exact hnodup.2.2 cell.1 (List.mem_map_of_mem hmem) entry (by simp) (of_decide_eq_true heq)
      have hcells : QueueOp.apply (left ++ (entry, payload) :: right) (.remove entry)
          = left ++ right := by
        rw [QueueOp.apply, List.eraseP_append_right _ hleft, List.eraseP_cons_of_pos (by simp)]
      exact ⟨⟨next, left ++ right⟩, by simp [step, QueueOp.perform, hnext, hcells], hrepresents⟩

theorem not_wellFormed_step (hledger : ledger.queue.Represents true ledger.cells)
    (hclean : ¬ ledger.Clean op) (hstep : ledger.step op = some next) :
    ¬ next.queue.WellFormed next.cells := by
  obtain ⟨queue, cells⟩ := ledger
  cases op with
  | dequeue =>
      obtain ⟨queue', hperform, rfl⟩ := Option.map_eq_some_iff.mp hstep
      obtain ⟨⟨taken, queue''⟩, hdequeue, rfl⟩ := Option.map_eq_some_iff.mp hperform
      match cells, hclean with
      | [], hclean => simp [Clean] at hclean
      | [_], hclean => simp [Clean] at hclean
      | _ :: _ :: _, _ => exact dequeue_not_wellFormed hledger hdequeue
  | _ => exact absurd trivial hclean

/-- **The shape of a queue.** Whatever is enqueued, dequeued and removed, and whichever addresses
`malloc` returns, the queue is well-formed at all times, and stands for the list that it should,
exactly if every `dequeue` finds one entry at most. -/
theorem wellFormed_iff {ops : List (QueueOp α)} (hpossible : Run.Along step Possible init ops) :
    (∀ done, done <+: ops → ∃ ledger, Run.exec step init done = some ledger ∧
        ledger.queue.WellFormed ledger.cells) ↔ Run.Along step Clean init ops :=
  Run.prefixes_good_iff_along (fun _ => Queue.Represents.wellFormed)
    (fun _ _ => represents_step) (fun _ _ _ => not_wellFormed_step) represents_initQueue hpossible

/-- An entry is removed from the front and the other is taken. -/
theorem shape_kept : ∃ ops : List (QueueOp Nat), ops.length = 4 ∧
    ∀ done, done <+: ops → ∃ ledger, Run.exec step init done = some ledger ∧
      ledger.queue.WellFormed ledger.cells := by
  let ops : List (QueueOp Nat) := [.enqueue 4 7, .enqueue 2 8, .remove 4, .dequeue]
  have hpossible : Run.Along step Possible init ops :=
    ⟨rfl, rfl, List.mem_cons_self, trivial, trivial⟩
  have hclean : Run.Along step Clean init ops :=
    ⟨trivial, trivial, trivial, Nat.le_refl 1, trivial⟩
  exact ⟨ops, rfl, (wellFormed_iff hpossible).mpr hclean⟩

/-- Two entries are enqueued and the first is taken; the other still points back to it. -/
theorem back_pointer_dangles : ∃ ops : List (QueueOp Nat), Run.Along step Possible init ops ∧
    ¬ ∀ done, done <+: ops → ∃ ledger, Run.exec step init done = some ledger ∧
      ledger.queue.WellFormed ledger.cells := by
  refine ⟨[.enqueue 0 7, .enqueue 1 8, .dequeue], ⟨rfl, rfl, trivial, trivial⟩, fun hall => ?_⟩
  obtain ⟨ledger, hrun, hwellFormed⟩ := hall _ List.prefix_rfl
  obtain rfl := Option.some.inj hrun
  have hprevious := hwellFormed.headPrevious 1 ⟨8, some 0, none⟩ rfl rfl
  simp at hprevious

end Ledger

end Smqtt
