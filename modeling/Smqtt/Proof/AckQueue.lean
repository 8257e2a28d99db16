import Smqtt.Connection
import Smqtt.Lib.FirstItem
import Smqtt.Proof.QueueShape

/-!
# Searches of `ack_queue`

`dequeue_by_type_and_id` on every queue that enqueues and searches can build. It finds the first
record with the type and the id, unless it comes to one before that at which it does not go on: a SUBACK
with another id, or an id that was never written.
-/

namespace Smqtt

open LinkedHeap

/-- What the call returns; without `found` nothing has been assigned. -/
def Search.returned {α : Type} : Search α → Bool
  | found _ => true
  | unassigned => true
  | notFound => false

/-- The packet id that a search for a type compares. -/
def WaitingData.idFor (data : WaitingData) : MessageType → Option UInt16
  | .puback | .pubrec | .pubcomp | .unsuback => data.plainId
  | .pubrel => data.pubrelId
  | .suback => data.subackId
  | _ => none

/-- A record that waits for a packet of this type with this id. -/
def Waiting.Answers (type : MessageType) (packetId : UInt16) (waiting : Waiting) : Prop :=
  waiting.type = type ∧ (type = .pingresp ∨ waiting.data.idFor type = some packetId)

instance (type : MessageType) (packetId : UInt16) (waiting : Waiting) :
    Decidable (waiting.Answers type packetId) :=
  inferInstanceAs (Decidable (_ ∧ _))

/-- A search for a type goes on behind a record that has another id. -/
def Waiting.Passable (type : MessageType) (waiting : Waiting) : Prop :=
  waiting.type = type →
    type ∈ [MessageType.puback, .pubrec, .pubcomp, .pubrel, .suback, .unsuback] →
      type ≠ .suback ∧ (waiting.data.idFor type).isSome

/-- A search and what it does to the queue, as it should be. -/
structure SearchesAndRemoves (type : MessageType) (packetId : UInt16) (queue : Queue Waiting)
    (cells : List (Nat × Waiting)) : Prop where
  returns : ∃ result next, searchQueue (inspect type packetId) queue = some (result, next) ∧
    (result.returned = true ↔ ∃ cell ∈ cells, cell.2.Answers type packetId) ∧
    (result.returned = false → next = queue)
  first : ∀ left cell right, cells = left ++ cell :: right →
    (∀ other ∈ left, ¬ other.2.Answers type packetId) → cell.2.Answers type packetId →
      ∃ next, searchQueue (inspect type packetId) queue = some (.found cell.2, next) ∧
        next.WellFormed (left ++ right)

/-! ### One search -/

section Search

variable {type : MessageType} {packetId : UInt16} {queue : Queue Waiting}
  {cells before left right : List (Nat × Waiting)} {cell : Nat × Waiting} {waiting : Waiting}

theorem inspect_take_iff :
    inspect type packetId waiting = .take ↔ waiting.Answers type packetId := by
  by_cases htype : waiting.type = type
  · have hcompare (stored : Option UInt16) (otherwise : Verdict) (hother : otherwise ≠ .take) :
        compareId stored packetId otherwise = .take ↔ stored = some packetId := by
      cases stored with
      | none => simp [compareId]
      | some stored => by_cases heq : stored = packetId <;> simp [compareId, heq, hother]
    cases type <;> simp [inspect, Waiting.Answers, WaitingData.idFor, htype, hcompare]
  · simp [inspect, Waiting.Answers, htype]

theorem inspect_skip_iff :
    inspect type packetId waiting = .skip ↔
      ¬ waiting.Answers type packetId ∧ waiting.Passable type := by
  by_cases htype : waiting.type = type
  · have hcompare (stored : Option UInt16) :
        compareId stored packetId .skip = .skip ↔ stored ≠ some packetId ∧ stored.isSome := by
      cases stored with
      | none => simp [compareId]
      | some stored => by_cases heq : stored = packetId <;> simp [compareId, heq]
    have hstop (stored : Option UInt16) : compareId stored packetId .stop ≠ .skip := by
      cases stored with
      | none => simp [compareId]
      | some stored => by_cases heq : stored = packetId <;> simp [compareId, heq]
    cases type <;>
      simp [inspect, Waiting.Answers, Waiting.Passable, WaitingData.idFor, htype, hcompare, hstop]
  · simp [inspect, Waiting.Answers, Waiting.Passable, htype]

/-- The loop goes past what it skips. -/
theorem searchLoop_skip {α : Type} {inspect : α → Verdict} {queue : Queue α}
    {before left right : List (Nat × α)} (hqueue : queue.Represents true (before ++ (left ++ right)))
    (hskip : ∀ cell ∈ left, inspect cell.2 = .skip) (fuel : Nat) :
    searchLoop inspect queue (left.length + fuel) (firstAddress (left ++ right))
      = searchLoop inspect queue fuel (firstAddress right) := by
  induction left generalizing before with
  | nil => simp
  | cons cell left ih =>
      obtain ⟨hcell, hleft⟩ := List.forall_mem_cons.mp hskip
      have hrest : queue.Represents true ((before ++ [cell]) ++ (left ++ right)) := by
        simpa using hqueue
      calc searchLoop inspect queue ((cell :: left).length + fuel) (some cell.1)
          = searchLoop inspect queue (left.length + fuel + 1) (some cell.1) := by
            rw [List.length_cons, Nat.add_right_comm]
        _ = searchLoop inspect queue (left.length + fuel) (firstAddress (left ++ right)) := by
            rw [searchLoop_cell inspect hqueue, hcell]
            rfl
        _ = searchLoop inspect queue fuel (firstAddress right) := ih hrest hleft

/-- A search that skips everything comes to the end. -/
theorem searchQueue_all_skip {α : Type} {inspect : α → Verdict} {queue : Queue α}
    {cells : List (Nat × α)} (hqueue : queue.Represents true cells)
    (hskip : ∀ cell ∈ cells, inspect cell.2 = .skip) :
    searchQueue inspect queue = some (.notFound, queue) := by
  have hlength := hqueue.segment.length_le hqueue.nodup
  obtain ⟨spare, hspare⟩ := Nat.exists_eq_add_of_le hlength
  have hwhole : queue.Represents true ([] ++ (cells ++ [])) := by simpa using hqueue
  have hloop := searchLoop_skip hwhole hskip (spare + 1)
  rw [List.append_nil] at hloop
  rw [searchQueue, hqueue.head, hspare, Nat.add_assoc, hloop]
  rfl

/-- A search is decided by the first entry that it does not skip. -/
theorem searchQueue_of_first {α : Type} {inspect : α → Verdict} {queue : Queue α}
    {left right : List (Nat × α)} {entry : Nat} {payload : α}
    (hqueue : queue.Represents true (left ++ (entry, payload) :: right))
    (hskip : ∀ cell ∈ left, inspect cell.2 = .skip) (hstays : inspect payload ≠ .skip) :
    searchQueue inspect queue = match inspect payload with
      | .take => (removeFromQueue queue entry).map fun next => (.found payload, next)
      | .stop => some (.unassigned, queue)
      | _ => none := by
  have hlength := hqueue.segment.length_le hqueue.nodup
  have hleft : left.length ≤ queue.heap.length :=
    (List.length_append ▸ Nat.le_add_right _ _ : left.length ≤ (left ++ _).length).trans hlength
  obtain ⟨spare, hspare⟩ := Nat.exists_eq_add_of_le hleft
  have hwhole : queue.Represents true ([] ++ (left ++ (entry, payload) :: right)) := hqueue
  rw [searchQueue, hqueue.head, hspare, Nat.add_assoc, searchLoop_skip hwhole hskip (spare + 1),
    firstAddress_cons, searchLoop_cell inspect hqueue]
  cases hverdict : inspect payload with
  | take => exact Option.map_eq_bind.symm
  | skip => exact absurd hverdict hstays
  | _ => rfl

/-- All entries are skipped, or there is a first that is not. -/
theorem skip_cases {α : Type} (inspect : α → Verdict) (cells : List (Nat × α)) :
    (∀ cell ∈ cells, inspect cell.2 = .skip) ∨ ∃ left entry payload right,
      cells = left ++ (entry, payload) :: right ∧ (∀ cell ∈ left, inspect cell.2 = .skip) ∧
        inspect payload ≠ .skip := by
  obtain hnone | ⟨left, ⟨entry, payload⟩, right, hsplit, hleft, hstays⟩ :=
    FirstItem.none_or_split (fun cell => inspect cell.2 ≠ .skip) cells
  · exact .inl fun cell hmem => not_not.mp (hnone cell hmem)
  · exact .inr ⟨left, entry, payload, right, hsplit, fun cell hmem => not_not.mp (hleft cell hmem),
      hstays⟩

/-- No record answers, and none is in the way. -/
theorem searchesAndRemoves_of_skip (hqueue : queue.Represents true cells)
    (hall : ∀ cell ∈ cells, inspect type packetId cell.2 = .skip) :
    SearchesAndRemoves type packetId queue cells := by
  have hnone (cell : Nat × Waiting) (hmem : cell ∈ cells) : ¬ cell.2.Answers type packetId :=
    (inspect_skip_iff.mp (hall cell hmem)).1
  have hsearch := searchQueue_all_skip hqueue hall
  refine ⟨⟨.notFound, queue, hsearch, ?_, fun _ => rfl⟩, ?_⟩
  · exact iff_of_false nofun fun ⟨cell, hmem, hanswers⟩ => hnone cell hmem hanswers
  · rintro left cell right rfl - hanswers
    exact absurd hanswers (hnone cell (by simp))

/-- A record answers, and none is in the way. -/
theorem searchesAndRemoves_of_answers {entry : Nat}
    (hqueue : queue.Represents true (left ++ (entry, waiting) :: right))
    (hleft : ∀ cell ∈ left, inspect type packetId cell.2 = .skip)
    (hanswers : waiting.Answers type packetId) :
    SearchesAndRemoves type packetId queue (left ++ (entry, waiting) :: right) := by
  have hnone (cell : Nat × Waiting) (hmem : cell ∈ left) : ¬ cell.2.Answers type packetId :=
    (inspect_skip_iff.mp (hleft cell hmem)).1
  have htake : inspect type packetId waiting = .take := inspect_take_iff.mpr hanswers
  obtain ⟨next, hremove, hnext⟩ := removeFromQueue_represents hqueue
  have hsearch : searchQueue (inspect type packetId) queue = some (.found waiting, next) := by
    rw [searchQueue_of_first hqueue hleft (by simp [htake]), htake, hremove]
    rfl
  refine ⟨⟨.found waiting, next, hsearch, ?_, nofun⟩, ?_⟩
  · exact iff_of_true rfl ⟨(entry, waiting), by simp, hanswers⟩
  · intro left' cell' right' hsame hleft' hcell'
    obtain ⟨rfl, rfl, rfl⟩ :=
      FirstItem.split_unique hsame hnone hanswers hleft' hcell'
    exact ⟨next, hsearch, hnext.wellFormed⟩

/-- The search comes to a record that does not answer, and does not go on. -/
theorem not_searchesAndRemoves {entry : Nat}
    (hqueue : queue.Represents true (left ++ (entry, waiting) :: right))
    (hleft : ∀ cell ∈ left, inspect type packetId cell.2 = .skip)
    (hstays : inspect type packetId waiting ≠ .skip) (hanswers : ¬ waiting.Answers type packetId) :
    ¬ SearchesAndRemoves type packetId queue (left ++ (entry, waiting) :: right) := by
  intro hworks
  have hsearch := searchQueue_of_first hqueue hleft hstays
  obtain ⟨result, next, hreturns, hreturned, -⟩ := hworks.returns
  cases hverdict : inspect type packetId waiting with
  | take => exact hanswers (inspect_take_iff.mp hverdict)
  | skip => exact hstays hverdict
  | unknown => simp [hsearch, hverdict] at hreturns
  | stop =>
      -- it says that it has found something, so there is an answer further on
      rw [hverdict] at hsearch
      obtain ⟨rfl, rfl⟩ := Prod.mk.inj (Option.some.inj (hreturns.symm.trans hsearch))
      obtain ⟨left', cell', right', hsame, hleft', hcell'⟩ :=
        FirstItem.exists_split (hreturned.mp rfl)
      obtain ⟨next', hfound, -⟩ := hworks.first left' cell' right' hsame hleft' hcell'
      simp [hsearch] at hfound

/-- **A search does what it should** exactly if it can pass all records before the first that
answers. -/
theorem searchesAndRemoves_iff (hqueue : queue.Represents true cells) :
    SearchesAndRemoves type packetId queue cells ↔
      ∀ waiting ∈ (cells.map Prod.snd).takeWhile (fun waiting => ¬ waiting.Answers type packetId),
        waiting.Passable type := by
  have hpassable {cells : List (Nat × Waiting)} (hskip : ∀ cell ∈ cells,
      inspect type packetId cell.2 = .skip) : ∀ waiting ∈ cells.map Prod.snd,
        ¬ waiting.Answers type packetId ∧ waiting.Passable type := by
    rw [List.forall_mem_map]
    exact fun cell hmem => inspect_skip_iff.mp (hskip cell hmem)
  obtain hall | ⟨left, entry, waiting, right, rfl, hleft, hstays⟩ :=
    skip_cases (inspect type packetId) cells
  · refine iff_of_true (searchesAndRemoves_of_skip hqueue hall) fun waiting hmem => ?_
    exact (hpassable hall waiting (List.takeWhile_subset _ hmem)).2
  · rw [List.map_append, List.map_cons]
    by_cases hanswers : waiting.Answers type packetId
    · refine iff_of_true (searchesAndRemoves_of_answers hqueue hleft hanswers) ?_
      rw [FirstItem.takeWhile_split (fun payload hmem => (hpassable hleft payload hmem).1) hanswers]
      exact fun payload hmem => (hpassable hleft payload hmem).2
    · refine iff_of_false (not_searchesAndRemoves hqueue hleft hstays hanswers) fun hall => ?_
      refine hstays (inspect_skip_iff.mpr ⟨hanswers, hall waiting ?_⟩)
      rw [List.takeWhile_append_of_pos (by simpa using fun payload hmem =>
        (hpassable hleft payload hmem).1), List.takeWhile_cons_of_pos (by simpa using hanswers)]
      simp

/-- A search keeps the shape, and adds nothing. -/
theorem represents_search {α : Type} {inspect : α → Verdict} {queue next : Queue α}
    {cells : List (Nat × α)} {result : Search α} (hqueue : queue.Represents true cells)
    (hsearch : searchQueue inspect queue = some (result, next)) :
    ∃ left, next.Represents true left ∧ left.Sublist cells := by
  obtain hall | ⟨left, entry, payload, right, rfl, hleft, hstays⟩ := skip_cases inspect cells
  · rw [searchQueue_all_skip hqueue hall] at hsearch
    obtain ⟨-, rfl⟩ := Prod.mk.inj (Option.some.inj hsearch)
    exact ⟨cells, hqueue, List.Sublist.refl cells⟩
  · rw [searchQueue_of_first hqueue hleft hstays] at hsearch
    cases hverdict : inspect payload with
    | take =>
        obtain ⟨next', hremove, hnext⟩ := removeFromQueue_represents hqueue
        simp only [hverdict, hremove, Option.map_some, Option.some.injEq, Prod.mk.injEq] at hsearch
        obtain ⟨-, rfl⟩ := hsearch
        exact ⟨left ++ right, hnext, List.Sublist.append_left (List.sublist_cons_self _ right) left⟩
    | stop =>
        simp only [hverdict, Option.some.injEq, Prod.mk.injEq] at hsearch
        obtain ⟨-, rfl⟩ := hsearch
        exact ⟨_, hqueue, List.Sublist.refl _⟩
    | _ => simp [hverdict] at hsearch

end Search

/-! ### Every queue that can be built -/

/-- One call on `ack_queue`. The address of a new entry is the one that `malloc` returns. -/
inductive AckOp where
  | enqueue (entry : Nat) (waiting : Waiting)
  | search (type : MessageType) (packetId : UInt16)

/-- Nothing comes of an address that is in use, nor of a search that reads an id that was never
written. -/
def AckOp.perform (queue : Queue Waiting) : AckOp → Option (Queue Waiting)
  | enqueue entry waiting =>
      if (queue.heap.lookup entry).isNone then enqueueAt queue entry waiting else none
  | search type packetId => (searchQueue (inspect type packetId) queue).map Prod.snd

/-- The entries in the order in which they came. -/
def AckOp.entry : AckOp → Option (Nat × Waiting)
  | enqueue entry waiting => some (entry, waiting)
  | search _ _ => none

theorem represents_ackOps {ops : List AckOp} {queue : Queue Waiting}
    (hrun : Run.exec AckOp.perform initQueue ops = some queue) :
    ∃ cells, queue.Represents true cells ∧ cells.Sublist (ops.filterMap AckOp.entry) := by
  refine Run.invariant_past (fun before queue => ∃ cells, queue.Represents true cells ∧
    cells.Sublist (before.filterMap AckOp.entry))
    ⟨[], represents_initQueue, List.nil_sublist _⟩ ?_ hrun
  rintro before queue op next ⟨cells, hqueue, hcells⟩ hperform
  cases op with
  | enqueue entry waiting =>
      obtain ⟨hunused, henqueue⟩ := Option.ite_none_right_eq_some.mp hperform
      obtain ⟨next', hnext, hrepresents⟩ :=
        enqueueAt_represents hqueue (Option.isNone_iff_eq_none.mp hunused) waiting
      obtain rfl := Option.some.inj (henqueue.symm.trans hnext)
      refine ⟨_, hrepresents, ?_⟩
      rw [List.filterMap_append]
      exact hcells.append_right _
  | search type packetId =>
      obtain ⟨⟨result, next⟩, hsearch, rfl⟩ := Option.map_eq_some_iff.mp hperform
      obtain ⟨left, hleft, hsublist⟩ := represents_search hqueue hsearch
      refine ⟨left, hleft, ?_⟩
      rw [List.filterMap_append, List.filterMap_cons]
      simpa [AckOp.entry] using hsublist.trans hcells

/-- **Searching and removing.** In every queue that enqueues and searches can build, what is left of
the entries stands in the order in which they came, and a search does what it should exactly if it can
pass all records before the first that answers. -/
theorem search_iff {ops : List AckOp} {queue : Queue Waiting}
    (hrun : Run.exec AckOp.perform initQueue ops = some queue) :
    ∃ cells, queue.WellFormed cells ∧ cells.Sublist (ops.filterMap AckOp.entry) ∧
      ∀ type packetId, SearchesAndRemoves type packetId queue cells ↔
        ∀ waiting ∈ (cells.map Prod.snd).takeWhile
          (fun waiting => ¬ waiting.Answers type packetId), waiting.Passable type := by
  obtain ⟨cells, hqueue, hcells⟩ := represents_ackOps hrun
  exact ⟨cells, hqueue.wellFormed, hcells, fun _ _ => searchesAndRemoves_iff hqueue⟩

/-- Two subscriptions and a publish, of which the publish and the first subscription are answered. -/
def answeredOps : List AckOp :=
  [.enqueue 3 ⟨0, .suback, none, 0, .suback none 1⟩, .enqueue 1 ⟨1, .puback, none, 0, .puback 7⟩,
    .enqueue 2 ⟨2, .suback, none, 0, .suback none 2⟩, .search .puback 7, .search .suback 1]

theorem search_answered : ∃ queue cells, Run.exec AckOp.perform initQueue answeredOps = some queue ∧
    queue.WellFormed cells ∧ cells.Sublist (answeredOps.filterMap AckOp.entry) ∧
    SearchesAndRemoves .pingresp 0 queue cells := by
  obtain ⟨queue, hrun⟩ : ∃ queue, Run.exec AckOp.perform initQueue answeredOps = some queue :=
    Option.isSome_iff_exists.mp (by decide)
  obtain ⟨cells, hwellFormed, hcells, hiff⟩ := search_iff hrun
  refine ⟨queue, cells, hrun, hwellFormed, hcells, (hiff .pingresp 0).mpr fun waiting _ _ hmem => ?_⟩
  simp at hmem

/-- The SUBACK of the second of two subscriptions is found, and nothing comes with it. -/
theorem second_suback_unassigned : ∃ (ops : List AckOp) (queue : Queue Waiting)
    (cells : List (Nat × Waiting)), Run.exec AckOp.perform initQueue ops = some queue ∧
      queue.WellFormed cells ∧ ¬ SearchesAndRemoves .suback 2 queue cells := by
  let first : Waiting := ⟨0, .suback, none, 0, .suback none 1⟩
  let second : Waiting := ⟨1, .suback, none, 0, .suback none 2⟩
  have hempty : (initQueue : Queue Waiting).Represents true [] := represents_initQueue
  obtain ⟨one, hfirst, hone⟩ := @enqueueAt_represents _ true initQueue [] 0 hempty rfl first
  obtain rfl := Option.some.inj hfirst
  obtain ⟨two, hsecond, htwo⟩ := @enqueueAt_represents _ true _ _ 1 hone rfl second
  obtain rfl := Option.some.inj hsecond
  refine ⟨[.enqueue 0 first, .enqueue 1 second], _, _, rfl, htwo.wellFormed, fun hworks => ?_⟩
  have hpassable := (searchesAndRemoves_iff htwo).mp hworks first (by decide) rfl (by decide)
  exact hpassable.1 rfl

end Smqtt
