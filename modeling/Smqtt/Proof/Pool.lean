import Smqtt.Lib.SlotPool
import Smqtt.Proof.Steps

/-!
# Where the slots are

The buffer slots of a client are a pool in circulation: the free queue, the API threads, the send
queue and the session thread. Every action of every thread makes one move of that pool or none.
-/

namespace Smqtt

/-- The slot that an API thread has got and not yet given away. -/
def ApiPc.slot : ApiPc → Option UInt16
  | serializing _ _ slot => some slot
  | registering _ _ slot _ => some slot
  | enqueueing _ slot _ => some slot
  | _ => none

/-- The slot that the session thread is transmitting. -/
def SessionPc.slot : SessionPc → Option UInt16
  | sending slot => some slot
  | requeueing slot => some slot
  | _ => none

namespace System

variable {Tid : Type}

def pool (system : System Tid) : SlotPool.State Tid UInt16 where
  free := system.client.freeQueue.toList
  held := fun tid => (system.api tid).slot
  queued := system.client.sendQueue.toList
  serving := system.session.slot

theorem Outcome.slot_eq_none {outcome : SessionPc × List Event} (houtcome : Outcome outcome) :
    outcome.1.slot = none := by
  cases houtcome <;> rfl

theorem pool_log (system : System Tid) (events : List Event) :
    (system.log events).pool = system.pool := rfl

variable [DecidableEq Tid] {system next : System Tid} {tid : Tid}

theorem pool_setApi (system : System Tid) (tid : Tid) (pc : ApiPc) :
    (system.setApi tid pc).pool
      = { system.pool with held := Function.update system.pool.held tid pc.slot } := by
  refine SlotPool.State.ext rfl ?_ rfl rfl
  funext other
  by_cases heq : other = tid
  · subst heq
    simp [pool, setApi]
  · simp [pool, setApi, heq]

theorem pool_setApi_of_slot_eq {pc : ApiPc} (hslot : (system.api tid).slot = pc.slot) :
    (system.setApi tid pc).pool = system.pool := by
  rw [pool_setApi, ← hslot]
  exact SlotPool.State.ext rfl (Function.update_eq_self tid system.pool.held) rfl rfl

theorem pool_call {request : Request} (hpc : system.api tid = .idle) :
    (system.call tid request).pool = system.pool := by
  cases hrefused : request.refused system.client with
  | some status =>
      rw [call_of_refused hrefused]
      rfl
  | none =>
      rw [call_of_accepted hrefused, pool_setApi_of_slot_eq (by simp [hpc, ApiPc.slot])]
      rfl

theorem pool_trySlot {serial : Nat} {request : Request} (hheld : (system.api tid).slot = none) :
    SlotPool.Step system.pool (system.trySlot tid serial request).pool := by
  cases hfree : system.client.freeQueue.toList with
  | nil =>
      rw [trySlot_of_nil hfree, pool_setApi_of_slot_eq (by simpa [ApiPc.slot] using hheld)]
      exact .stay _
  | cons slot rest =>
      have hpool : (system.trySlot tid serial request).pool
          = { system.pool with
              free := rest
              held := Function.update system.pool.held tid (some slot) } := by
        rw [trySlot_of_cons hfree, pool_setApi]
        simp [pool, hfree, ApiPc.slot]
      rw [hpool]
      exact .take hfree hheld

theorem pool_enqueueSlot {serial : Nat} {slot : UInt16} {outgoing : Outgoing}
    (hpc : system.api tid = .enqueueing serial slot outgoing) :
    SlotPool.Step system.pool (system.enqueueSlot tid serial slot outgoing).pool := by
  have hheld : system.pool.held tid = some slot := by simp [pool, hpc, ApiPc.slot]
  have hpool : (system.enqueueSlot tid serial slot outgoing).pool
      = { system.pool with
          held := Function.update system.pool.held tid none
          queued := system.pool.queued ++ [slot] } := by
    rw [enqueueSlot, pool_log, pool_setApi]
    simp [pool, enqueueSlotForSend, ApiPc.slot]
  rw [hpool]
  exact .submit hheld

theorem pool_sessionTop (hpc : system.session = .top) :
    SlotPool.Step system.pool system.sessionTop.pool := by
  have hserving : system.pool.serving = none := by simp [pool, hpc, SessionPc.slot]
  obtain ⟨-, htop⟩ | ⟨-, -, htop⟩ | ⟨slot, rest, -, hqueue, htop⟩ := system.sessionTop_cases
  · rw [htop]
    convert SlotPool.Step.stay system.pool using 1
    exact SlotPool.State.ext rfl rfl rfl hserving.symm
  · rw [htop]
    convert SlotPool.Step.stay system.pool using 1
    exact SlotPool.State.ext rfl rfl rfl hserving.symm
  · have hpool : system.sessionTop.pool
        = { system.pool with queued := rest, serving := some slot } := by
      rw [htop]
      simp [pool, hqueue, SessionPc.slot]
    rw [hpool]
    exact .serve hqueue hserving

omit [DecidableEq Tid] in
theorem pool_sessionReceive {buffer : Memory} {size : Int} {resp : Option Response}
    (hpc : system.session = .receiving) :
    (system.sessionReceive buffer size resp).pool = system.pool := by
  unfold sessionReceive
  split
  · cases resp <;> simp [pool, log, hpc, SessionPc.slot]
  · simp [pool, hpc, SessionPc.slot]

omit [DecidableEq Tid] in
theorem pool_sessionHandle {resp : Response} (hpc : system.session = .handling resp) :
    (system.sessionHandle resp).pool = system.pool := by
  obtain ⟨ackQueue, hclient⟩ := handleResponse_client system.client resp
  have hslot := (handleResponse_outcome system.client resp).slot_eq_none
  have hbefore : system.session.slot = none := by
    rw [hpc]
    rfl
  simp [pool, sessionHandle, log, hclient, hslot, hbefore]

omit [DecidableEq Tid] in
theorem pool_sessionReply {reply : Reply} {sent : Bool} (hpc : system.session = .replying reply) :
    (system.sessionReply reply sent).pool = system.pool := by
  have hslot := fun client => (afterReply_outcome client reply sent).slot_eq_none
  have hbefore : system.session.slot = none := by
    rw [hpc]
    rfl
  simp [pool, sessionReply, log, hslot, hbefore]

theorem pool_register {serial : Nat} {request : Request} {slot : UInt16} {outgoing : Outgoing}
    (hpc : system.api tid = .registering serial request slot outgoing) :
    (system.register tid serial request slot outgoing).pool = system.pool := by
  rw [register, pool_log, pool_setApi_of_slot_eq (by simp [hpc, ApiPc.slot])]
  obtain ⟨ackQueue, publishPacketId, hclient⟩ := Request.register_client system.client serial request
  rw [hclient]
  rfl

theorem pool_serialize {serial : Nat} {request : Request} {slot : UInt16}
    (hpc : system.api tid = .serializing serial request slot) :
    (system.serialize tid serial request slot).pool = system.pool := by
  rw [serialize, pool_setApi_of_slot_eq (by simp [hpc, ApiPc.slot])]
  cases request <;> rfl

/-- Every action of every thread is a move of the pool. -/
theorem pool_step {label : Label Tid} (hstep : system.step label = some next) :
    SlotPool.Step system.pool next.pool := by
  have hstay : next.pool = system.pool → SlotPool.Step system.pool next.pool := by
    intro heq
    rw [heq]
    exact .stay _
  cases label with
  | call tid request =>
      obtain ⟨hpc, rfl⟩ := step_call.mp hstep
      exact hstay (pool_call hpc)
  | lockSlot tid =>
      obtain ⟨serial, request, hpc, -, rfl⟩ := step_lockSlot.mp hstep
      exact pool_trySlot (by simp [hpc, ApiPc.slot])
  | spin tid =>
      obtain ⟨serial, request, hpc, rfl⟩ := step_spin.mp hstep
      exact pool_trySlot (by simp [hpc, ApiPc.slot])
  | serialize tid =>
      obtain ⟨serial, request, slot, hpc, rfl⟩ := step_serialize.mp hstep
      exact hstay (pool_serialize hpc)
  | enqueueWaiting tid =>
      obtain ⟨serial, request, slot, outgoing, hpc, -, rfl⟩ := step_enqueueWaiting.mp hstep
      exact hstay (pool_register hpc)
  | enqueueSlot tid =>
      obtain ⟨serial, slot, outgoing, hpc, -, rfl⟩ := step_enqueueSlot.mp hstep
      exact pool_enqueueSlot hpc
  | signalDisconnect =>
      obtain ⟨-, rfl⟩ := step_signalDisconnect.mp hstep
      exact hstay rfl
  | sessionTop =>
      obtain ⟨hpc, -, rfl⟩ := step_sessionTop.mp hstep
      exact pool_sessionTop hpc
  | sessionSend sent =>
      obtain ⟨slot, hpc, rfl⟩ := step_sessionSend.mp hstep
      exact hstay (by simp [pool, sessionSend, log, hpc, SessionPc.slot])
  | sessionRequeue =>
      obtain ⟨slot, hpc, -, rfl⟩ := step_sessionRequeue.mp hstep
      have hserving : system.pool.serving = some slot := by simp [pool, hpc, SessionPc.slot]
      have hpool : (system.sessionRequeue slot).pool
          = { system.pool with free := system.pool.free ++ [slot], serving := none } := by
        simp [pool, sessionRequeue, SessionPc.slot]
      rw [hpool]
      exact .release hserving
  | sessionReceive buffer size resp =>
      obtain ⟨hpc, rfl⟩ := step_sessionReceive.mp hstep
      exact hstay (pool_sessionReceive hpc)
  | sessionHandle =>
      obtain ⟨resp, hpc, -, rfl⟩ := step_sessionHandle.mp hstep
      exact hstay (pool_sessionHandle hpc)
  | sessionReply sent =>
      obtain ⟨reply, hpc, rfl⟩ := step_sessionReply.mp hstep
      exact hstay (pool_sessionReply hpc)
  | sessionRegister =>
      obtain ⟨waiting, hpc, -, rfl⟩ := step_sessionRegister.mp hstep
      exact hstay (by simp [pool, sessionRegister, enqueueWaiting, hpc, SessionPc.slot])

/-! ### Runs -/

theorem toList_foldl_enqueue (slots : List UInt16) (queue : LinkedQueue false UInt16) :
    (slots.foldl LinkedQueue.enqueue queue).toList = queue.toList ++ slots := by
  induction slots generalizing queue with
  | nil => simp
  | cons slot slots ih => simp [ih]

theorem nodup_slotIndices (bufferCount : UInt16) : (slotIndices bufferCount).Nodup := by
  refine List.Nodup.map_on ?_ List.nodup_range
  intro left hleft right hright heq
  have hcount := bufferCount.toNat_lt
  rw [List.mem_range] at hleft hright
  have hnat := congrArg UInt16.toNat heq
  rwa [UInt16.toNat_ofNat_of_lt' (show left < 2 ^ 16 by omega),
    UInt16.toNat_ofNat_of_lt' (show right < 2 ^ 16 by omega)] at hnat

theorem mem_slotIndices {bufferCount slot : UInt16} :
    slot ∈ slotIndices bufferCount ↔ slot < bufferCount := by
  simp only [slotIndices, List.mem_map, List.mem_range]
  constructor
  · rintro ⟨index, hindex, rfl⟩
    have hcount := bufferCount.toNat_lt
    rw [UInt16.lt_iff_toNat_lt, UInt16.toNat_ofNat_of_lt' (show index < 2 ^ 16 by omega)]
    exact hindex
  · intro hlt
    exact ⟨slot.toNat, UInt16.lt_iff_toNat_lt.mp hlt, UInt16.ofNat_toNat⟩

variable [Fintype Tid]

omit [DecidableEq Tid] in
theorem slots_init (client : Client) (bufferCount : UInt16) (bufferSize : Nat) :
    (init client bufferCount bufferSize : System Tid).pool.slots = slotIndices bufferCount := by
  simp [SlotPool.State.slots, pool, init, start, startSessionThread, toList_foldl_enqueue, ApiPc.slot,
    SessionPc.slot]

omit [DecidableEq Tid] in
theorem nodup_of_slots {bufferCount : UInt16}
    (hslots : system.pool.slots = ↑(slotIndices bufferCount)) : system.pool.slots.Nodup := by
  rw [hslots]
  exact Multiset.coe_nodup.mpr (nodup_slotIndices bufferCount)

/-- The pool of a running client is the pool it started with. -/
theorem slots_run {client : Client} {bufferCount : UInt16} {bufferSize : Nat}
    {labels : List (Label Tid)}
    (hrun : Run.exec step (init client bufferCount bufferSize) labels = some system) :
    system.pool.slots = slotIndices bufferCount := by
  refine Run.invariant (fun system : System Tid => system.pool.slots = ↑(slotIndices bufferCount)) ?_
    (slots_init client bufferCount bufferSize) hrun
  intro state label next hinv hstep
  rw [(pool_step hstep).slots_eq, hinv]

theorem nodup_run {client : Client} {bufferCount : UInt16} {bufferSize : Nat}
    {labels : List (Label Tid)}
    (hrun : Run.exec step (init client bufferCount bufferSize) labels = some system) :
    system.pool.slots.Nodup :=
  nodup_of_slots (slots_run hrun)

omit [Fintype Tid] in
theorem held_of_bufferSlots_ne {label : Label Tid} {slot : UInt16}
    (hstep : system.step label = some next)
    (hne : next.client.bufferSlots slot ≠ system.client.bufferSlots slot) :
    ∃ tid, system.pool.held tid = some slot := by
  obtain hsame | ⟨tid, serial, request, held, -, hpc, hwrite⟩ |
    ⟨tid, serial, held, outgoing, -, hpc, hwrite⟩ := bufferSlots_step hstep
  · exact absurd (congrFun hsame slot) hne
  all_goals
    refine ⟨tid, ?_⟩
    rw [hwrite] at hne
    obtain rfl : slot = held := by
      by_contra hother
      exact hne (Function.update_of_ne hother _ _)
    simp [pool, hpc, ApiPc.slot]

/-- **Slot pool conservation.** In every state that any interleaving reaches, each slot of the client
is in exactly one place, and so no step writes the buffer of a slot that is queued or being sent. -/
theorem slot_in_one_place {client : Client} {bufferCount : UInt16} {bufferSize : Nat}
    {labels : List (Label Tid)}
    (hrun : Run.exec step (init client bufferCount bufferSize) labels = some system) :
    (∀ slot, system.pool.slots.count slot = if slot < bufferCount then 1 else 0) ∧
      ∀ label next slot, system.step label = some next →
        next.client.bufferSlots slot ≠ system.client.bufferSlots slot →
        slot ∉ system.client.sendQueue.toList ∧ system.session.slot ≠ some slot := by
  constructor
  · intro slot
    rw [slots_run hrun, Multiset.coe_count]
    by_cases hlt : slot < bufferCount
    · rw [if_pos hlt]
      exact List.count_eq_one_of_mem (nodup_slotIndices bufferCount) (mem_slotIndices.mpr hlt)
    · rw [if_neg hlt]
      exact List.count_eq_zero_of_not_mem fun hmem => hlt (mem_slotIndices.mp hmem)
  · intro label next slot hstep hne
    obtain ⟨tid, hheld⟩ := held_of_bufferSlots_ne hstep hne
    exact ⟨SlotPool.State.held_notMem_queued (nodup_run hrun) hheld,
      SlotPool.State.held_ne_serving (nodup_run hrun) hheld⟩

theorem slot_in_one_place_while_sending : ∃ (labels : List (Label Bool)) (system : System Bool),
    Run.exec step (init (connectedClient zeroClient none 0) 2 1024) labels = some system ∧
      system.session.slot = some 0 ∧ system.pool.held true = some 1 ∧
      ∀ slot, system.pool.slots.count slot = if slot < 2 then 1 else 0 := by
  let start : System Bool := init (connectedClient zeroClient none 0) 2 1024
  let labels : List (Label Bool) := [.call false (.ping none 0), .lockSlot false, .serialize false,
    .call true (.ping none 0), .enqueueWaiting false, .lockSlot true, .enqueueSlot false, .sessionTop]
  obtain ⟨system, hrun⟩ : ∃ system, Run.exec step start labels = some system :=
    Option.isSome_iff_exists.mp (by decide)
  have hplaces : (Run.exec step start labels).map
      (fun system => (system.session.slot, system.pool.held true)) = some (some 0, some 1) := by
    decide
  rw [hrun] at hplaces
  obtain ⟨hserving, hheld⟩ := Prod.mk.inj (Option.some.inj hplaces)
  exact ⟨labels, system, hrun, hserving, hheld, (slot_in_one_place hrun).1⟩

end System

end Smqtt
