import Smqtt.Proof.Pool

/-!
# Frames in the order of their requests

What has been enqueued is what has been handed to the server, followed by what stands in the slot
being sent and in the queued slots. That the slots still hold what their callers wrote is where the
pool comes in: a caller writes only into a slot that it holds.
-/

namespace Smqtt

def Event.enqueuedFrame : Event → Option Outgoing
  | enqueued _ outgoing => some outgoing
  | _ => none

/-- What was handed over: what its caller had serialized, and the bytes. -/
def Event.handedFrame : Event → Option (Option Outgoing × List UInt8)
  | handed outgoing bytes => some (outgoing, bytes)
  | _ => none

/-- The slot of the frame that is about to be handed over. -/
def SessionPc.sendingSlot : SessionPc → List UInt16
  | sending slot => [slot]
  | _ => []

/-- The frame that an API thread has written into its slot. -/
def ApiPc.frame : ApiPc → Option (UInt16 × Outgoing)
  | registering _ _ slot outgoing => some (slot, outgoing)
  | enqueueing _ slot outgoing => some (slot, outgoing)
  | _ => none

namespace System

variable {Tid : Type}

def enqueuedFrames (system : System Tid) : List Outgoing :=
  system.events.filterMap Event.enqueuedFrame

def handedFrames (system : System Tid) : List (Option Outgoing × List UInt8) :=
  system.events.filterMap Event.handedFrame

/-- The slots whose frames are still to be handed over, in order. -/
def pendingSlots (system : System Tid) : List UInt16 :=
  system.session.sendingSlot ++ system.client.sendQueue.toList

theorem enqueuedFrames_log (system : System Tid) (events : List Event) :
    (system.log events).enqueuedFrames
      = system.enqueuedFrames ++ events.filterMap Event.enqueuedFrame := List.filterMap_append

theorem handedFrames_log (system : System Tid) (events : List Event) :
    (system.log events).handedFrames
      = system.handedFrames ++ events.filterMap Event.handedFrame := List.filterMap_append

theorem Outcome.frames_eq_nil {outcome : SessionPc × List Event} (houtcome : Outcome outcome) :
    outcome.2.filterMap Event.enqueuedFrame = [] ∧ outcome.2.filterMap Event.handedFrame = [] ∧
      outcome.1.sendingSlot = [] := by
  cases houtcome <;> exact ⟨rfl, rfl, rfl⟩

theorem slot_of_sendingSlot {session : SessionPc} {slot : UInt16}
    (hmem : slot ∈ session.sendingSlot) : session.slot = some slot := by
  cases session <;> simp_all [SessionPc.sendingSlot, SessionPc.slot]

theorem slot_of_frame {pc : ApiPc} {slot : UInt16} {outgoing : Outgoing}
    (hframe : pc.frame = some (slot, outgoing)) : pc.slot = some slot := by
  cases pc <;> simp_all [ApiPc.frame, ApiPc.slot]

/-! ### What a step does to the frames -/

/-- A step that leaves the frames alone. -/
structure Quiet (system next : System Tid) : Prop where
  enqueued : next.enqueuedFrames = system.enqueuedFrames
  handed : next.handedFrames = system.handedFrames
  pending : next.pendingSlots = system.pendingSlots
  serialized : next.serialized = system.serialized
  bufferSlots : next.client.bufferSlots = system.client.bufferSlots
  frame : ∀ tid, (next.api tid).frame = (system.api tid).frame ∨ (next.api tid).frame = none

variable {system next : System Tid} {tid : Tid}

theorem quiet_sessionTop (hpc : system.session = .top) : Quiet system system.sessionTop := by
  have hpending : system.pendingSlots = system.client.sendQueue.toList := by
    simp [pendingSlots, hpc, SessionPc.sendingSlot]
  obtain ⟨-, htop⟩ | ⟨-, -, htop⟩ | ⟨slot, rest, -, hqueue, htop⟩ := system.sessionTop_cases
  · rw [htop]
    exact ⟨rfl, rfl, hpending.symm, rfl, rfl, fun tid => .inl rfl⟩
  · rw [htop]
    exact ⟨rfl, rfl, hpending.symm, rfl, rfl, fun tid => .inl rfl⟩
  · rw [htop]
    refine ⟨rfl, rfl, ?_, rfl, rfl, fun tid => .inl rfl⟩
    rw [hpending, hqueue]
    simp [pendingSlots, hqueue, SessionPc.sendingSlot]

theorem quiet_sessionReceive {buffer : Memory} {size : Int} {resp : Option Response}
    (hpc : system.session = .receiving) :
    Quiet system (system.sessionReceive buffer size resp) := by
  have hpending : system.pendingSlots = system.client.sendQueue.toList := by
    simp [pendingSlots, hpc, SessionPc.sendingSlot]
  unfold sessionReceive
  split
  · cases resp with
    | none => exact ⟨rfl, rfl, hpending.symm, rfl, rfl, fun tid => .inl rfl⟩
    | some resp =>
        refine ⟨?_, ?_, hpending.symm, rfl, rfl, fun tid => .inl rfl⟩
        · simp [enqueuedFrames, log, Event.enqueuedFrame]
        · simp [handedFrames, log, Event.handedFrame]
  · exact ⟨rfl, rfl, hpending.symm, rfl, rfl, fun tid => .inl rfl⟩

theorem quiet_sessionHandle {resp : Response} (hpc : system.session = .handling resp) :
    Quiet system (system.sessionHandle resp) := by
  obtain ⟨ackQueue, hclient⟩ := handleResponse_client system.client resp
  obtain ⟨henqueued, hhanded, hsending⟩ :=
    (handleResponse_outcome system.client resp).frames_eq_nil
  have hbefore : system.session.sendingSlot = [] := by
    rw [hpc]
    rfl
  refine ⟨?_, ?_, ?_, rfl, ?_, fun tid => .inl rfl⟩
  · simp [enqueuedFrames, sessionHandle, log, henqueued]
  · simp [handedFrames, sessionHandle, log, hhanded]
  · simp [pendingSlots, sessionHandle, log, hclient, hsending, hbefore]
  · simp [sessionHandle, log, hclient]

theorem quiet_sessionReply {reply : Reply} {sent : Bool} (hpc : system.session = .replying reply) :
    Quiet system (system.sessionReply reply sent) := by
  have hbefore : system.session.sendingSlot = [] := by
    rw [hpc]
    rfl
  have hnil := fun client => (afterReply_outcome client reply sent).frames_eq_nil
  refine ⟨?_, ?_, ?_, rfl, rfl, fun tid => .inl rfl⟩
  · rw [sessionReply, enqueuedFrames_log, List.filterMap_cons_none rfl, (hnil _).1, List.append_nil]
    rfl
  · rw [sessionReply, handedFrames_log, List.filterMap_cons_none rfl, (hnil _).2.1, List.append_nil]
    rfl
  · simp [pendingSlots, sessionReply, log, (hnil _).2.2, hbefore]

variable [DecidableEq Tid]

theorem frame_setApi {pc : ApiPc} (system : System Tid) (tid other : Tid)
    (hpc : pc.frame = (system.api tid).frame ∨ pc.frame = none) :
    ((system.setApi tid pc).api other).frame = (system.api other).frame ∨
      ((system.setApi tid pc).api other).frame = none := by
  by_cases heq : other = tid
  · subst heq
    simpa [setApi] using hpc
  · simp [setApi, heq]

theorem quiet_call (system : System Tid) (tid : Tid) (request : Request) :
    Quiet system (system.call tid request) := by
  cases hrefused : request.refused system.client with
  | some status =>
      rw [call_of_refused hrefused]
      refine ⟨?_, ?_, rfl, rfl, rfl, fun other => .inl rfl⟩
      · simp [enqueuedFrames, Event.enqueuedFrame]
      · simp [handedFrames, Event.handedFrame]
  | none =>
      rw [call_of_accepted hrefused]
      refine ⟨?_, ?_, rfl, rfl, rfl, fun other => frame_setApi _ tid other (.inr rfl)⟩
      · simp [enqueuedFrames, setApi, Event.enqueuedFrame]
      · simp [handedFrames, setApi, Event.handedFrame]

theorem quiet_trySlot (system : System Tid) (tid : Tid) (serial : Nat) (request : Request) :
    Quiet system (system.trySlot tid serial request) := by
  cases hfree : system.client.freeQueue.toList with
  | nil =>
      rw [trySlot_of_nil hfree]
      exact ⟨rfl, rfl, rfl, rfl, rfl, fun other => frame_setApi _ tid other (.inr rfl)⟩
  | cons slot rest =>
      rw [trySlot_of_cons hfree]
      exact ⟨rfl, rfl, rfl, rfl, rfl, fun other => frame_setApi _ tid other (.inr rfl)⟩

theorem quiet_register {serial : Nat} {request : Request} {slot : UInt16} {outgoing : Outgoing}
    (hpc : system.api tid = .registering serial request slot outgoing) :
    Quiet system (system.register tid serial request slot outgoing) := by
  have hqueue : (request.register system.client serial).sendQueue = system.client.sendQueue := by
    obtain ⟨ackQueue, publishPacketId, hclient⟩ := Request.register_client system.client serial request
    rw [hclient]
  have hquiet : ∀ waiting : Option Waiting,
      (waiting.toList.map Event.registered).filterMap Event.enqueuedFrame = [] ∧
        (waiting.toList.map Event.registered).filterMap Event.handedFrame = [] := by
    intro waiting
    cases waiting <;> exact ⟨rfl, rfl⟩
  refine ⟨?_, ?_, ?_, rfl, ?_, fun other => frame_setApi _ tid other (.inl ?_)⟩
  · rw [register, enqueuedFrames_log, (hquiet _).1, List.append_nil]
    rfl
  · rw [register, handedFrames_log, (hquiet _).2, List.append_nil]
    rfl
  · simp [pendingSlots, register, setApi, log, hqueue]
  · exact Request.bufferSlots_register system.client serial request
  · simp [hpc, ApiPc.frame]

/-- A frame is written into a slot, queued, or handed over; every other step is quiet. -/
theorem frames_step {label : Label Tid} (hstep : system.step label = some next) :
    Quiet system next ∨
      (∃ tid serial request slot, label = .serialize tid ∧
        system.api tid = .serializing serial request slot ∧
        system.serialize tid serial request slot = next) ∨
      (∃ tid serial slot outgoing, label = .enqueueSlot tid ∧
        system.api tid = .enqueueing serial slot outgoing ∧
        system.enqueueSlot tid serial slot outgoing = next) ∨
      ∃ slot sent, label = .sessionSend sent ∧ system.session = .sending slot ∧
        system.sessionSend slot = next := by
  cases label with
  | call tid request =>
      obtain ⟨-, rfl⟩ := step_call.mp hstep
      exact .inl (quiet_call system tid request)
  | lockSlot tid =>
      obtain ⟨serial, request, -, -, rfl⟩ := step_lockSlot.mp hstep
      exact .inl (quiet_trySlot system tid serial request)
  | spin tid =>
      obtain ⟨serial, request, -, rfl⟩ := step_spin.mp hstep
      exact .inl (quiet_trySlot system tid serial request)
  | serialize tid =>
      obtain ⟨serial, request, slot, hpc, hnext⟩ := step_serialize.mp hstep
      exact .inr (.inl ⟨tid, serial, request, slot, rfl, hpc, hnext⟩)
  | enqueueWaiting tid =>
      obtain ⟨serial, request, slot, outgoing, hpc, -, rfl⟩ := step_enqueueWaiting.mp hstep
      exact .inl (quiet_register hpc)
  | enqueueSlot tid =>
      obtain ⟨serial, slot, outgoing, hpc, -, hnext⟩ := step_enqueueSlot.mp hstep
      exact .inr (.inr (.inl ⟨tid, serial, slot, outgoing, rfl, hpc, hnext⟩))
  | signalDisconnect =>
      obtain ⟨-, rfl⟩ := step_signalDisconnect.mp hstep
      exact .inl ⟨rfl, rfl, rfl, rfl, rfl, fun tid => .inl rfl⟩
  | sessionTop =>
      obtain ⟨hpc, -, rfl⟩ := step_sessionTop.mp hstep
      exact .inl (quiet_sessionTop hpc)
  | sessionSend sent =>
      obtain ⟨slot, hpc, hnext⟩ := step_sessionSend.mp hstep
      exact .inr (.inr (.inr ⟨slot, sent, rfl, hpc, hnext⟩))
  | sessionRequeue =>
      obtain ⟨slot, hpc, -, rfl⟩ := step_sessionRequeue.mp hstep
      refine .inl ⟨rfl, rfl, ?_, rfl, rfl, fun tid => .inl rfl⟩
      simp [pendingSlots, sessionRequeue, hpc, SessionPc.sendingSlot]
  | sessionReceive buffer size resp =>
      obtain ⟨hpc, rfl⟩ := step_sessionReceive.mp hstep
      exact .inl (quiet_sessionReceive hpc)
  | sessionHandle =>
      obtain ⟨resp, hpc, -, rfl⟩ := step_sessionHandle.mp hstep
      exact .inl (quiet_sessionHandle hpc)
  | sessionReply sent =>
      obtain ⟨reply, hpc, rfl⟩ := step_sessionReply.mp hstep
      exact .inl (quiet_sessionReply hpc)
  | sessionRegister =>
      obtain ⟨waiting, hpc, -, rfl⟩ := step_sessionRegister.mp hstep
      refine .inl ⟨rfl, rfl, ?_, rfl, rfl, fun tid => .inl rfl⟩
      simp [pendingSlots, sessionRegister, enqueueWaiting, hpc, SessionPc.sendingSlot]

/-! ### The order of the frames -/

/-- Frames leave in the order in which they came, and the threads' frames stand in their slots. -/
structure InOrder (system : System Tid) : Prop where
  order : system.enqueuedFrames.map some
    = system.handedFrames.map Prod.fst ++ system.pendingSlots.map system.serialized
  written : ∀ tid slot outgoing, (system.api tid).frame = some (slot, outgoing) →
    system.serialized slot = some outgoing

omit [DecidableEq Tid] in
theorem InOrder.quiet (hinv : system.InOrder) (hquiet : Quiet system next) : next.InOrder := by
  refine ⟨?_, ?_⟩
  · rw [hquiet.enqueued, hquiet.handed, hquiet.pending, hquiet.serialized]
    exact hinv.order
  · intro tid slot outgoing hnext
    rw [hquiet.serialized]
    obtain hsame | hnone := hquiet.frame tid
    · exact hinv.written tid slot outgoing (hsame ▸ hnext)
    · simp [hnone] at hnext

omit [DecidableEq Tid] in
theorem InOrder.sessionSend {slot : UInt16} (hinv : system.InOrder)
    (hpc : system.session = .sending slot) : (system.sessionSend slot).InOrder := by
  refine ⟨?_, hinv.written⟩
  have henqueued : (system.sessionSend slot).enqueuedFrames = system.enqueuedFrames := by
    simp [enqueuedFrames, System.sessionSend, log, Event.enqueuedFrame]
  have hhanded : (system.sessionSend slot).handedFrames
      = system.handedFrames ++ [(system.serialized slot, slotBytes system.client slot)] := by
    simp [handedFrames, System.sessionSend, log, Event.handedFrame]
  have hpending : system.pendingSlots = slot :: (system.sessionSend slot).pendingSlots := by
    simp [pendingSlots, System.sessionSend, log, hpc, SessionPc.sendingSlot]
  rw [henqueued, hhanded, hinv.order, hpending]
  simp [System.sessionSend, log]

theorem InOrder.enqueueSlot {serial : Nat} {slot : UInt16} {outgoing : Outgoing}
    (hinv : system.InOrder) (hpc : system.api tid = .enqueueing serial slot outgoing) :
    (system.enqueueSlot tid serial slot outgoing).InOrder := by
  have hwritten := hinv.written tid slot outgoing (by simp [hpc, ApiPc.frame])
  refine ⟨?_, ?_⟩
  · have henqueued : (system.enqueueSlot tid serial slot outgoing).enqueuedFrames
        = system.enqueuedFrames ++ [outgoing] := by
      simp [enqueuedFrames, System.enqueueSlot, setApi, log, Event.enqueuedFrame]
    have hhanded : (system.enqueueSlot tid serial slot outgoing).handedFrames
        = system.handedFrames := by
      simp [handedFrames, System.enqueueSlot, setApi, log, Event.handedFrame]
    have hpending : (system.enqueueSlot tid serial slot outgoing).pendingSlots
        = system.pendingSlots ++ [slot] := by
      simp [pendingSlots, System.enqueueSlot, setApi, log, enqueueSlotForSend]
    rw [henqueued, hhanded, hpending, List.map_append, hinv.order]
    simp [System.enqueueSlot, setApi, log, hwritten]
  · intro other otherSlot otherOutgoing hframe
    by_cases heq : other = tid
    · subst heq
      simp [System.enqueueSlot, setApi, log, ApiPc.frame] at hframe
    · refine hinv.written other otherSlot otherOutgoing ?_
      simpa [System.enqueueSlot, setApi, log, heq] using hframe

section Slots

variable [Fintype Tid]

omit [DecidableEq Tid] in
theorem ne_of_mem_pendingSlots {slot other : UInt16} (hnodup : system.pool.slots.Nodup)
    (hheld : system.pool.held tid = some slot) (hmem : other ∈ system.pendingSlots) :
    other ≠ slot := by
  rintro rfl
  obtain hsending | hqueued := List.mem_append.mp hmem
  · exact SlotPool.State.held_ne_serving hnodup hheld (slot_of_sendingSlot hsending)
  · exact SlotPool.State.held_notMem_queued hnodup hheld hqueued

omit [Fintype Tid] in
theorem pendingSlots_serialize {serial : Nat} {request : Request} {slot : UInt16} :
    (system.serialize tid serial request slot).pendingSlots = system.pendingSlots := by
  have hqueue : (request.afterSerialize (serializeInto system.client slot
      (request.outgoing system.client).bytes)).sendQueue = system.client.sendQueue := by
    cases request <;> rfl
  simp [pendingSlots, System.serialize, setApi, hqueue]

/-- The frames that the threads have written, after one of them has serialized another. -/
theorem frame_serialize {serial : Nat} {request : Request} {slot otherSlot : UInt16} {other : Tid}
    {outgoing : Outgoing} (hnodup : system.pool.slots.Nodup)
    (hpc : system.api tid = .serializing serial request slot)
    (hframe : ((system.serialize tid serial request slot).api other).frame
      = some (otherSlot, outgoing)) :
    otherSlot = slot ∧ outgoing = request.outgoing system.client ∨
      otherSlot ≠ slot ∧ (system.api other).frame = some (otherSlot, outgoing) := by
  by_cases heq : other = tid
  · subst heq
    obtain ⟨rfl, rfl⟩ : slot = otherSlot ∧ request.outgoing system.client = outgoing := by
      simpa [System.serialize, setApi, ApiPc.frame] using hframe
    exact .inl ⟨rfl, rfl⟩
  · have hheld : system.pool.held tid = some slot := by simp [pool, hpc, ApiPc.slot]
    have hbefore : (system.api other).frame = some (otherSlot, outgoing) := by
      simpa [System.serialize, setApi, heq] using hframe
    refine .inr ⟨?_, hbefore⟩
    rintro rfl
    exact SlotPool.State.held_ne_held hnodup (Ne.symm heq) hheld (slot_of_frame hbefore)

theorem InOrder.serialize {serial : Nat} {request : Request} {slot : UInt16} (hinv : system.InOrder)
    (hnodup : system.pool.slots.Nodup) (hpc : system.api tid = .serializing serial request slot) :
    (system.serialize tid serial request slot).InOrder := by
  have hheld : system.pool.held tid = some slot := by simp [pool, hpc, ApiPc.slot]
  refine ⟨?_, ?_⟩
  · rw [pendingSlots_serialize]
    refine hinv.order.trans
      (congrArg (system.handedFrames.map Prod.fst ++ ·) (List.map_congr_left ?_))
    intro other hmem
    exact (Function.update_of_ne (ne_of_mem_pendingSlots hnodup hheld hmem) _ _).symm
  · intro other otherSlot outgoing hframe
    obtain ⟨rfl, rfl⟩ | ⟨hne, hbefore⟩ := frame_serialize hnodup hpc hframe
    · simp [System.serialize, setApi]
    · have hwritten := hinv.written other otherSlot outgoing hbefore
      simpa [System.serialize, setApi, hne] using hwritten

theorem inOrder_step {label : Label Tid} (hinv : system.InOrder)
    (hnodup : system.pool.slots.Nodup) (hstep : system.step label = some next) : next.InOrder := by
  obtain hquiet | ⟨tid, serial, request, slot, -, hpc, rfl⟩ |
    ⟨tid, serial, slot, outgoing, -, hpc, rfl⟩ | ⟨slot, sent, -, hpc, rfl⟩ := frames_step hstep
  · exact hinv.quiet hquiet
  · exact hinv.serialize hnodup hpc
  · exact hinv.enqueueSlot hpc
  · exact hinv.sessionSend hpc

omit [DecidableEq Tid] [Fintype Tid] in
theorem inOrder_init (client : Client) (bufferCount : UInt16) (bufferSize : Nat) :
    (init client bufferCount bufferSize : System Tid).InOrder :=
  ⟨rfl, by simp [init, start, ApiPc.frame]⟩

/-- The order of the frames rests on the slots being apart. -/
theorem pooled_step {bufferCount : UInt16} {label : Label Tid}
    (hpooled : system.pool.slots = ↑(slotIndices bufferCount) ∧ system.InOrder)
    (hstep : system.step label = some next) :
    next.pool.slots = ↑(slotIndices bufferCount) ∧ next.InOrder :=
  ⟨(pool_step hstep).slots_eq.trans hpooled.1,
    inOrder_step hpooled.2 (nodup_of_slots hpooled.1) hstep⟩

omit [DecidableEq Tid] in
theorem pooled_init (client : Client) (bufferCount : UInt16) (bufferSize : Nat) :
    (init client bufferCount bufferSize : System Tid).pool.slots = ↑(slotIndices bufferCount) ∧
      (init client bufferCount bufferSize : System Tid).InOrder :=
  ⟨slots_init client bufferCount bufferSize, inOrder_init client bufferCount bufferSize⟩

theorem inOrder_run {client : Client} {bufferCount : UInt16} {bufferSize : Nat}
    {labels : List (Label Tid)}
    (hrun : Run.exec step (init client bufferCount bufferSize) labels = some system) :
    system.InOrder := by
  obtain ⟨-, horder⟩ := Run.invariant (fun system : System Tid =>
    system.pool.slots = ↑(slotIndices bufferCount) ∧ system.InOrder)
    (fun _ _ _ hpooled hstep => pooled_step hpooled hstep)
    (pooled_init client bufferCount bufferSize) hrun
  exact horder

/-! ### The bytes in the slots -/

/-- The frame that a step serializes. -/
def frameOf (system : System Tid) : Label Tid → Option Outgoing
  | .serialize tid =>
      match system.api tid with
      | .serializing _ request _ => some (request.outgoing system.client)
      | _ => none
  | _ => none

/-- A frame that is serialized fits into its slot. -/
def FrameFits (bufferSize : Nat) (system : System Tid) (label : Label Tid) : Prop :=
  ∀ outgoing ∈ system.frameOf label, outgoing.bytes.length ≤ bufferSize

instance (bufferSize : Nat) (system : System Tid) (label : Label Tid) :
    Decidable (FrameFits bufferSize system label) :=
  inferInstanceAs (Decidable (∀ outgoing ∈ system.frameOf label, outgoing.bytes.length ≤ bufferSize))

/-- The bytes of every frame are where they were written, from the serialization to the send. -/
structure Kept (system : System Tid) : Prop where
  written : ∀ tid slot outgoing, (system.api tid).frame = some (slot, outgoing) →
    (system.client.bufferSlots slot).buffer.Holds 0 outgoing.bytes ∧ outgoing.bytes.length < 2 ^ 16
  pending : ∀ slot ∈ system.pendingSlots, ∃ outgoing, system.serialized slot = some outgoing ∧
    slotBytes system.client slot = outgoing.bytes
  handed : ∀ frame ∈ system.handedFrames, ∃ outgoing, frame = (some outgoing, outgoing.bytes)

omit [DecidableEq Tid] [Fintype Tid] in
theorem slotBytes_congr {client other : Client} {slot : UInt16}
    (hslot : client.bufferSlots slot = other.bufferSlots slot) :
    slotBytes client slot = slotBytes other slot := by
  rw [slotBytes, slotBytes, hslot]

omit [DecidableEq Tid] [Fintype Tid] in
theorem Kept.quiet (hinv : system.Kept) (hquiet : Quiet system next) : next.Kept := by
  refine ⟨?_, ?_, ?_⟩
  · intro tid slot outgoing hnext
    rw [hquiet.bufferSlots]
    obtain hsame | hnone := hquiet.frame tid
    · exact hinv.written tid slot outgoing (hsame ▸ hnext)
    · simp [hnone] at hnext
  · intro slot hmem
    rw [hquiet.pending] at hmem
    rw [hquiet.serialized, slotBytes_congr (congrFun hquiet.bufferSlots slot)]
    exact hinv.pending slot hmem
  · rw [hquiet.handed]
    exact hinv.handed

omit [DecidableEq Tid] [Fintype Tid] in
theorem Kept.sessionSend {slot : UInt16} (hinv : system.Kept)
    (hpc : system.session = .sending slot) : (system.sessionSend slot).Kept := by
  have hpending : system.pendingSlots = slot :: (system.sessionSend slot).pendingSlots := by
    simp [pendingSlots, System.sessionSend, log, hpc, SessionPc.sendingSlot]
  have hhanded : (system.sessionSend slot).handedFrames
      = system.handedFrames ++ [(system.serialized slot, slotBytes system.client slot)] := by
    simp [handedFrames, System.sessionSend, log, Event.handedFrame]
  refine ⟨hinv.written, ?_, ?_⟩
  · intro other hmem
    exact hinv.pending other (hpending ▸ List.mem_cons_of_mem _ hmem)
  · intro frame hmem
    rw [hhanded, List.mem_append, List.mem_singleton] at hmem
    obtain hmem | rfl := hmem
    · exact hinv.handed frame hmem
    · obtain ⟨outgoing, hserialized, hbytes⟩ := hinv.pending slot (hpending ▸ List.mem_cons_self)
      exact ⟨outgoing, by rw [hserialized, hbytes]⟩

theorem Kept.serialize {serial : Nat} {request : Request} {slot : UInt16} (hinv : system.Kept)
    (hnodup : system.pool.slots.Nodup) (hpc : system.api tid = .serializing serial request slot)
    (hlength : (request.outgoing system.client).bytes.length < 2 ^ 16) :
    (system.serialize tid serial request slot).Kept := by
  have hheld : system.pool.held tid = some slot := by simp [pool, hpc, ApiPc.slot]
  have hslots : (system.serialize tid serial request slot).client.bufferSlots
      = (serializeInto system.client slot (request.outgoing system.client).bytes).bufferSlots :=
    Request.bufferSlots_afterSerialize _ request
  refine ⟨?_, ?_, hinv.handed⟩
  · intro other otherSlot outgoing hframe
    rw [hslots]
    obtain ⟨rfl, rfl⟩ | ⟨hne, hbefore⟩ := frame_serialize hnodup hpc hframe
    · refine ⟨?_, hlength⟩
      simpa [serializeInto] using Memory.holds_write _ _
    · simpa [serializeInto, hne] using hinv.written other otherSlot outgoing hbefore
  · intro other hmem
    rw [pendingSlots_serialize] at hmem
    have hne := ne_of_mem_pendingSlots hnodup hheld hmem
    obtain ⟨outgoing, hserialized, hbytes⟩ := hinv.pending other hmem
    refine ⟨outgoing, by simpa [System.serialize, setApi, hne] using hserialized, ?_⟩
    rw [← hbytes]
    apply slotBytes_congr
    rw [hslots]
    exact Function.update_of_ne hne _ _

theorem Kept.enqueueSlot {serial : Nat} {slot : UInt16} {outgoing : Outgoing} (hinv : system.Kept)
    (horder : system.InOrder) (hnodup : system.pool.slots.Nodup)
    (hpc : system.api tid = .enqueueing serial slot outgoing) :
    (system.enqueueSlot tid serial slot outgoing).Kept := by
  have hframe : (system.api tid).frame = some (slot, outgoing) := by simp [hpc, ApiPc.frame]
  have hheld : system.pool.held tid = some slot := slot_of_frame hframe
  obtain ⟨hholds, hlength⟩ := hinv.written tid slot outgoing hframe
  refine ⟨?_, ?_, ?_⟩
  · intro other otherSlot otherOutgoing hother
    have hbefore : (system.api other).frame = some (otherSlot, otherOutgoing) := by
      by_cases heq : other = tid
      · subst heq
        simp [System.enqueueSlot, setApi, log, ApiPc.frame] at hother
      · simpa [System.enqueueSlot, setApi, log, heq] using hother
    have hbuffer : ((system.enqueueSlot tid serial slot outgoing).client.bufferSlots
        otherSlot).buffer = (system.client.bufferSlots otherSlot).buffer := by
      by_cases heq : otherSlot = slot
      · subst heq
        simp [System.enqueueSlot, setApi, log, enqueueSlotForSend]
      · simp [System.enqueueSlot, setApi, log, enqueueSlotForSend, heq]
    rw [hbuffer]
    exact hinv.written other otherSlot otherOutgoing hbefore
  · intro other hmem
    have hpending : (system.enqueueSlot tid serial slot outgoing).pendingSlots
        = system.pendingSlots ++ [slot] := by
      simp [pendingSlots, System.enqueueSlot, setApi, log, enqueueSlotForSend]
    rw [hpending, List.mem_append, List.mem_singleton] at hmem
    obtain hmem | rfl := hmem
    · obtain ⟨original, hserialized, hbytes⟩ := hinv.pending other hmem
      refine ⟨original, hserialized, ?_⟩
      rw [← hbytes]
      exact slotBytes_congr (Function.update_of_ne (ne_of_mem_pendingSlots hnodup hheld hmem) _ _)
    · refine ⟨outgoing, horder.written tid other outgoing hframe, ?_⟩
      have hslice := hholds.slice_eq
      simpa [slotBytes, System.enqueueSlot, setApi, log, enqueueSlotForSend,
        UInt16.toNat_ofNat_of_lt' hlength] using hslice
  · intro frame hmem
    refine hinv.handed frame ?_
    simpa [handedFrames, System.enqueueSlot, setApi, log, Event.handedFrame] using hmem

theorem kept_step {label : Label Tid} {bufferSize : Nat} (hinv : system.Kept)
    (horder : system.InOrder) (hnodup : system.pool.slots.Nodup) (hsize : bufferSize < 2 ^ 16)
    (hfits : FrameFits bufferSize system label) (hstep : system.step label = some next) :
    next.Kept := by
  obtain hquiet | ⟨tid, serial, request, slot, hlabel, hpc, rfl⟩ |
    ⟨tid, serial, slot, outgoing, -, hpc, rfl⟩ | ⟨slot, sent, -, hpc, rfl⟩ := frames_step hstep
  · exact hinv.quiet hquiet
  · have hlength : (request.outgoing system.client).bytes.length ≤ bufferSize := by
      simpa [FrameFits, hlabel, frameOf, hpc] using hfits
    exact hinv.serialize hnodup hpc (by omega)
  · exact hinv.enqueueSlot horder hnodup hpc
  · exact hinv.sessionSend hpc

/-- **Send order and content.** Whatever the interleaving, the frames handed to the server are the
first ones of those enqueued, byte for byte, as long as every frame fits into its slot. -/
theorem handed_prefix_enqueued {client : Client} {bufferCount : UInt16} {bufferSize : Nat}
    {labels : List (Label Tid)} (hsize : bufferSize < 2 ^ 16)
    (hfits : Run.Along step (FrameFits bufferSize) (init client bufferCount bufferSize) labels)
    (hrun : Run.exec step (init client bufferCount bufferSize) labels = some system) :
    system.handedFrames.map Prod.snd <+: system.enqueuedFrames.map Outgoing.bytes := by
  have hkept : (init client bufferCount bufferSize : System Tid).Kept :=
    ⟨by simp [init, start, ApiPc.frame],
      by simp [init, start, startSessionThread, pendingSlots, SessionPc.sendingSlot],
      by simp [init, start, handedFrames]⟩
  obtain ⟨⟨-, horder⟩, hkept⟩ := Run.invariant_along (fun system : System Tid =>
    (system.pool.slots = ↑(slotIndices bufferCount) ∧ system.InOrder) ∧ system.Kept) (by
      rintro state label next ⟨hpooled, hkept⟩ hfits hstep
      have hnodup := nodup_of_slots hpooled.1
      exact ⟨pooled_step hpooled hstep, kept_step hkept hpooled.2 hnodup hsize hfits hstep⟩)
    ⟨pooled_init client bufferCount bufferSize, hkept⟩ hfits hrun
  have hframes : system.handedFrames.map Prod.fst <+: system.enqueuedFrames.map some :=
    ⟨_, horder.order.symm⟩
  have hbytes : system.handedFrames.map Prod.snd
      = (system.handedFrames.map Prod.fst).map fun frame => frame.elim [] Outgoing.bytes := by
    rw [List.map_map]
    refine List.map_congr_left fun frame hmem => ?_
    obtain ⟨outgoing, rfl⟩ := hkept.handed frame hmem
    rfl
  rw [hbytes]
  have hmapped := hframes.map fun frame => frame.elim [] Outgoing.bytes
  simpa [Function.comp_def] using hmapped

theorem handed_prefix_with_reuse : ∃ (labels : List (Label Bool)) (system : System Bool),
    Run.exec step (init (connectedClient zeroClient none 0) 1 1024) labels = some system ∧
      system.handedFrames.length = 1 ∧ system.enqueuedFrames.length = 2 ∧
      system.handedFrames.map Prod.snd <+: system.enqueuedFrames.map Outgoing.bytes := by
  let start : System Bool := init (connectedClient zeroClient none 0) 1 1024
  let topic : CString := ⟨[116], by decide⟩
  let labels : List (Label Bool) :=
    [.call false (.ping none 0), .lockSlot false, .serialize false, .enqueueWaiting false,
      .enqueueSlot false, .sessionTop, .sessionSend true, .sessionRequeue,
      .call true (.publish topic (some topic) QoS1 false none 0), .lockSlot true, .serialize true,
      .enqueueWaiting true, .enqueueSlot true]
  obtain ⟨system, hrun⟩ : ∃ system, Run.exec step start labels = some system :=
    Option.isSome_iff_exists.mp (by decide)
  have hcounts : (Run.exec step start labels).map
      (fun system => (system.handedFrames.length, system.enqueuedFrames.length)) = some (1, 2) := by
    decide
  rw [hrun] at hcounts
  obtain ⟨hhanded, henqueued⟩ := Prod.mk.inj (Option.some.inj hcounts)
  have hfits : Run.Along step (FrameFits 1024) start labels := by decide
  exact ⟨labels, system, hrun, hhanded, henqueued,
    handed_prefix_enqueued (by decide) hfits hrun⟩

end Slots

end System

end Smqtt
