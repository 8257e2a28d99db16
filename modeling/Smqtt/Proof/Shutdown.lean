import Smqtt.Proof.SendOrder
import Smqtt.Shutdown

/-!
# What a disconnect leaves behind

Once the flag is set the session thread takes nothing out of `send_queue` any more: it finishes the
iteration it is in and ends. So what is queued when the flag is set, or later, is never sent, and
everything else has been handed to the server when the DISCONNECT frame goes out.
-/

namespace Smqtt

namespace System

variable {Tid : Type} [DecidableEq Tid] {system next : System Tid}

theorem ready_step {label : Label Tid} (hready : system.client.readyToDisconnect = true)
    (hstep : system.step label = some next) : next.client.readyToDisconnect = true := by
  cases label with
  | call tid request =>
      obtain ⟨-, rfl⟩ := step_call.mp hstep
      cases hrefused : request.refused system.client with
      | some status =>
          rw [call_of_refused hrefused]
          exact hready
      | none =>
          rw [call_of_accepted hrefused]
          exact hready
  | lockSlot tid =>
      obtain ⟨serial, request, -, -, rfl⟩ := step_lockSlot.mp hstep
      exact (trySlot_sendQueue system tid serial request).2.trans hready
  | spin tid =>
      obtain ⟨serial, request, -, rfl⟩ := step_spin.mp hstep
      exact (trySlot_sendQueue system tid serial request).2.trans hready
  | serialize tid =>
      obtain ⟨serial, request, slot, -, rfl⟩ := step_serialize.mp hstep
      cases request <;> exact hready
  | enqueueWaiting tid =>
      obtain ⟨serial, request, slot, outgoing, -, -, rfl⟩ := step_enqueueWaiting.mp hstep
      exact (register_sendQueue system.client serial request).2.trans hready
  | enqueueSlot tid =>
      obtain ⟨serial, slot, outgoing, -, -, rfl⟩ := step_enqueueSlot.mp hstep
      exact hready
  | signalDisconnect =>
      obtain ⟨-, rfl⟩ := step_signalDisconnect.mp hstep
      rfl
  | _ =>
      obtain ⟨_, _, _, _, hclient⟩ := (sessionFrame_step rfl hstep).client
      rw [hclient]
      exact hready

/-- With the flag set, only a call that queues its frame changes `send_queue`. -/
theorem sendQueue_of_ready {label : Label Tid} (hready : system.client.readyToDisconnect = true)
    (hstep : system.step label = some next) :
    (∀ tid, label ≠ .enqueueSlot tid) ∧ next.client.sendQueue = system.client.sendQueue ∨
      ∃ tid slot, label = .enqueueSlot tid ∧
        next.client.sendQueue = system.client.sendQueue.enqueue slot := by
  obtain ⟨tid, -, slot, -, hlabel, -, hqueue⟩ | ⟨hother, hsame | ⟨hunready, -⟩⟩ :=
    sendQueue_step hstep
  · exact .inr ⟨tid, slot, hlabel, hqueue⟩
  · exact .inl ⟨hother, hsame⟩
  · rw [hready] at hunready
    cases hunready

theorem ended_step {label : Label Tid} (hstep : system.step label = some next)
    (hended : system.session = .ended) : next.session = .ended := by
  by_cases hlabel : label.isSession
  · cases label <;> simp [Label.isSession] at hlabel <;> simp [step, hended] at hstep
  · rw [(apiFrame_step hlabel hstep).session, hended]

end System

namespace Shutdown

variable {Tid : Type} [DecidableEq Tid] {state next : Shutdown Tid}

/-! ### What a step can do -/

theorem step_thread {label : Label Tid} :
    state.step (.thread label) = some next ↔ ¬ label.signals ∧
      ∃ system, state.system.step label = some system ∧ { state with system } = next := by
  cases hsignals : label.signals <;> simp [step, hsignals]

theorem step_signalDisconnect :
    state.step .signalDisconnect = some next ↔ state.pc = .uncalled ∧
      ∃ system, state.system.step .signalDisconnect = some system ∧ ⟨system, .joining⟩ = next := by
  cases hpc : state.pc <;> simp [step, hpc]

theorem step_joinSessionThread {status : MtStatus} :
    state.step (.joinSessionThread status) = some next ↔
      state.pc = .joining ∧ state.system.session = .ended ∧ state.join status = next := by
  cases hpc : state.pc <;> cases hsession : state.system.session <;> simp [step, hpc, hsession]

theorem step_sendDisconnect {status : NetStatus} :
    state.step (.sendDisconnect status) = some next ↔ state.pc = .joined ∧
      { state with pc := .returned (mtStatusFromNet status) } = next := by
  cases hpc : state.pc <;> simp [step, hpc]

/-- The threads go on as before: `smqtt_mt_disconnect` only adds the setting of the flag. -/
theorem system_step {label : ShutdownLabel Tid} (hstep : state.step label = some next) :
    next.system = state.system ∨ ∃ action, state.system.step action = some next.system := by
  cases label with
  | thread label =>
      obtain ⟨-, system, hsystem, rfl⟩ := step_thread.mp hstep
      exact .inr ⟨label, hsystem⟩
  | signalDisconnect =>
      obtain ⟨-, system, hsystem, rfl⟩ := step_signalDisconnect.mp hstep
      exact .inr ⟨.signalDisconnect, hsystem⟩
  | joinSessionThread status =>
      obtain ⟨-, -, rfl⟩ := step_joinSessionThread.mp hstep
      exact .inl rfl
  | sendDisconnect status =>
      obtain ⟨-, rfl⟩ := step_sendDisconnect.mp hstep
      exact .inl rfl

/-! ### The queue once the flag is set -/

/-- How far the flag and the session thread have come. -/
structure Ordered (state : Shutdown Tid) : Prop where
  ready : state.pc ≠ .uncalled → state.system.client.readyToDisconnect = true
  ended : state.pc = .joined → state.system.session = .ended

/-- Nothing is queued when the flag is set, and nothing is queued later. -/
def undisturbed (state : Shutdown Tid) : ShutdownLabel Tid → Bool
  | .signalDisconnect => state.system.client.sendQueue.toList = []
  | .thread (.enqueueSlot _) => state.pc = .uncalled
  | _ => true

/-- Before the call, or with nothing left to be sent. -/
def Drained (state : Shutdown Tid) : Prop :=
  state.pc = .uncalled ∨ state.system.client.sendQueue.toList = []

omit [DecidableEq Tid] in
theorem join_pc (state : Shutdown Tid) (status : MtStatus) : (state.join status).pc ≠ .uncalled := by
  simp only [join]
  split_ifs <;> simp

omit [DecidableEq Tid] in
theorem join_system (state : Shutdown Tid) (status : MtStatus) :
    (state.join status).system = state.system := rfl

theorem ordered_step {label : ShutdownLabel Tid} (hordered : state.Ordered)
    (hstep : state.step label = some next) : next.Ordered := by
  cases label with
  | thread label =>
      obtain ⟨-, system, hsystem, rfl⟩ := step_thread.mp hstep
      exact ⟨fun hpc => System.ready_step (hordered.ready hpc) hsystem,
        fun hpc => System.ended_step hsystem (hordered.ended hpc)⟩
  | signalDisconnect =>
      obtain ⟨-, system, hsystem, rfl⟩ := step_signalDisconnect.mp hstep
      obtain ⟨-, rfl⟩ := System.step_signalDisconnect.mp hsystem
      exact ⟨fun _ => rfl, by simp⟩
  | joinSessionThread status =>
      obtain ⟨hpc, hended, rfl⟩ := step_joinSessionThread.mp hstep
      exact ⟨fun _ => hordered.ready (by simp [hpc]), fun _ => hended⟩
  | sendDisconnect status =>
      obtain ⟨hpc, rfl⟩ := step_sendDisconnect.mp hstep
      exact ⟨fun _ => hordered.ready (by simp [hpc]), by simp⟩

/-- One step: the queue stays drained exactly if the step does not disturb it. -/
theorem drained_step {label : ShutdownLabel Tid} (hordered : state.Ordered)
    (hstep : state.step label = some next) :
    next.Drained ↔ state.Drained ∧ state.undisturbed label = true := by
  cases label with
  | thread label =>
      obtain ⟨-, system, hsystem, rfl⟩ := step_thread.mp hstep
      by_cases hpc : state.pc = .uncalled
      · cases label <;> simp [Drained, undisturbed, hpc]
      · obtain ⟨hother, hsame⟩ | ⟨tid, slot, rfl, hqueue⟩ :=
          System.sendQueue_of_ready (hordered.ready hpc) hsystem
        · have hundisturbed : state.undisturbed (.thread label) = true := by
            cases label with
            | enqueueSlot tid => exact absurd rfl (hother tid)
            | _ => rfl
          simp [Drained, hpc, hsame, hundisturbed]
        · simp [Drained, undisturbed, hpc, hqueue]
  | signalDisconnect =>
      obtain ⟨hpc, system, hsystem, rfl⟩ := step_signalDisconnect.mp hstep
      obtain ⟨-, rfl⟩ := System.step_signalDisconnect.mp hsystem
      simp [Drained, undisturbed, hpc]
  | joinSessionThread status =>
      obtain ⟨hpc, -, rfl⟩ := step_joinSessionThread.mp hstep
      simp [Drained, undisturbed, hpc, state.join_pc status, state.join_system status]
  | sendDisconnect status =>
      obtain ⟨hpc, rfl⟩ := step_sendDisconnect.mp hstep
      simp [Drained, undisturbed, hpc]

omit [DecidableEq Tid] in
theorem ordered_init (client : Client) (bufferCount : UInt16) (bufferSize : Nat) :
    (init client bufferCount bufferSize : Shutdown Tid).Ordered :=
  ⟨fun hpc => absurd rfl hpc, by simp [init]⟩

/-- Every frame that a call has queued has been handed to the server, and `send_queue` is empty. -/
structure NothingLost (system : System Tid) : Prop where
  handed : system.handedFrames.map Prod.fst = system.enqueuedFrames.map some
  queue : system.client.sendQueue.toList = []

variable [Fintype Tid]

/-- **No loss at disconnect.** When the DISCONNECT frame is sent nothing has been lost, exactly if
`send_queue` was empty when the flag was set and nothing has been queued since. -/
theorem nothing_lost_iff {client : Client} {bufferCount : UInt16} {bufferSize : Nat}
    {labels : List (ShutdownLabel Tid)} {status : NetStatus}
    (hrun : Run.exec step (init client bufferCount bufferSize) labels = some state)
    (hsend : state.step (.sendDisconnect status) = some next) :
    NothingLost state.system ↔
      Run.Along step (fun state label => state.undisturbed label = true)
        (init client bufferCount bufferSize) labels := by
  obtain ⟨hpc, -⟩ := step_sendDisconnect.mp hsend
  have hordered : state.Ordered := Run.invariant Ordered
    (fun _ _ _ hordered hstep => ordered_step hordered hstep)
    (ordered_init client bufferCount bufferSize) hrun
  obtain ⟨actions, hactions⟩ := Run.exec_project Shutdown.system
    (fun _ _ _ hstep => system_step hstep) hrun
  have horder := (System.inOrder_run hactions).order
  have hpending : state.system.pendingSlots = state.system.client.sendQueue.toList := by
    simp [System.pendingSlots, hordered.ended hpc, SessionPc.sendingSlot]
  have hdrained : state.Drained ↔ state.system.client.sendQueue.toList = [] := by
    simp [Drained, hpc]
  have hiff : state.Drained ↔ _ ∧ _ := Run.good_iff_along
    (fun _ _ _ hordered hstep => ordered_step hordered hstep)
    (fun _ _ _ _ hordered hstep => drained_step hordered hstep)
    (ordered_init client bufferCount bufferSize) hrun
  have hstart : (init client bufferCount bufferSize : Shutdown Tid).Drained := .inl rfl
  refine Iff.trans ?_ (hdrained.symm.trans (hiff.trans (and_iff_right hstart)))
  constructor
  · exact NothingLost.queue
  · intro hqueue
    refine ⟨?_, hqueue⟩
    rw [horder, hpending, hqueue, List.map_nil, List.append_nil]

/-- A publish, a round of the session thread, and then a disconnect. -/
theorem sent_before_disconnect : ∃ (labels : List (ShutdownLabel Unit)) (state next : Shutdown Unit),
    Run.exec step (init (connectedClient System.zeroClient none 0) 10 1024) labels = some state ∧
      state.step (.sendDisconnect .ok) = some next ∧ state.system.enqueuedFrames.length = 1 ∧
      NothingLost state.system := by
  let start : Shutdown Unit := init (connectedClient System.zeroClient none 0) 10 1024
  let topic : CString := ⟨[116], by decide⟩
  let labels : List (ShutdownLabel Unit) :=
    [.thread (.call () (.publish topic none QoS0 false none 0)), .thread (.lockSlot ()),
      .thread (.serialize ()), .thread (.enqueueWaiting ()), .thread (.enqueueSlot ()),
      .thread .sessionTop, .signalDisconnect, .thread (.sessionSend true), .thread .sessionRequeue,
      .thread (.sessionReceive (fun _ => 0) 0 none), .thread .sessionTop, .joinSessionThread .ok]
  obtain ⟨state, hrun⟩ : ∃ state, Run.exec step start labels = some state :=
    Option.isSome_iff_exists.mp (by decide)
  have hseen : (Run.exec step start labels).map (fun state =>
      (state.pc, state.system.enqueuedFrames.length)) = some (.joined, 1) := by
    decide
  rw [hrun] at hseen
  obtain ⟨hpc, hlength⟩ := Prod.mk.inj (Option.some.inj hseen)
  have hundisturbed :
      Run.Along step (fun state label => state.undisturbed label = true) start labels := by
    decide
  have hsend : state.step (.sendDisconnect .ok) = some { state with pc := .returned .ok } :=
    step_sendDisconnect.mpr ⟨hpc, rfl⟩
  exact ⟨labels, state, _, hrun, hsend, hlength, (nothing_lost_iff hrun hsend).mpr hundisturbed⟩

/-- A disconnect right behind a publish: the frame is never sent. -/
theorem publish_lost_at_disconnect :
    ∃ (labels : List (ShutdownLabel Unit)) (state next : Shutdown Unit),
      Run.exec step (init (connectedClient System.zeroClient none 0) 10 1024) labels = some state ∧
        state.step (.sendDisconnect .ok) = some next ∧ state.system.enqueuedFrames.length = 1 ∧
        state.system.handedFrames = [] ∧ ¬ NothingLost state.system := by
  let start : Shutdown Unit := init (connectedClient System.zeroClient none 0) 10 1024
  let topic : CString := ⟨[116], by decide⟩
  let labels : List (ShutdownLabel Unit) :=
    [.thread (.call () (.publish topic none QoS0 false none 0)), .thread (.lockSlot ()),
      .thread (.serialize ()), .thread (.enqueueWaiting ()), .thread (.enqueueSlot ()),
      .signalDisconnect, .thread .sessionTop, .joinSessionThread .ok]
  obtain ⟨state, hrun⟩ : ∃ state, Run.exec step start labels = some state :=
    Option.isSome_iff_exists.mp (by decide)
  have hseen : (Run.exec step start labels).map (fun state =>
      (state.pc, state.system.enqueuedFrames.length, state.system.handedFrames.length,
        state.system.client.sendQueue.toList)) = some (.joined, 1, 0, [0]) := by
    decide
  rw [hrun] at hseen
  simp only [Option.map_some, Option.some.injEq, Prod.mk.injEq] at hseen
  obtain ⟨hpc, hlength, hhanded, hqueue⟩ := hseen
  have hsend : state.step (.sendDisconnect .ok) = some { state with pc := .returned .ok } :=
    step_sendDisconnect.mpr ⟨hpc, rfl⟩
  refine ⟨labels, state, _, hrun, hsend, hlength, List.length_eq_zero_iff.mp hhanded, ?_⟩
  intro hnothing
  simp [hnothing.queue] at hqueue

end Shutdown

end Smqtt
