import Smqtt.Proof.Deadlock
import Smqtt.Proof.Shutdown

/-!
# How long a frame waits

One round of the session loop takes at most seven steps and hands over a frame if one is queued. So a
frame waits for as many rounds as there are frames before it, whatever the other threads do in
between, and the loop comes to its end within one round of the flag being set.
-/

namespace Smqtt

/-- The steps up to the next send, if there is anything to send. -/
def SessionPc.stepsToSend : SessionPc → Nat
  | sending _ => 1
  | top => 2
  | registering _ => 3
  | replying _ => 4
  | handling _ => 5
  | receiving => 6
  | requeueing _ => 7
  | ended => 0
  | crashed => 0

/-- The steps up to the end of the loop, once the flag is set. -/
def SessionPc.stepsToEnd : SessionPc → Nat
  | top => 1
  | registering _ => 2
  | replying _ => 3
  | handling _ => 4
  | receiving => 5
  | requeueing _ => 6
  | sending _ => 7
  | ended => 0
  | crashed => 0

theorem SessionPc.stepsToSend_le (session : SessionPc) : session.stepsToSend ≤ 7 := by
  cases session <;> simp [stepsToSend]

theorem SessionPc.stepsToEnd_le (session : SessionPc) : session.stepsToEnd ≤ 7 := by
  cases session <;> simp [stepsToEnd]

namespace System

/-- What comes of a packet or of a reply is a later point of the same round. -/
theorem Outcome.steps_le {outcome : SessionPc × List Event} (houtcome : Outcome outcome) :
    outcome.1.stepsToSend ≤ 4 ∧ outcome.1.stepsToEnd ≤ 3 := by
  cases houtcome <;> simp [SessionPc.stepsToSend, SessionPc.stepsToEnd]

theorem afterReply_steps (client : Client) (reply : Reply) (sent : Bool) :
    (afterReply client reply sent).1.stepsToSend ≤ 3 ∧
      (afterReply client reply sent).1.stepsToEnd ≤ 2 := by
  cases sent with
  | false => simp [afterReply, SessionPc.stepsToSend, SessionPc.stepsToEnd]
  | true =>
      cases reply with
      | pubcomp waiting packetId =>
          simp only [afterReply, deliverWaiting, if_true]
          split <;> simp [SessionPc.stepsToSend, SessionPc.stepsToEnd]
      | _ => simp [afterReply, SessionPc.stepsToSend, SessionPc.stepsToEnd]

variable {Tid : Type}

/-- The session thread has returned, or used a null pointer. -/
def Stopped (system : System Tid) : Prop := system.session = .ended ∨ system.session = .crashed

/-- The first frames that were queued have been handed over, unless nobody is left to do so. -/
def HandedOver (count : Nat) (system : System Tid) : Prop :=
  count ≤ system.handedFrames.length ∨ system.Stopped

def stepsToHandOver (count : Nat) (system : System Tid) : Nat :=
  7 * (count - system.handedFrames.length) + system.session.stepsToSend - 7

theorem stopped_of_stepsToSend {system : System Tid} (hzero : system.session.stepsToSend = 0) : system.Stopped := by
  cases hpc : system.session <;> simp_all [Stopped, SessionPc.stepsToSend]

theorem handedOver_of_zero {count : Nat} {system : System Tid}
    (hzero : system.stepsToHandOver count = 0) : system.HandedOver count := by
  by_cases hcount : count ≤ system.handedFrames.length
  · exact .inl hcount
  · right
    apply stopped_of_stepsToSend
    rw [stepsToHandOver] at hzero
    omega

theorem length_pendingSlots {system : System Tid} (horder : system.InOrder) :
    system.enqueuedFrames.length = system.handedFrames.length + system.pendingSlots.length := by
  have hlength := congrArg List.length horder.order
  simpa using hlength

variable [DecidableEq Tid] {system next : System Tid}

theorem events_step {label : Label Tid} (hstep : system.step label = some next) :
    system.events <+: next.events := by
  by_cases hlabel : label.isSession
  · obtain ⟨events, hevents, -⟩ := (sessionFrame_step hlabel hstep).events
    exact ⟨events, hevents.symm⟩
  · obtain ⟨events, hevents, -⟩ := (apiFrame_step hlabel hstep).events
    exact ⟨events, hevents.symm⟩

theorem handedFrames_step {label : Label Tid} (hstep : system.step label = some next) :
    system.handedFrames <+: next.handedFrames :=
  (events_step hstep).filterMap _

theorem enqueuedFrames_step {label : Label Tid} (hstep : system.step label = some next) :
    system.enqueuedFrames <+: next.enqueuedFrames :=
  (events_step hstep).filterMap _

theorem stopped_step {label : Label Tid} (hstep : system.step label = some next)
    (hstopped : system.Stopped) : label.isSession = false ∧ next.Stopped := by
  cases hlabel : label.isSession with
  | false =>
      have hsession := (apiFrame_step (by simp [hlabel]) hstep).session
      exact ⟨rfl, by rwa [Stopped, hsession]⟩
  | true =>
      obtain hended | hcrashed := hstopped
      · cases label <;> simp [Label.isSession] at hlabel <;> simp [step, hended] at hstep
      · cases label <;> simp [Label.isSession] at hlabel <;> simp [step, hcrashed] at hstep

theorem handedOver_step {count : Nat} {label : Label Tid} (hgoal : system.HandedOver count)
    (hstep : system.step label = some next) : next.HandedOver count := by
  obtain hcount | hstopped := hgoal
  · exact .inl (hcount.trans (handedFrames_step hstep).length_le)
  · exact .inr (stopped_step hstep hstopped).2

/-- The session thread goes on in its round, unless it stands at the head of the loop or sends. -/
theorem round_step {label : Label Tid} (hlabel : label.isSession)
    (hstep : system.step label = some next) :
    (system.session = .top ∧ system.sessionTop = next) ∨
      (∃ slot, system.session = .sending slot ∧ system.sessionSend slot = next) ∨
      (next.session.stepsToSend < system.session.stepsToSend ∧
        next.session.stepsToEnd < system.session.stepsToEnd) := by
  cases label with
  | sessionTop =>
      obtain ⟨hpc, -, hnext⟩ := step_sessionTop.mp hstep
      exact .inl ⟨hpc, hnext⟩
  | sessionSend sent =>
      obtain ⟨slot, hpc, hnext⟩ := step_sessionSend.mp hstep
      exact .inr (.inl ⟨slot, hpc, hnext⟩)
  | sessionRequeue =>
      obtain ⟨slot, hpc, -, rfl⟩ := step_sessionRequeue.mp hstep
      right; right
      simp [hpc, sessionRequeue, SessionPc.stepsToSend, SessionPc.stepsToEnd]
  | sessionReceive buffer size resp =>
      obtain ⟨hpc, rfl⟩ := step_sessionReceive.mp hstep
      right; right
      obtain ⟨-, hreceive⟩ | ⟨-, -, hreceive⟩ | ⟨packet, -, -, hreceive⟩ :=
        system.sessionReceive_cases buffer size resp <;>
        simp [hreceive, hpc, SessionPc.stepsToSend, SessionPc.stepsToEnd]
  | sessionHandle =>
      obtain ⟨resp, hpc, -, rfl⟩ := step_sessionHandle.mp hstep
      obtain ⟨hsend, hend⟩ := (handleResponse_outcome system.client resp).steps_le
      right; right
      rw [hpc]
      exact ⟨Nat.lt_succ_of_le hsend, Nat.lt_succ_of_le hend⟩
  | sessionReply sent =>
      obtain ⟨reply, hpc, rfl⟩ := step_sessionReply.mp hstep
      obtain ⟨hsend, hend⟩ := afterReply_steps
        { system.client with receiveBuffer := system.client.receiveBuffer.write reply.frame } reply sent
      right; right
      rw [hpc]
      exact ⟨Nat.lt_succ_of_le hsend, Nat.lt_succ_of_le hend⟩
  | sessionRegister =>
      obtain ⟨waiting, hpc, -, rfl⟩ := step_sessionRegister.mp hstep
      right; right
      simp [hpc, sessionRegister, SessionPc.stepsToSend, SessionPc.stepsToEnd]
  | _ => simp [Label.isSession] at hlabel

/-- **One step.** Short of the goal a step of the session thread brings it nearer, and no step of
another thread takes it away. -/
theorem stepsToHandOver_step {count : Nat} {label : Label Tid} (horder : system.InOrder)
    (hcount : count ≤ system.enqueuedFrames.length) (hstep : system.step label = some next) :
    next.HandedOver count ∨
      next.stepsToHandOver count + label.isSession.toNat ≤ system.stepsToHandOver count := by
  by_cases hgoal : system.HandedOver count
  · exact .inl (handedOver_step hgoal hstep)
  have hshort : system.handedFrames.length < count := not_le.mp fun hle => hgoal (.inl hle)
  have hmore : system.handedFrames.length ≤ next.handedFrames.length :=
    (handedFrames_step hstep).length_le
  cases hlabel : label.isSession with
  | false =>
      right
      have hsession := (apiFrame_step (by simp [hlabel]) hstep).session
      rw [stepsToHandOver, stepsToHandOver, hsession, Bool.toNat_false]
      omega
  | true =>
      obtain ⟨hpc, rfl⟩ | ⟨slot, hpc, rfl⟩ | ⟨hround, -⟩ := round_step hlabel hstep
      · obtain ⟨-, htop⟩ | ⟨-, hqueue, -⟩ | ⟨slot, rest, -, -, htop⟩ := system.sessionTop_cases
        · exact .inl (.inr (.inl (congrArg System.session htop)))
        · have hlength := length_pendingSlots horder
          have hnothing : system.pendingSlots = [] := by
            rw [pendingSlots, hpc, hqueue]
            rfl
          rw [hnothing, List.length_nil] at hlength
          omega
        · right
          have hsession : system.sessionTop.session = .sending slot := congrArg System.session htop
          rw [stepsToHandOver, stepsToHandOver, hsession, hpc]
          simp only [SessionPc.stepsToSend, Bool.toNat_true]
          omega
      · right
        have hhanded : (system.sessionSend slot).handedFrames.length
            = system.handedFrames.length + 1 := by
          simp [handedFrames, sessionSend, log, Event.handedFrame]
        have hsession : (system.sessionSend slot).session = .requeueing slot := rfl
        rw [stepsToHandOver, stepsToHandOver, hhanded, hsession, hpc]
        simp only [SessionPc.stepsToSend, Bool.toNat_true]
        omega
      · right
        rw [stepsToHandOver, stepsToHandOver, Bool.toNat_true]
        omega

section Slots

variable [Fintype Tid] {client : Client} {bufferCount : UInt16} {bufferSize : Nat}

/-- Of every run: what its first steps have queued is handed over by as many rounds of its rest. -/
theorem handedOver_run {before labels : List (Label Tid)} {final : System Tid} {count : Nat}
    (hbefore : Run.exec step (init client bufferCount bufferSize) before = some system)
    (hrun : Run.exec step system labels = some final)
    (hcount : count ≤ system.enqueuedFrames.length)
    (hsteps : 7 * (count - system.handedFrames.length) ≤ labels.countP Label.isSession) :
    final.HandedOver count := by
  have hpooled := Run.invariant (fun system : System Tid =>
    system.pool.slots = ↑(slotIndices bufferCount) ∧ system.InOrder)
    (fun _ _ _ hpooled hstep => pooled_step hpooled hstep)
    (pooled_init client bufferCount bufferSize) hbefore
  have henough : system.stepsToHandOver count ≤ labels.countP Label.isSession := by
    have hround := system.session.stepsToSend_le
    rw [stepsToHandOver]
    omega
  refine @Run.goal_of_rank_le _ _ step Label.isSession (stepsToHandOver count)
    (fun system : System Tid =>
      (system.pool.slots = ↑(slotIndices bufferCount) ∧ system.InOrder) ∧
        count ≤ system.enqueuedFrames.length) (HandedOver count) ?_ ?_ ?_ ?_ system final labels
    ⟨hpooled, hcount⟩ hrun henough
  · intro system label next hinv hstep
    exact ⟨pooled_step hinv.1 hstep, hinv.2.trans (enqueuedFrames_step hstep).length_le⟩
  · exact fun _ _ _ _ hgoal hstep => handedOver_step hgoal hstep
  · exact fun _ _ hzero => handedOver_of_zero hzero
  · exact fun _ _ _ hinv hstep => stepsToHandOver_step hinv.1.2 hinv.2 hstep

/-- **No frame waits for ever.** A frame that has been queued is handed over once the session thread
has made seven steps for it and for each frame before it that had not been, however its steps are
interleaved with those of the other threads, unless the thread ends or crashes first. -/
theorem queued_frame_is_handed {before labels : List (Label Tid)} {final : System Tid} {index : Nat}
    (hbefore : Run.exec step (init client bufferCount bufferSize) before = some system)
    (hrun : Run.exec step system labels = some final)
    (hindex : index < system.enqueuedFrames.length)
    (hsteps : 7 * (index + 1 - system.handedFrames.length) ≤ labels.countP Label.isSession)
    (hlive : ¬ final.Stopped) :
    (final.handedFrames.map Prod.fst)[index]? = some (system.enqueuedFrames[index]?) := by
  have hhanded := (handedOver_run hbefore hrun hindex hsteps).resolve_right hlive
  have hwhole := Run.exec_append_eq_some.mpr ⟨system, hbefore, hrun⟩
  have horder := (inOrder_run hwhole).order
  obtain ⟨later, hlater⟩ : system.enqueuedFrames <+: final.enqueuedFrames :=
    Run.invariant (fun other : System Tid => system.enqueuedFrames <+: other.enqueuedFrames)
      (fun _ _ _ hprefix hstep => hprefix.trans (enqueuedFrames_step hstep)) List.prefix_rfl hrun
  have hlength : index < (final.handedFrames.map Prod.fst).length := by
    rw [List.length_map]
    exact hhanded
  calc (final.handedFrames.map Prod.fst)[index]?
      = (final.handedFrames.map Prod.fst ++ final.pendingSlots.map final.serialized)[index]? :=
        (List.getElem?_append_left hlength).symm
    _ = (final.enqueuedFrames.map some)[index]? := by rw [← horder]
    _ = final.enqueuedFrames[index]?.map some := List.getElem?_map
    _ = some (system.enqueuedFrames[index]?) := by
        rw [← hlater, List.getElem?_append_left hindex, List.getElem?_eq_getElem hindex,
          Option.map_some]

end Slots

/-- A publish, whose frame waits for nobody, and seven steps of the session thread. -/
theorem publish_is_handed : ∃ (before labels : List (Label Unit)) (system final : System Unit),
    Run.exec step (init (connectedClient zeroClient none 0) 10 1024) before = some system ∧
      Run.exec step system labels = some final ∧
      (final.handedFrames.map Prod.fst)[0]? = some (system.enqueuedFrames[0]?) := by
  let start : System Unit := init (connectedClient zeroClient none 0) 10 1024
  let topic : CString := ⟨[116, 47, 100], by decide⟩
  let before : List (Label Unit) := [.call () (.publish topic none QoS0 false none 0), .lockSlot (),
    .serialize (), .enqueueWaiting (), .enqueueSlot ()]
  let labels : List (Label Unit) := [.sessionTop, .sessionSend true, .sessionRequeue,
    .sessionReceive (fun _ => 0) 0 none, .sessionTop, .sessionReceive (fun _ => 0) 0 none, .sessionTop]
  obtain ⟨system, hbefore⟩ : ∃ system, Run.exec step start before = some system :=
    Option.isSome_iff_exists.mp (by decide)
  obtain ⟨final, hwhole⟩ : ∃ final, Run.exec step start (before ++ labels) = some final :=
    Option.isSome_iff_exists.mp (by decide)
  have hqueued : (Run.exec step start before).map
      (fun system => (system.enqueuedFrames.length, system.handedFrames.length)) = some (1, 0) := by
    decide
  have hlive : (Run.exec step start (before ++ labels)).map
      (fun final => final.session.stepsToSend) = some 6 := by
    decide
  rw [hbefore] at hqueued
  rw [hwhole] at hlive
  obtain ⟨hone, hnone⟩ := Prod.mk.inj (Option.some.inj hqueued)
  obtain ⟨middle, hmiddle, hrest⟩ := Run.exec_append_eq_some.mp hwhole
  obtain rfl := Option.some.inj (hbefore.symm.trans hmiddle)
  refine ⟨before, labels, system, final, hbefore, hrest,
    queued_frame_is_handed hbefore hrest (by omega) ?_ ?_⟩
  · rw [hnone]
    decide
  · rintro (hended | hcrashed)
    · simp [hended, SessionPc.stepsToSend] at hlive
    · simp [hcrashed, SessionPc.stepsToSend] at hlive

/-! ### The end of the loop -/

/-- With the flag set there is one round left at most. -/
theorem stepsToEnd_step {label : Label Tid} (hready : system.client.readyToDisconnect = true)
    (hstep : system.step label = some next) :
    next.session.stepsToEnd + label.isSession.toNat ≤ system.session.stepsToEnd := by
  cases hlabel : label.isSession with
  | false =>
      rw [(apiFrame_step (by simp [hlabel]) hstep).session]
      exact le_rfl
  | true =>
      obtain ⟨hpc, rfl⟩ | ⟨slot, hpc, rfl⟩ | ⟨-, hround⟩ := round_step hlabel hstep
      · rw [sessionTop_of_ready hready, hpc]
        exact le_rfl
      · rw [hpc]
        exact le_rfl
      · exact hround

theorem SessionRun.single {label : Label Tid} (hlabel : label.isSession)
    (hstep : system.step label = some next) : SessionRun system next :=
  .cons label hlabel hstep (.refl next)

theorem session_can_end_of_top (hmutex : system.mutex = none)
    (hready : system.client.readyToDisconnect = true) (hpc : system.session = .top) :
    ∃ next, SessionRun system next ∧ next.session = .ended := by
  refine ⟨system.sessionTop, .single rfl (step_sessionTop.mpr ⟨hpc, hmutex, rfl⟩), ?_⟩
  rw [sessionTop_of_ready hready]

theorem session_can_end_of_requeueing {slot : UInt16} (hmutex : system.mutex = none)
    (hready : system.client.readyToDisconnect = true) (hpc : system.session = .requeueing slot) :
    ∃ next, SessionRun system next ∧ next.session = .ended := by
  have hrequeue : SessionRun system (system.sessionRequeue slot) :=
    .single rfl (step_sessionRequeue.mpr ⟨slot, hpc, hmutex, rfl⟩)
  have hcrash : ¬ (system.sessionRequeue slot).CrashBound := by
    rintro (hcrashed | ⟨resp, hhandling, -⟩)
    · cases hcrashed
    · cases hhandling
  have hended : (system.sessionRequeue slot).session ≠ .ended := by
    intro heq
    cases heq
  obtain ⟨top, htop, hpc, hsame⟩ :=
    @returnsToTop _ _ (system.sessionRequeue slot) hmutex hended hcrash rfl
  obtain ⟨next, hnext, hsession⟩ := session_can_end_of_top (hsame.mutex.trans hmutex)
    (hsame.ready.trans hready) hpc
  exact ⟨next, hrequeue.trans (htop.trans hnext), hsession⟩

/-- Unless it crashes, or a caller keeps the mutex, the session thread can come to its end. -/
theorem session_can_end (hmutex : system.mutex = none)
    (hready : system.client.readyToDisconnect = true) (hcrash : ¬ system.CrashBound) :
    ∃ next, SessionRun system next ∧ next.session = .ended := by
  by_cases hended : system.session = .ended
  · exact ⟨system, .refl system, hended⟩
  cases hslot : system.session.slot with
  | none =>
      obtain ⟨top, htop, hpc, hsame⟩ := returnsToTop hmutex hended hcrash hslot
      obtain ⟨next, hnext, hsession⟩ := session_can_end_of_top (hsame.mutex.trans hmutex)
        (hsame.ready.trans hready) hpc
      exact ⟨next, htop.trans hnext, hsession⟩
  | some slot =>
      cases hpc : system.session with
      | sending other =>
          have hsend : SessionRun system (system.sessionSend other) :=
            .single (show (Label.sessionSend true : Label Tid).isSession from rfl)
              (step_sessionSend.mpr ⟨other, hpc, rfl⟩)
          obtain ⟨next, hnext, hsession⟩ := @session_can_end_of_requeueing _ _
            (system.sessionSend other) other hmutex hready rfl
          exact ⟨next, hsend.trans hnext, hsession⟩
      | requeueing other => exact session_can_end_of_requeueing hmutex hready hpc
      | _ => simp [hpc, SessionPc.slot] at hslot

end System

/-- A step of the session thread. -/
def ShutdownLabel.isSession {Tid : Type} : ShutdownLabel Tid → Bool
  | thread label => label.isSession
  | _ => false

/-- A step that gives something to the server. -/
def ShutdownLabel.sends {Tid : Type} : ShutdownLabel Tid → Bool
  | thread (.sessionSend _) => true
  | thread (.sessionReply _) => true
  | sendDisconnect _ => true
  | _ => false

namespace Shutdown

variable {Tid : Type} [DecidableEq Tid] {state next final : Shutdown Tid}

/-- The call has come past the setting of the flag. -/
def Called (state : Shutdown Tid) : Prop :=
  state.Ordered ∧ state.pc ≠ .uncalled

theorem called_step {label : ShutdownLabel Tid} (hcalled : state.Called)
    (hstep : state.step label = some next) : next.Called := by
  refine ⟨ordered_step hcalled.1 hstep, ?_⟩
  cases label with
  | thread label =>
      obtain ⟨-, system, -, rfl⟩ := step_thread.mp hstep
      exact hcalled.2
  | signalDisconnect => exact absurd (step_signalDisconnect.mp hstep).1 hcalled.2
  | joinSessionThread status =>
      obtain ⟨-, -, rfl⟩ := step_joinSessionThread.mp hstep
      exact join_pc state status
  | sendDisconnect status =>
      obtain ⟨-, rfl⟩ := step_sendDisconnect.mp hstep
      simp

theorem stepsToEnd_step {label : ShutdownLabel Tid} (hcalled : state.Called)
    (hstep : state.step label = some next) :
    next.system.session.stepsToEnd + label.isSession.toNat
      ≤ state.system.session.stepsToEnd := by
  cases label with
  | thread label =>
      obtain ⟨-, system, hsystem, rfl⟩ := step_thread.mp hstep
      exact System.stepsToEnd_step (hcalled.1.ready hcalled.2) hsystem
  | signalDisconnect => exact absurd (step_signalDisconnect.mp hstep).1 hcalled.2
  | joinSessionThread status =>
      obtain ⟨-, -, rfl⟩ := step_joinSessionThread.mp hstep
      exact le_rfl
  | sendDisconnect status =>
      obtain ⟨-, rfl⟩ := step_sendDisconnect.mp hstep
      exact le_rfl

/-- The session thread has returned, and so has the call. -/
def Closed (state : Shutdown Tid) : Prop :=
  state.system.session = .ended ∧ ∃ status, state.pc = .returned status

theorem closed_step {label : ShutdownLabel Tid} (hclosed : state.Closed)
    (hstep : state.step label = some next) : label.sends = false ∧ next.Closed := by
  obtain ⟨hended, status, hpc⟩ := hclosed
  cases label with
  | thread label =>
      obtain ⟨-, system, hsystem, rfl⟩ := step_thread.mp hstep
      obtain ⟨hlabel, -⟩ := System.stopped_step hsystem (.inl hended)
      refine ⟨?_, System.ended_step hsystem hended, status, hpc⟩
      cases label <;> first | rfl | cases hlabel
  | signalDisconnect =>
      have huncalled := (step_signalDisconnect.mp hstep).1
      rw [hpc] at huncalled
      cases huncalled
  | joinSessionThread status =>
      have hjoining := (step_joinSessionThread.mp hstep).1
      rw [hpc] at hjoining
      cases hjoining
  | sendDisconnect status =>
      have hjoined := (step_sendDisconnect.mp hstep).1
      rw [hpc] at hjoined
      cases hjoined

/-- Nothing is sent any more. -/
theorem silent_of_closed {labels : List (ShutdownLabel Tid)} (hclosed : state.Closed)
    (hrun : Run.exec step state labels = some final) :
    ∀ label ∈ labels, label.sends = false := by
  induction labels generalizing state with
  | nil => simp
  | cons label labels ih =>
      obtain ⟨next, hstep, hrest⟩ := Run.exec_cons_eq_some.mp hrun
      obtain ⟨hsilent, hnext⟩ := closed_step hclosed hstep
      exact List.forall_mem_cons.mpr ⟨hsilent, ih hnext hrest⟩

theorem called_run {labels : List (ShutdownLabel Tid)} (hcalled : state.Called)
    (hrun : Run.exec step state labels = some final) : final.Called :=
  Run.invariant Called (fun _ _ _ hcalled hstep => called_step hcalled hstep) hcalled hrun

section Run

variable {client : Client} {bufferCount : UInt16} {bufferSize : Nat}

theorem ordered_run {labels : List (ShutdownLabel Tid)}
    (hrun : Run.exec step (init client bufferCount bufferSize) labels = some state) :
    state.Ordered :=
  Run.invariant Ordered (fun _ _ _ hordered hstep => ordered_step hordered hstep)
    (ordered_init client bufferCount bufferSize) hrun

/-- **A disconnect takes one round.** Whatever the threads do, the session thread makes at most seven
steps once the flag is set, and nothing at all is sent behind the DISCONNECT. -/
theorem disconnect_in_one_round {before after : List (ShutdownLabel Tid)}
    (hrun : Run.exec step (init client bufferCount bufferSize)
      (before ++ .signalDisconnect :: after) = some final) :
    after.countP ShutdownLabel.isSession ≤ 7 ∧
      ∀ left status right, after = left ++ .sendDisconnect status :: right →
        ∀ label ∈ right, label.sends = false := by
  obtain ⟨state, hbefore, hrest⟩ := Run.exec_append_eq_some.mp hrun
  obtain ⟨called, hsignal, hafter⟩ := Run.exec_cons_eq_some.mp hrest
  have hcalled : called.Called := by
    refine ⟨ordered_step (ordered_run hbefore) hsignal, ?_⟩
    obtain ⟨-, system, -, rfl⟩ := step_signalDisconnect.mp hsignal
    simp
  constructor
  · have hcount := @Run.rank_add_count_le _ _ step ShutdownLabel.isSession
      (fun state : Shutdown Tid => state.system.session.stepsToEnd) Called
      (fun _ _ _ hcalled hstep => called_step hcalled hstep)
      (fun _ _ _ hcalled hstep => stepsToEnd_step hcalled hstep) called final after hcalled hafter
    have hround := called.system.session.stepsToEnd_le
    omega
  · rintro left status right rfl
    obtain ⟨middle, hleft, hright⟩ := Run.exec_append_eq_some.mp hafter
    obtain ⟨closed, hsend, hlast⟩ := Run.exec_cons_eq_some.mp hright
    obtain ⟨hpc, rfl⟩ := step_sendDisconnect.mp hsend
    have hclosed : Closed { middle with pc := .returned (mtStatusFromNet status) } :=
      ⟨(called_run hcalled hleft).1.ended hpc, _, rfl⟩
    exact silent_of_closed hclosed hlast

theorem exec_thread {labels : List (Label Tid)} {system : System Tid}
    (hsession : ∀ label ∈ labels, label.isSession = true)
    (hrun : Run.exec System.step state.system labels = some system) :
    Run.exec step state (labels.map .thread) = some { state with system } := by
  induction labels generalizing state with
  | nil =>
      obtain rfl : state.system = system := by simpa using hrun
      rfl
  | cons label labels ih =>
      obtain ⟨hlabel, hlabels⟩ := List.forall_mem_cons.mp hsession
      obtain ⟨next, hstep, hrest⟩ := Run.exec_cons_eq_some.mp hrun
      have hsignals : ¬ label.signals := by
        cases label <;> simp [Label.isSession, Label.signals] at hlabel ⊢
      exact Run.exec_cons_eq_some.mpr
        ⟨_, step_thread.mpr ⟨hsignals, next, hstep, rfl⟩, @ih { state with system := next } hlabels hrest⟩

/-- **A disconnect can always be completed**, from every state it can come to, by the session thread
alone, as long as that has not crashed and no caller keeps the mutex. -/
theorem disconnect_can_return {labels : List (ShutdownLabel Tid)}
    (hrun : Run.exec step (init client bufferCount bufferSize) labels = some state)
    (hpc : state.pc = .joining) (hmutex : state.system.mutex = none)
    (hcrash : ¬ state.system.CrashBound) :
    ∃ (rounds : List (Label Tid)) (next : Shutdown Tid),
      (∀ label ∈ rounds, label.isSession = true) ∧ Run.exec step state
          (rounds.map .thread ++ [.joinSessionThread .ok, .sendDisconnect .ok]) = some next ∧
        next.pc = .returned .ok := by
  have hready := (ordered_run hrun).ready (by simp [hpc])
  obtain ⟨system, ⟨rounds, hsession, hrounds⟩, hended⟩ :=
    System.session_can_end hmutex hready hcrash
  have hthread := exec_thread hsession hrounds
  refine ⟨rounds, ⟨system, .returned .ok⟩, hsession, Run.exec_append_eq_some.mpr ⟨_, hthread, ?_⟩, rfl⟩
  have hjoin : ({ state with system } : Shutdown Tid).step (.joinSessionThread .ok)
      = some ⟨system, .joined⟩ :=
    step_joinSessionThread.mpr ⟨hpc, hended, rfl⟩
  have hsend : (⟨system, .joined⟩ : Shutdown Tid).step (.sendDisconnect .ok)
      = some ⟨system, .returned .ok⟩ :=
    step_sendDisconnect.mpr ⟨rfl, rfl⟩
  exact Run.exec_cons_eq_some.mpr ⟨_, hjoin, Run.exec_cons_eq_some.mpr ⟨_, hsend, rfl⟩⟩

end Run

/-- A client that is disconnected while the frame of a ping is being sent. -/
def interrupted : Shutdown Unit × List (ShutdownLabel Unit) :=
  (init (connectedClient System.zeroClient none 0) 10 1024,
    [.thread (.call () (.ping (some 1) 0)), .thread (.lockSlot ()), .thread (.serialize ()),
      .thread (.enqueueWaiting ()), .thread (.enqueueSlot ()), .thread .sessionTop])

theorem ping_before_disconnect : ∃ (after : List (ShutdownLabel Unit)) (final : Shutdown Unit),
    Run.exec step interrupted.1 (interrupted.2 ++ .signalDisconnect :: after) = some final ∧
      after.countP ShutdownLabel.isSession ≤ 7 ∧
        ∀ left status right, after = left ++ .sendDisconnect status :: right →
          ∀ label ∈ right, label.sends = false := by
  let after : List (ShutdownLabel Unit) := [.thread (.sessionSend true), .thread .sessionRequeue,
    .thread (.sessionReceive (fun _ => 0) 0 none), .thread .sessionTop, .joinSessionThread .ok,
    .sendDisconnect .ok, .thread (.call () (.ping (some 1) 0))]
  obtain ⟨final, hrun⟩ : ∃ final, Run.exec step interrupted.1
      (interrupted.2 ++ .signalDisconnect :: after) = some final :=
    Option.isSome_iff_exists.mp (by decide)
  exact ⟨after, final, hrun, disconnect_in_one_round hrun⟩

theorem interrupted_disconnect_returns : ∃ (state : Shutdown Unit) (rounds : List (Label Unit))
    (next : Shutdown Unit), state.pc = .joining ∧ (∀ label ∈ rounds, label.isSession = true) ∧
      Run.exec step state (rounds.map .thread ++ [.joinSessionThread .ok, .sendDisconnect .ok])
        = some next ∧ next.pc = .returned .ok := by
  obtain ⟨state, hrun⟩ : ∃ state,
      Run.exec step interrupted.1 (interrupted.2 ++ [.signalDisconnect]) = some state :=
    Option.isSome_iff_exists.mp (by decide)
  have hseen : (Run.exec step interrupted.1 (interrupted.2 ++ [.signalDisconnect])).map
      (fun state => (state.pc, state.system.mutex, state.system.session.stepsToEnd))
        = some (.joining, none, 7) := by
    decide
  rw [hrun] at hseen
  simp only [Option.map_some, Option.some.injEq, Prod.mk.injEq] at hseen
  obtain ⟨hpc, hmutex, hsession⟩ := hseen
  have hcrash : ¬ state.system.CrashBound := by
    rintro (hcrashed | ⟨resp, hhandling, -⟩)
    · simp [hcrashed, SessionPc.stepsToEnd] at hsession
    · simp [hhandling, SessionPc.stepsToEnd] at hsession
  obtain ⟨rounds, next, hrounds, hexec, hreturned⟩ := disconnect_can_return hrun hpc hmutex hcrash
  exact ⟨state, rounds, next, hpc, hrounds, hexec, hreturned⟩

end Shutdown

end Smqtt
