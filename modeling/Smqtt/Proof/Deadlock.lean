import Smqtt.Proof.Pool

/-!
# Waiting for a slot

A caller that finds no free slot retries without giving the mutex back, and the session thread needs
the mutex to return a slot. So a caller must not ask for a slot while all of them are in use. If none
does, and there are never more calls at a time than slots, the session thread alone can always get a
waiting caller its slot.
-/

namespace Smqtt

def ApiPc.busy : ApiPc → Bool
  | idle => false
  | _ => true

/-- A caller in `get_buffer_slot` that has no slot yet. -/
def ApiPc.awaitsSlot : ApiPc → Bool
  | wanting _ _ => true
  | spinning _ _ => true
  | _ => false

def ApiPc.isSpinning : ApiPc → Bool
  | spinning _ _ => true
  | _ => false

def SessionPc.isTop : SessionPc → Bool
  | top => true
  | _ => false

namespace System

variable {Tid : Type}

/-- The session thread is at an end: it has crashed, or it handles a packet on which it will. -/
def CrashBound (system : System Tid) : Prop :=
  system.session = .crashed ∨
    ∃ resp, system.session = .handling resp ∧ (handleResponse system.client resp).2.1 = .crashed

/-- A caller that retries for ever: the free queue is empty and stays so while it has the mutex. -/
def Deadlocked (system : System Tid) : Prop :=
  ∃ tid serial request, system.api tid = .spinning serial request ∧ system.mutex = some tid ∧
    system.client.freeQueue.toList = []

section Conditions

variable [Fintype Tid]

/-- The slots that are held, queued or being sent. -/
def slotsInUse (system : System Tid) : Nat :=
  system.client.sendQueue.toList.length
    + (Finset.univ.filter fun tid => (system.api tid).slot.isSome).card
    + system.session.slot.toList.length

def callsInProgress (system : System Tid) : Nat :=
  (Finset.univ.filter fun tid => (system.api tid).busy).card

/-- A call starts only while fewer calls than slots are in progress, a slot is asked for only while
one is free, and nobody disconnects. -/
def uncrowded (bufferCount : UInt16) (system : System Tid) : Label Tid → Bool
  | .call _ _ => system.callsInProgress < bufferCount.toNat
  | .lockSlot _ => system.slotsInUse < bufferCount.toNat
  | .signalDisconnect => false
  | _ => true

theorem card_slots (system : System Tid) :
    system.pool.slots.card = system.client.freeQueue.toList.length + system.slotsInUse := by
  have hheld : (∑ tid, SlotPool.slotsOf (system.pool.held tid)).card
      = (Finset.univ.filter fun tid => (system.api tid).slot.isSome).card := by
    rw [Multiset.card_sum, Finset.card_filter]
    refine Finset.sum_congr rfl fun tid _ => ?_
    cases hslot : (system.api tid).slot <;> simp [pool, hslot]
  have hserving : (SlotPool.slotsOf system.pool.serving).card
      = system.session.slot.toList.length := by
    cases hslot : system.session.slot <;> simp [pool, hslot]
  simp only [SlotPool.State.slots, Multiset.card_add, hheld, hserving, Multiset.coe_card]
  simp only [pool, slotsInUse]
  omega

/-- A caller that still waits for its slot leaves one of the slots to the others. -/
theorem held_lt_callsInProgress {system : System Tid} {tid : Tid}
    (hbusy : (system.api tid).busy) (hslot : (system.api tid).slot = none) :
    (Finset.univ.filter fun tid => (system.api tid).slot.isSome).card < system.callsInProgress := by
  refine Finset.card_lt_card ⟨?_, ?_⟩
  · intro other hmem
    rw [Finset.mem_filter] at hmem ⊢
    refine ⟨hmem.1, ?_⟩
    cases hpc : system.api other <;> simp_all [ApiPc.slot, ApiPc.busy]
  · intro hsub
    have hmem := hsub (Finset.mem_filter.mpr ⟨Finset.mem_univ tid, hbusy⟩)
    simp [hslot] at hmem

end Conditions

/-! ### The session thread on its own -/

/-- The parts of the state that the session thread leaves alone until it takes up the next slot. -/
structure SameSlots (system next : System Tid) : Prop where
  free : next.client.freeQueue.toList = system.client.freeQueue.toList
  queued : next.client.sendQueue.toList = system.client.sendQueue.toList
  api : next.api = system.api
  mutex : next.mutex = system.mutex
  ready : next.client.readyToDisconnect = system.client.readyToDisconnect

theorem SameSlots.refl (system : System Tid) : SameSlots system system := ⟨rfl, rfl, rfl, rfl, rfl⟩

theorem SameSlots.trans {first second third : System Tid} (hleft : SameSlots first second)
    (hright : SameSlots second third) : SameSlots first third :=
  ⟨hright.free.trans hleft.free, hright.queued.trans hleft.queued, hright.api.trans hleft.api,
    hright.mutex.trans hleft.mutex, hright.ready.trans hleft.ready⟩

theorem sameSlots_sessionHandle (system : System Tid) (resp : Response) :
    SameSlots system (system.sessionHandle resp) := by
  obtain ⟨ackQueue, hclient⟩ := handleResponse_client system.client resp
  refine ⟨?_, ?_, rfl, rfl, ?_⟩ <;> simp [sessionHandle, log, hclient]

variable [DecidableEq Tid] {system : System Tid}

/-- A run of the session thread alone. -/
def SessionRun (system next : System Tid) : Prop :=
  ∃ labels, (∀ label ∈ labels, Label.isSession label = true) ∧
    Run.exec step system labels = some next

theorem SessionRun.refl (system : System Tid) : SessionRun system system := ⟨[], by simp, rfl⟩

theorem SessionRun.cons {next final : System Tid} (label : Label Tid)
    (hlabel : label.isSession) (hstep : system.step label = some next)
    (hrest : SessionRun next final) : SessionRun system final := by
  obtain ⟨labels, hsession, hrun⟩ := hrest
  refine ⟨label :: labels, ?_, Run.exec_cons_eq_some.mpr ⟨next, hstep, hrun⟩⟩
  intro other hmem
  obtain rfl | hmem := List.mem_cons.mp hmem
  · exact hlabel
  · exact hsession other hmem

theorem SessionRun.trans {next final : System Tid} (hleft : SessionRun system next)
    (hright : SessionRun next final) : SessionRun system final := by
  obtain ⟨left, hleftSession, hleftRun⟩ := hleft
  obtain ⟨right, hrightSession, hrightRun⟩ := hright
  refine ⟨left ++ right, ?_, Run.exec_append_eq_some.mpr ⟨next, hleftRun, hrightRun⟩⟩
  intro label hmem
  exact (List.mem_append.mp hmem).elim (hleftSession label) (hrightSession label)

/-- The session thread gets back to the head of its loop with the slots as they are. -/
def ReturnsToTop (system : System Tid) : Prop :=
  ∃ next, SessionRun system next ∧ next.session = .top ∧ SameSlots system next

/-- A reply that fails. -/
theorem returnsToTop_of_replying {reply : Reply} (hpc : system.session = .replying reply) :
    system.ReturnsToTop :=
  ⟨system.sessionReply reply false,
    .cons (.sessionReply false) rfl (step_sessionReply.mpr ⟨reply, hpc, rfl⟩) (.refl _),
    rfl, rfl, rfl, rfl, rfl, rfl⟩

theorem returnsToTop_of_registering {waiting : Waiting} (hmutex : system.mutex = none)
    (hpc : system.session = .registering waiting) : system.ReturnsToTop :=
  ⟨system.sessionRegister waiting,
    .cons .sessionRegister rfl (step_sessionRegister.mpr ⟨waiting, hpc, hmutex, rfl⟩) (.refl _),
    rfl, rfl, rfl, rfl, rfl, rfl⟩

theorem returnsToTop_of_handling {resp : Response} (hmutex : system.mutex = none)
    (hcrash : ¬ system.CrashBound) (hpc : system.session = .handling resp) :
    system.ReturnsToTop := by
  have hstep : system.step .sessionHandle = some (system.sessionHandle resp) :=
    step_sessionHandle.mpr ⟨resp, hpc, fun _ => hmutex, rfl⟩
  have hsame := sameSlots_sessionHandle system resp
  have hmutex' : (system.sessionHandle resp).mutex = none := hsame.mutex.trans hmutex
  have hlater : (system.sessionHandle resp).ReturnsToTop → system.ReturnsToTop := by
    rintro ⟨next, hrun, htop, hrest⟩
    exact ⟨next, .cons .sessionHandle rfl hstep hrun, htop, hsame.trans hrest⟩
  have hsession : (system.sessionHandle resp).session = (handleResponse system.client resp).2.1 :=
    rfl
  have houtcome := handleResponse_outcome system.client resp
  have hcrashed : (handleResponse system.client resp).2.1 ≠ .crashed :=
    fun hcrashed => hcrash (.inr ⟨resp, hpc, hcrashed⟩)
  generalize (handleResponse system.client resp).2 = outcome at hsession houtcome hcrashed
  cases houtcome with
  | crashed => exact absurd rfl hcrashed
  | reply reply => exact hlater (returnsToTop_of_replying hsession)
  | register waiting => exact hlater (returnsToTop_of_registering hmutex' hsession)
  | done => exact hlater ⟨_, .refl _, hsession, .refl _⟩
  | callback waiting resp => exact hlater ⟨_, .refl _, hsession, .refl _⟩
  | subCallback waiting packetId results => exact hlater ⟨_, .refl _, hsession, .refl _⟩
  | delivered topic msg qos retain context => exact hlater ⟨_, .refl _, hsession, .refl _⟩

/-- Whatever the session thread is doing, unless it transmits a slot. -/
theorem returnsToTop (hmutex : system.mutex = none) (hended : system.session ≠ .ended)
    (hcrash : ¬ system.CrashBound) (hslot : system.session.slot = none) :
    system.ReturnsToTop := by
  cases hpc : system.session with
  | top => exact ⟨system, .refl system, hpc, .refl system⟩
  | sending slot => simp [hpc, SessionPc.slot] at hslot
  | requeueing slot => simp [hpc, SessionPc.slot] at hslot
  | ended => exact absurd hpc hended
  | crashed => exact absurd (.inl hpc) hcrash
  | receiving =>
      have hrun := SessionRun.cons (.sessionReceive system.client.receiveBuffer 0 none) rfl
        (step_sessionReceive.mpr ⟨hpc, rfl⟩) (.refl _)
      refine ⟨system.sessionReceive system.client.receiveBuffer 0 none, hrun, ?_, rfl, rfl, rfl, rfl, rfl⟩
      simp [sessionReceive]
  | replying reply => exact returnsToTop_of_replying hpc
  | registering waiting => exact returnsToTop_of_registering hmutex hpc
  | handling resp => exact returnsToTop_of_handling hmutex hcrash hpc

/-- The session thread puts a slot into the free queue, and the API threads stay where they are. -/
def FreesSlot (system : System Tid) : Prop :=
  ∃ next, SessionRun system next ∧ next.client.freeQueue.toList ≠ [] ∧ next.api = system.api ∧
    next.mutex = none

theorem freesSlot_of_requeueing {slot : UInt16} (hmutex : system.mutex = none)
    (hpc : system.session = .requeueing slot) : system.FreesSlot :=
  ⟨system.sessionRequeue slot,
    .cons .sessionRequeue rfl (step_sessionRequeue.mpr ⟨slot, hpc, hmutex, rfl⟩) (.refl _),
    by simp [sessionRequeue], rfl, hmutex⟩

theorem freesSlot_of_sending {slot : UInt16} (hmutex : system.mutex = none)
    (hpc : system.session = .sending slot) : system.FreesSlot := by
  obtain ⟨next, hrun, hfree, hapi, hmutex⟩ :=
    @freesSlot_of_requeueing Tid _ (system.sessionSend slot) slot hmutex rfl
  exact ⟨next, .cons (.sessionSend true) rfl (step_sessionSend.mpr ⟨slot, hpc, rfl⟩) hrun,
    hfree, hapi, hmutex⟩

theorem freesSlot_of_top {slot : UInt16} {rest : List UInt16} (hmutex : system.mutex = none)
    (hready : system.client.readyToDisconnect = false)
    (hqueue : system.client.sendQueue.toList = slot :: rest) (hpc : system.session = .top) :
    system.FreesSlot := by
  have hstep : system.step .sessionTop = some system.sessionTop :=
    step_sessionTop.mpr ⟨hpc, hmutex, rfl⟩
  rw [sessionTop_of_cons hready hqueue] at hstep
  obtain ⟨next, hrun, hfree, hapi, hmutex⟩ :=
    @freesSlot_of_sending Tid _ { system with
      client := { system.client with sendQueue := system.client.sendQueue.dequeue.2 }
      session := .sending slot } slot hmutex rfl
  exact ⟨next, .cons .sessionTop rfl hstep hrun, hfree, hapi, hmutex⟩

theorem freesSlot (hmutex : system.mutex = none) (hready : system.client.readyToDisconnect = false)
    (hended : system.session ≠ .ended) (hcrash : ¬ system.CrashBound)
    (hslots : system.session.slot ≠ none ∨ system.client.sendQueue.toList ≠ []) :
    system.FreesSlot := by
  cases hslot : system.session.slot with
  | some slot =>
      cases hpc : system.session with
      | sending slot => exact freesSlot_of_sending hmutex hpc
      | requeueing slot => exact freesSlot_of_requeueing hmutex hpc
      | _ => simp [hpc, SessionPc.slot] at hslot
  | none =>
      have hqueued : system.client.sendQueue.toList ≠ [] :=
        hslots.resolve_left fun hserving => hserving hslot
      obtain ⟨top, hrun, hpc, hsame⟩ := returnsToTop hmutex hended hcrash hslot
      rw [← hsame.queued] at hqueued
      obtain ⟨slot, rest, hqueue⟩ := List.exists_cons_of_ne_nil hqueued
      obtain ⟨next, hrest, hfree, hapi, hmutex⟩ := freesSlot_of_top (hsame.mutex.trans hmutex)
        (hsame.ready.trans hready) hqueue hpc
      exact ⟨next, hrun.trans hrest, hfree, hapi.trans hsame.api, hmutex⟩

/-! ### Runs that are never crowded -/

/-- No caller is in the retry loop, there are enough slots for the calls in progress, and the session
thread goes on. -/
structure Flowing [Fintype Tid] (bufferCount : UInt16) (system : System Tid) : Prop where
  slots : system.pool.slots = ↑(slotIndices bufferCount)
  mutex : system.mutex = none
  spinning : ∀ tid serial request, system.api tid ≠ .spinning serial request
  calls : system.callsInProgress ≤ bufferCount.toNat
  ready : system.client.readyToDisconnect = false
  session : system.session ≠ .ended

theorem Outcome.ne_ended {outcome : SessionPc × List Event} (houtcome : Outcome outcome) :
    outcome.1 ≠ .ended := by
  cases houtcome <;> simp

section Flowing

variable [Fintype Tid] {next : System Tid} {tid : Tid} {bufferCount : UInt16}

theorem callsInProgress_setApi_le {pc : ApiPc} (hbusy : (system.api tid).busy) :
    (system.setApi tid pc).callsInProgress ≤ system.callsInProgress := by
  refine Finset.card_le_card fun other hmem => ?_
  rw [Finset.mem_filter] at hmem ⊢
  refine ⟨hmem.1, ?_⟩
  by_cases heq : other = tid
  · exact heq ▸ hbusy
  · simpa [setApi, heq] using hmem.2

theorem callsInProgress_setApi_le_succ {pc : ApiPc} :
    (system.setApi tid pc).callsInProgress ≤ system.callsInProgress + 1 := by
  refine (Finset.card_le_card ?_).trans
    (Finset.card_insert_le tid (Finset.univ.filter fun tid => (system.api tid).busy))
  intro other hmem
  rw [Finset.mem_filter] at hmem
  rw [Finset.mem_insert, Finset.mem_filter]
  by_cases heq : other = tid
  · exact .inl heq
  · exact .inr ⟨hmem.1, by simpa [setApi, heq] using hmem.2⟩

omit [Fintype Tid] in
theorem spinning_setApi {pc : ApiPc}
    (hbefore : ∀ tid serial request, system.api tid ≠ .spinning serial request)
    (hpc : ∀ serial request, pc ≠ .spinning serial request) :
    ∀ tid' serial request, (system.setApi tid pc).api tid' ≠ .spinning serial request := by
  intro other serial request
  by_cases heq : other = tid
  · subst heq
    simpa [setApi] using hpc serial request
  · simpa [setApi, heq] using hbefore other serial request

/-- A step of an API thread that is in the middle of a call. -/
theorem Flowing.setApi {client : Client} {mutex : Option Tid}
    {serialized : UInt16 → Option Outgoing} {events : List Event} {pc : ApiPc}
    (hinv : Flowing bufferCount system)
    (hbusy : (system.api tid).busy) (hpc : ∀ serial request, pc ≠ .spinning serial request)
    (hmutex : mutex = none) (hready : client.readyToDisconnect = system.client.readyToDisconnect)
    (hslots : ({ system with client, mutex, serialized, events }.setApi tid pc).pool.slots
      = system.pool.slots) :
    Flowing bufferCount ({ system with client, mutex, serialized, events }.setApi tid pc) where
  slots := hslots.trans hinv.slots
  mutex := hmutex
  spinning := spinning_setApi hinv.spinning hpc
  calls := (callsInProgress_setApi_le hbusy).trans hinv.calls
  ready := hready.trans hinv.ready
  session := hinv.session

omit [DecidableEq Tid] in
/-- A step of the session thread. -/
theorem Flowing.ofSession (hinv : Flowing bufferCount system)
    (hslots : next.pool.slots = system.pool.slots) (hmutex : next.mutex = system.mutex)
    (hapi : next.api = system.api)
    (hready : next.client.readyToDisconnect = system.client.readyToDisconnect)
    (hsession : next.session ≠ .ended) : Flowing bufferCount next where
  slots := hslots.trans hinv.slots
  mutex := hmutex.trans hinv.mutex
  spinning := by
    rw [hapi]
    exact hinv.spinning
  calls := by
    rw [callsInProgress, hapi]
    exact hinv.calls
  ready := hready.trans hinv.ready
  session := hsession

omit [DecidableEq Tid] in
theorem Flowing.free_ne_nil (hinv : Flowing bufferCount system)
    (huse : system.slotsInUse < bufferCount.toNat) : system.client.freeQueue.toList ≠ [] := by
  intro hfree
  have hcard := card_slots system
  rw [hinv.slots, hfree] at hcard
  simp [slotIndices] at hcard
  omega

theorem flowing_step {label : Label Tid} (hinv : Flowing bufferCount system)
    (huncrowded : system.uncrowded bufferCount label) (hstep : system.step label = some next) :
    Flowing bufferCount next := by
  have hslots := (pool_step hstep).slots_eq
  cases label with
  | call tid request =>
      have hroom : system.callsInProgress < bufferCount.toNat := by simpa [uncrowded] using huncrowded
      obtain ⟨-, rfl⟩ := step_call.mp hstep
      cases hrefused : request.refused system.client with
      | some status =>
          rw [call_of_refused hrefused]
          exact ⟨hinv.slots, hinv.mutex, hinv.spinning, hinv.calls, hinv.ready, hinv.session⟩
      | none =>
          rw [call_of_accepted hrefused] at hslots ⊢
          exact ⟨hslots.trans hinv.slots, hinv.mutex, spinning_setApi hinv.spinning (by simp),
            callsInProgress_setApi_le_succ.trans hroom, hinv.ready, hinv.session⟩
  | lockSlot tid =>
      have huse : system.slotsInUse < bufferCount.toNat := by simpa [uncrowded] using huncrowded
      obtain ⟨serial, request, hpc, -, rfl⟩ := step_lockSlot.mp hstep
      obtain ⟨slot, rest, hfree⟩ := List.exists_cons_of_ne_nil (hinv.free_ne_nil huse)
      rw [trySlot_of_cons hfree] at hslots ⊢
      exact hinv.setApi (by simp [hpc, ApiPc.busy]) (by simp) rfl rfl hslots
  | spin tid =>
      obtain ⟨serial, request, hpc, -⟩ := step_spin.mp hstep
      exact absurd hpc (hinv.spinning tid serial request)
  | serialize tid =>
      obtain ⟨serial, request, slot, hpc, rfl⟩ := step_serialize.mp hstep
      refine hinv.setApi (by simp [hpc, ApiPc.busy]) (by simp) hinv.mutex ?_ hslots
      cases request <;> rfl
  | enqueueWaiting tid =>
      obtain ⟨serial, request, slot, outgoing, hpc, -, rfl⟩ := step_enqueueWaiting.mp hstep
      rw [register_eq] at hslots ⊢
      refine hinv.setApi (by simp [hpc, ApiPc.busy]) (by simp) hinv.mutex ?_ hslots
      obtain ⟨ackQueue, publishPacketId, hclient⟩ := Request.register_client system.client serial request
      rw [hclient]
  | enqueueSlot tid =>
      obtain ⟨serial, slot, outgoing, hpc, -, rfl⟩ := step_enqueueSlot.mp hstep
      rw [enqueueSlot_eq] at hslots ⊢
      exact hinv.setApi (by simp [hpc, ApiPc.busy]) (by simp) hinv.mutex rfl hslots
  | signalDisconnect => simp [uncrowded] at huncrowded
  | sessionTop =>
      obtain ⟨hpc, -, rfl⟩ := step_sessionTop.mp hstep
      cases hqueue : system.client.sendQueue.toList with
      | nil =>
          rw [sessionTop_of_nil hinv.ready hqueue] at hslots ⊢
          exact hinv.ofSession hslots rfl rfl rfl (by simp)
      | cons slot rest =>
          rw [sessionTop_of_cons hinv.ready hqueue] at hslots ⊢
          exact hinv.ofSession hslots rfl rfl rfl (by simp)
  | sessionSend sent =>
      obtain ⟨slot, -, rfl⟩ := step_sessionSend.mp hstep
      exact hinv.ofSession hslots rfl rfl rfl (by simp [sessionSend, log])
  | sessionRequeue =>
      obtain ⟨slot, -, -, rfl⟩ := step_sessionRequeue.mp hstep
      exact hinv.ofSession hslots rfl rfl rfl (by simp [sessionRequeue])
  | sessionReceive buffer size resp =>
      obtain ⟨-, rfl⟩ := step_sessionReceive.mp hstep
      obtain ⟨-, hreceive⟩ | ⟨-, -, hreceive⟩ | ⟨packet, -, -, hreceive⟩ :=
        system.sessionReceive_cases buffer size resp
      · rw [hreceive] at hslots ⊢
        exact hinv.ofSession hslots rfl rfl rfl (by simp)
      · rw [hreceive] at hslots ⊢
        exact hinv.ofSession hslots rfl rfl rfl (by simp)
      · rw [hreceive] at hslots ⊢
        exact hinv.ofSession hslots rfl rfl rfl (by simp)
  | sessionHandle =>
      obtain ⟨resp, -, -, rfl⟩ := step_sessionHandle.mp hstep
      have hsame := sameSlots_sessionHandle system resp
      exact hinv.ofSession hslots rfl rfl hsame.ready
        (handleResponse_outcome system.client resp).ne_ended
  | sessionReply sent =>
      obtain ⟨reply, -, rfl⟩ := step_sessionReply.mp hstep
      exact hinv.ofSession hslots rfl rfl rfl (afterReply_outcome _ reply sent).ne_ended
  | sessionRegister =>
      obtain ⟨waiting, -, -, rfl⟩ := step_sessionRegister.mp hstep
      exact hinv.ofSession hslots rfl rfl rfl (by simp [sessionRegister])

omit [DecidableEq Tid] in
theorem flowing_init (client : Client) (bufferCount : UInt16) (bufferSize : Nat) :
    Flowing bufferCount (init client bufferCount bufferSize : System Tid) where
  slots := slots_init client bufferCount bufferSize
  mutex := rfl
  spinning := by simp [init, start]
  calls := by simp [callsInProgress, init, start, ApiPc.busy]
  ready := rfl
  session := by simp [init, start]

/-- **No slot deadlock.** In a run that is never crowded no caller is stuck in the retry loop, and
unless the session thread is at an end it can, on its own, get a waiting caller its slot. -/
theorem no_slot_deadlock {client : Client} {bufferSize : Nat} {labels : List (Label Tid)}
    (huncrowded : Run.Along step (fun system label => system.uncrowded bufferCount label = true)
      (init client bufferCount bufferSize) labels)
    (hrun : Run.exec step (init client bufferCount bufferSize) labels = some system) :
    ¬ system.Deadlocked ∧
      ∀ tid, (system.api tid).awaitsSlot → ¬ system.CrashBound →
        ∃ middle final, SessionRun system middle ∧ middle.step (.lockSlot tid) = some final ∧
          (final.api tid).slot ≠ none := by
  have hflow : Flowing bufferCount system :=
    Run.invariant_along (Flowing bufferCount)
      (fun state label next hinv hallowed hstep => flowing_step hinv hallowed hstep)
      (flowing_init client bufferCount bufferSize) huncrowded hrun
  refine ⟨?_, ?_⟩
  · rintro ⟨tid, serial, request, hpc, -⟩
    exact hflow.spinning tid serial request hpc
  · intro tid hawaits hcrash
    obtain ⟨serial, request, hpc⟩ : ∃ serial request, system.api tid = .wanting serial request := by
      cases hpc : system.api tid with
      | wanting serial request => exact ⟨serial, request, rfl⟩
      | spinning serial request => exact absurd hpc (hflow.spinning tid serial request)
      | _ => simp [hpc, ApiPc.awaitsSlot] at hawaits
    have hobtain : ∀ middle : System Tid, middle.api = system.api → middle.mutex = none →
        middle.client.freeQueue.toList ≠ [] → ∃ final, middle.step (.lockSlot tid) = some final ∧
          (final.api tid).slot ≠ none := by
      intro middle hapi hmutex hfree
      obtain ⟨slot, rest, hfree⟩ := List.exists_cons_of_ne_nil hfree
      refine ⟨_, step_lockSlot.mpr ⟨serial, request, by rw [hapi, hpc], hmutex, rfl⟩, ?_⟩
      rw [trySlot_of_cons hfree]
      simp [setApi, ApiPc.slot]
    by_cases hfree : system.client.freeQueue.toList = []
    · have hslots : system.session.slot ≠ none ∨ system.client.sendQueue.toList ≠ [] := by
        have hcard := card_slots system
        have hbusy : (system.api tid).busy := by simp [hpc, ApiPc.busy]
        have hheld := held_lt_callsInProgress hbusy (by simp [hpc, ApiPc.slot])
        rw [hflow.slots, hfree] at hcard
        by_contra hnone
        rw [not_or, not_not, not_not] at hnone
        have hcalls := hflow.calls
        simp [slotIndices, slotsInUse, hnone.1, hnone.2] at hcard
        omega
      obtain ⟨middle, hsession, hfree, hapi, hmutex⟩ :=
        freesSlot hflow.mutex hflow.ready hflow.session hcrash hslots
      obtain ⟨final, hstep, hslot⟩ := hobtain middle hapi hmutex hfree
      exact ⟨middle, final, hsession, hstep, hslot⟩
    · obtain ⟨final, hstep, hslot⟩ := hobtain system rfl hflow.mutex hfree
      exact ⟨system, final, .refl system, hstep, hslot⟩

end Flowing

/-! ### Eleven requests for ten slots -/

/-- Nobody but the caller itself can act, and the caller finds the free queue empty. -/
theorem stuck_of_mutex {tid : Tid} {next : System Tid} (hmutex : system.mutex = some tid)
    (hpc : system.session = .top) (hsession : SessionRun system next) : next = system := by
  obtain ⟨labels, hlabels, hrun⟩ := hsession
  cases labels with
  | nil => simpa [eq_comm] using hrun
  | cons label labels =>
      obtain ⟨middle, hstep, -⟩ := Run.exec_cons_eq_some.mp hrun
      have hlabel := hlabels label List.mem_cons_self
      cases label <;> simp [step, hpc, locked, hmutex, Label.isSession] at hstep hlabel

/-- One caller pings eleven times before the session thread takes up the first slot. -/
theorem eleventh_ping_deadlocks : ∃ (labels : List (Label Unit)) (system : System Unit),
    Run.exec step (init (connectedClient zeroClient none 0) 10 1024) labels = some system ∧
      system.Deadlocked ∧ ¬ system.CrashBound ∧
      ∀ next, SessionRun system next → (next.api ()).awaitsSlot := by
  let start : System Unit := init (connectedClient zeroClient none 0) 10 1024
  let ping : List (Label Unit) := [.call () (.ping none 0), .lockSlot (), .serialize (),
    .enqueueWaiting (), .enqueueSlot ()]
  let labels : List (Label Unit) :=
    (List.replicate 10 ping).flatten ++ [.call () (.ping none 0), .lockSlot ()]
  obtain ⟨system, hrun⟩ : ∃ system, Run.exec step start labels = some system :=
    Option.isSome_iff_exists.mp (by decide)
  have hfinal : (Run.exec step start labels).map (fun system => ((system.api ()).isSpinning,
      system.mutex, system.client.freeQueue.toList, system.session.isTop))
        = some (true, some (), [], true) := by
    decide
  rw [hrun] at hfinal
  simp only [Option.map_some, Option.some.injEq, Prod.mk.injEq] at hfinal
  obtain ⟨hspins, hmutex, hfree, htop⟩ := hfinal
  obtain ⟨serial, request, hapi⟩ : ∃ serial request, system.api () = .spinning serial request := by
    cases hapi : system.api () <;> simp_all [ApiPc.isSpinning]
  have hsession : system.session = .top := by
    cases hsession : system.session <;> simp_all [SessionPc.isTop]
  refine ⟨labels, system, hrun, ⟨(), serial, request, hapi, hmutex, hfree⟩, ?_, ?_⟩
  · simp [CrashBound, hsession]
  · intro next hnext
    rw [stuck_of_mutex hmutex hsession hnext, hapi]
    rfl

/-- A caller that waits while both slots are queued gets one of them back. -/
theorem caller_gets_queued_slot : ∃ (labels : List (Label Unit)) (system : System Unit),
    Run.exec step (init (connectedClient zeroClient none 0) 2 1024) labels = some system ∧
      (system.api ()).awaitsSlot ∧ system.client.freeQueue.toList = [] ∧
      ∃ middle final, SessionRun system middle ∧ middle.step (.lockSlot ()) = some final ∧
        (final.api ()).slot ≠ none := by
  let start : System Unit := init (connectedClient zeroClient none 0) 2 1024
  let ping : List (Label Unit) := [.call () (.ping none 0), .lockSlot (), .serialize (),
    .enqueueWaiting (), .enqueueSlot ()]
  let labels : List (Label Unit) := ping ++ ping ++ [.call () (.ping none 0)]
  obtain ⟨system, hrun⟩ : ∃ system, Run.exec step start labels = some system :=
    Option.isSome_iff_exists.mp (by decide)
  have hfinal : (Run.exec step start labels).map (fun system => ((system.api ()).awaitsSlot,
      system.client.freeQueue.toList, system.session.isTop)) = some (true, [], true) := by
    decide
  rw [hrun] at hfinal
  simp only [Option.map_some, Option.some.injEq, Prod.mk.injEq] at hfinal
  obtain ⟨hawaits, hfree, htop⟩ := hfinal
  have huncrowded :
      Run.Along step (fun system label => system.uncrowded 2 label = true) start labels := by
    decide
  have hcrash : ¬ system.CrashBound := by
    cases hsession : system.session <;> simp_all [SessionPc.isTop, CrashBound]
  exact ⟨labels, system, hrun, hawaits, hfree,
    (no_slot_deadlock huncrowded hrun).2 () hawaits hcrash⟩

end System

end Smqtt
