import Smqtt.Proof.Calls
import Smqtt.Proof.Records

/-!
# Packet ids of publishes

`publish_packet_id` starts at one and moves on with every publish at QoS 1 or 2, and nothing else
looks at which ids are still in use. Up to the 65535th publish the ids are those from one on, each
used once. The 65536th publish gets the id zero.
-/

namespace Smqtt

/-- A publish that is acknowledged. -/
def Request.takesId : Request → Bool
  | publish _ _ qos _ _ _ => qos = QoS1 ∨ qos = QoS2
  | _ => false

/-- The record of a publish, at either stage. -/
def Waiting.ofPublish (waiting : Waiting) : Bool :=
  waiting.type = .puback ∨ waiting.type = .pubrec ∨ waiting.type = .pubcomp

/-- The id that the next publish gets is an id, and no publish waits under it. -/
structure Client.Fresh (client : Client) : Prop where
  nonzero : client.publishPacketId ≠ 0
  unused : ∀ waiting ∈ client.ackQueue.toList, waiting.ofPublish →
    waiting.data.plainId ≠ some client.publishPacketId

theorem Request.waiting_takesId (client : Client) (serial : Nat) {request : Request}
    (htakes : request.takesId) :
    ∃ waiting, request.waiting client serial = some waiting ∧ waiting.ofPublish ∧
      waiting.data.plainId = some client.publishPacketId ∧
      (request.register client serial).publishPacketId = client.publishPacketId + 1 := by
  cases request with
  | publish topic msg qos retain callback context =>
      obtain rfl | rfl := of_decide_eq_true htakes
      · exact ⟨_, rfl, rfl, rfl, rfl⟩
      · exact ⟨_, rfl, rfl, rfl, rfl⟩
  | _ => simp [Request.takesId] at htakes

theorem Request.waiting_not_takesId (client : Client) (serial : Nat) {request : Request}
    (htakes : ¬ request.takesId) :
    (∀ waiting ∈ request.waiting client serial, ¬ waiting.ofPublish) ∧
      (request.register client serial).publishPacketId = client.publishPacketId := by
  cases request with
  | publish topic msg qos retain callback context =>
      obtain ⟨hone, htwo⟩ : qos ≠ QoS1 ∧ qos ≠ QoS2 := by simpa [Request.takesId] using htakes
      simp [Request.waiting, Request.register, hone, htwo]
  | _ => simp [Request.waiting, Request.register, Waiting.ofPublish, enqueueWaiting]

/-! ### The invariant -/

/-- The id of a publish is one of the first. -/
def Waiting.Numbered (count : Nat) (waiting : Waiting) : Prop :=
  waiting.ofPublish → ∀ packetId, waiting.data.plainId = some packetId →
    1 ≤ packetId.toNat ∧ packetId.toNat ≤ count

/-- Between PUBREC and PUBCOMP the session thread holds the id. -/
def Reply.Numbered (count : Nat) : Reply → Prop
  | pubrel _ packetId => 1 ≤ packetId.toNat ∧ packetId.toNat ≤ count
  | _ => True

theorem Waiting.Numbered.mono {count more : Nat} {waiting : Waiting}
    (hnumbered : waiting.Numbered count) (hle : count ≤ more) : waiting.Numbered more := by
  intro hpublish packetId hid
  obtain ⟨hpos, hcount⟩ := hnumbered hpublish packetId hid
  exact ⟨hpos, hcount.trans hle⟩

theorem holding_mono {count more : Nat} {pc : SessionPc}
    (hholding : pc.Holding (Waiting.Numbered count) (Reply.Numbered count)) (hle : count ≤ more) :
    pc.Holding (Waiting.Numbered more) (Reply.Numbered more) := by
  cases pc with
  | replying reply =>
      cases reply with
      | pubrel waiting packetId => exact ⟨hholding.1, hholding.2.trans hle⟩
      | _ => trivial
  | registering waiting => exact Waiting.Numbered.mono hholding hle
  | _ => trivial

theorem plainId_of_take {packetId : UInt16} {waiting : Waiting}
    (htake : inspect .pubrec packetId waiting = .take) :
    waiting.ofPublish ∧ waiting.data.plainId = some packetId := by
  have htype := type_of_take htake
  refine ⟨by simp [Waiting.ofPublish, htype], ?_⟩
  simp only [inspect, htype, if_true, compareId] at htake
  cases hid : waiting.data.plainId with
  | none => simp [hid] at htake
  | some stored =>
      simp only [hid] at htake
      split_ifs at htake with heq
      · rw [heq]

theorem carried_numbered (count : Nat) :
    Reply.Carried (Waiting.Numbered count) (Reply.Numbered count) where
  puback _ := trivial
  pubrec _ := trivial
  pubrel _ packetId hwaiting htake :=
    have ⟨hpublish, hid⟩ := plainId_of_take htake
    hwaiting hpublish packetId hid
  pubcomp _ _ _ _ := trivial
  kept _ _ _ _ hpublish := by simp [Waiting.ofPublish] at hpublish
  released _ packetId hheld _ other hid := by
    obtain rfl : packetId = other := Option.some.inj hid
    exact hheld

namespace System

/-- How many publishes have taken an id. -/
def publishes (system : System Unit) : Nat := (system.records.filter Waiting.ofPublish).length

/-- The id counter is read for the frame, and again for the record. -/
def assigning (system : System Unit) : Label Unit → Bool
  | .serialize tid =>
      match system.api tid with
      | .serializing _ request _ => request.takesId
      | _ => false
  | .enqueueWaiting tid =>
      match system.api tid with
      | .registering _ request _ _ => request.takesId
      | _ => false
  | _ => false

/-- As long as the counter has not wrapped, the ids in use are the first ones. -/
structure Numbered (system : System Unit) : Prop where
  few : system.publishes ≤ 65535
  counter : system.client.publishPacketId.toNat = (system.publishes + 1) % 2 ^ 16
  entries : ∀ waiting ∈ system.client.ackQueue.toList, waiting.Numbered system.publishes
  session : system.session.Holding (Waiting.Numbered system.publishes)
    (Reply.Numbered system.publishes)

variable {system next : System Unit}

/-- Exactly the counter that is about to wrap gives an id that is not fresh. -/
theorem Numbered.freshIds_iff (hnumbered : system.Numbered) :
    system.client.Fresh ↔ system.publishes < 65535 := by
  have hfew := hnumbered.few
  have hcounter := hnumbered.counter
  constructor
  · intro hfresh
    have hne : system.client.publishPacketId.toNat ≠ 0 := by
      intro hzero
      exact hfresh.nonzero (UInt16.toNat_inj.mp hzero)
    omega
  · intro hlt
    rw [Nat.mod_eq_of_lt (by omega)] at hcounter
    refine ⟨?_, ?_⟩
    · intro hzero
      simp [hzero] at hcounter
    · intro waiting hmem hpublish hid
      have hbound := (hnumbered.entries waiting hmem hpublish _ hid).2
      omega

/-- A step that takes no id. -/
theorem Numbered.of_eq (hnumbered : system.Numbered) (hrecords : next.publishes = system.publishes)
    (hid : next.client.publishPacketId = system.client.publishPacketId)
    (hentries : ∀ waiting ∈ next.client.ackQueue.toList, waiting.Numbered system.publishes)
    (hsession : next.session.Holding (Waiting.Numbered system.publishes)
      (Reply.Numbered system.publishes)) : next.Numbered := by
  refine ⟨?_, ?_, ?_, ?_⟩
  · rw [hrecords]
    exact hnumbered.few
  · rw [hid, hrecords]
    exact hnumbered.counter
  · rwa [hrecords]
  · rwa [hrecords]

theorem numbered_register {serial : Nat} {request : Request} {slot : UInt16} {outgoing : Outgoing}
    (hnumbered : system.Numbered) (hallowed : request.takesId → system.publishes < 65535) :
    (system.register () serial request slot outgoing).Numbered := by
  have hrecords : (system.register () serial request slot outgoing).publishes
      = system.publishes
        + ((request.waiting system.client serial).toList.filter Waiting.ofPublish).length := by
    rw [publishes, records_register, List.filter_append, List.length_append, publishes]
  have hqueue : (system.register () serial request slot outgoing).client.ackQueue.toList
      = system.client.ackQueue.toList ++ (request.waiting system.client serial).toList :=
    toList_register system.client serial request
  by_cases htakes : request.takesId
  · obtain ⟨waiting, hwaiting, hpublish, hplain, hid⟩ :=
      Request.waiting_takesId system.client serial htakes
    have hlt := hallowed htakes
    have hcounter := hnumbered.counter
    rw [Nat.mod_eq_of_lt (by omega)] at hcounter
    have hcount : (system.register () serial request slot outgoing).publishes
        = system.publishes + 1 := by
      simp [hrecords, hwaiting, hpublish]
    refine ⟨?_, ?_, ?_, ?_⟩
    · rw [hcount]
      exact hlt
    · rw [hcount]
      change (request.register system.client serial).publishPacketId.toNat = _
      rw [hid, UInt16.toNat_add, hcounter]
      rfl
    · rw [hcount, hqueue, hwaiting]
      intro other hmem
      obtain hmem | hmem := List.mem_append.mp hmem
      · exact (hnumbered.entries other hmem).mono (Nat.le_succ _)
      · obtain rfl : other = waiting := by simpa using hmem
        intro _ packetId hpacketId
        obtain rfl : system.client.publishPacketId = packetId :=
          Option.some.inj (hplain.symm.trans hpacketId)
        omega
    · rw [hcount]
      exact holding_mono hnumbered.session (Nat.le_succ _)
  · obtain ⟨hother, hid⟩ := Request.waiting_not_takesId system.client serial htakes
    refine hnumbered.of_eq ?_ hid ?_ hnumbered.session
    · rw [hrecords, List.filter_eq_nil_iff.mpr fun waiting hmem =>
        hother waiting (Option.mem_toList.mp hmem)]
      rfl
    · rw [hqueue]
      intro waiting hmem
      obtain hmem | hmem := List.mem_append.mp hmem
      · exact hnumbered.entries waiting hmem
      · exact fun hpublish => absurd hpublish (hother waiting (Option.mem_toList.mp hmem))

theorem publishes_of_records (hrecords : next.records = system.records) :
    next.publishes = system.publishes := by
  rw [publishes, hrecords, publishes]

theorem numbered_session {label : Label Unit} (hnumbered : system.Numbered)
    (hlabel : label.isSession) (hstep : system.step label = some next) : next.Numbered := by
  obtain ⟨⟨_, _, _, _, hclient⟩, -, -, -, -, events, hevents, hsession⟩ :=
    sessionFrame_step hlabel hstep
  have hnone : events.filterMap Event.record = [] := List.filterMap_eq_nil_iff.mpr
    fun event hmem => (Event.record_of_isSession (hsession event hmem)).1
  obtain ⟨hentries, hholding⟩ := holding_session (carried_numbered system.publishes)
    hnumbered.entries hnumbered.session hlabel hstep
  refine hnumbered.of_eq (publishes_of_records ?_) (by rw [hclient]) hentries hholding
  rw [records, hevents, List.filterMap_append, hnone, List.append_nil, records]

theorem numbered_trySlot {serial : Nat} {request : Request} (hnumbered : system.Numbered) :
    (system.trySlot () serial request).Numbered := by
  cases hfree : system.client.freeQueue.toList with
  | nil =>
      rw [trySlot_of_nil hfree]
      exact hnumbered.of_eq rfl rfl hnumbered.entries hnumbered.session
  | cons slot rest =>
      rw [trySlot_of_cons hfree]
      exact hnumbered.of_eq rfl rfl hnumbered.entries hnumbered.session

theorem numbered_step {label : Label Unit} (hnumbered : system.Numbered)
    (hallowed : system.assigning label → system.publishes < 65535)
    (hstep : system.step label = some next) : next.Numbered := by
  cases label with
  | call tid request =>
      obtain ⟨-, rfl⟩ := step_call.mp hstep
      cases hrefused : request.refused system.client with
      | some status =>
          rw [call_of_refused hrefused]
          refine hnumbered.of_eq (publishes_of_records ?_) rfl hnumbered.entries hnumbered.session
          simp [records, Event.record]
      | none =>
          rw [call_of_accepted hrefused]
          refine hnumbered.of_eq (publishes_of_records ?_) rfl hnumbered.entries hnumbered.session
          simp [records, setApi, Event.record]
  | lockSlot tid =>
      obtain ⟨serial, request, -, -, rfl⟩ := step_lockSlot.mp hstep
      exact numbered_trySlot hnumbered
  | spin tid =>
      obtain ⟨serial, request, -, rfl⟩ := step_spin.mp hstep
      exact numbered_trySlot hnumbered
  | serialize tid =>
      obtain ⟨serial, request, slot, -, rfl⟩ := step_serialize.mp hstep
      cases request <;> exact hnumbered.of_eq rfl rfl hnumbered.entries hnumbered.session
  | enqueueWaiting tid =>
      obtain ⟨serial, request, slot, outgoing, hpc, -, rfl⟩ := step_enqueueWaiting.mp hstep
      refine numbered_register hnumbered fun htakes => hallowed ?_
      simpa [assigning, hpc] using htakes
  | enqueueSlot tid =>
      obtain ⟨serial, slot, outgoing, -, -, rfl⟩ := step_enqueueSlot.mp hstep
      rw [enqueueSlot_eq]
      refine hnumbered.of_eq (publishes_of_records ?_) rfl hnumbered.entries hnumbered.session
      simp [records, setApi, Event.record]
  | signalDisconnect =>
      obtain ⟨-, rfl⟩ := step_signalDisconnect.mp hstep
      exact hnumbered.of_eq rfl rfl hnumbered.entries hnumbered.session
  | _ => exact numbered_session hnumbered rfl hstep

theorem numbered_init (uninitialised : Client) (msgCallback : Callback) (msgCbContext : Nat)
    (bufferCount : UInt16) (bufferSize : Nat) :
    (init (connectedClient uninitialised msgCallback msgCbContext) bufferCount bufferSize).Numbered
    where
  few := by simp [publishes, records, init, start]
  counter := by simp [publishes, records, init, start, startSessionThread, connectedClient]
  entries := by simp [init, start, startSessionThread]
  session := trivial

/-- **Packet id allocation.** One thread makes calls, whatever is acknowledged meanwhile. Each
publish gets a fresh id exactly if each is among the first 65535. -/
theorem ids_fresh_iff (uninitialised : Client) (msgCallback : Callback) (msgCbContext : Nat)
    (bufferCount : UInt16) (bufferSize : Nat) (labels : List (Label Unit)) :
    Run.Along step (fun system label => system.assigning label → system.client.Fresh)
        (init (connectedClient uninitialised msgCallback msgCbContext) bufferCount bufferSize)
        labels ↔
      Run.Along step (fun system label => system.assigning label → system.publishes < 65535)
        (init (connectedClient uninitialised msgCallback msgCbContext) bufferCount bufferSize)
        labels :=
  Run.along_congr Numbered
    (fun _ _ hnumbered => imp_congr_right fun _ => hnumbered.freshIds_iff)
    (fun _ _ _ hnumbered hallowed hstep => numbered_step hnumbered hallowed hstep)
    (numbered_init uninitialised msgCallback msgCbContext bufferCount bufferSize)

/-! ### Running out of ids -/

def publishRequest : Request := .publish ⟨[116], by decide⟩ none QoS1 false (some 0) 0

/-- Publish, and let the session thread go around once without receiving anything. -/
def publishRound : List (Label Unit) :=
  [.call () publishRequest, .lockSlot (), .serialize (), .enqueueWaiting (), .enqueueSlot (),
    .sessionTop, .sessionSend true, .sessionRequeue, .sessionReceive (fun _ => 0) 0 none]

/-- Between two rounds of a client with one slot. -/
structure Resting (count : Nat) (system : System Unit) : Prop where
  connected : system.client.connected = true
  ready : system.client.readyToDisconnect = false
  free : system.client.freeQueue.toList = [0]
  queued : system.client.sendQueue.toList = []
  mutex : system.mutex = none
  api : system.api () = .idle
  session : system.session = .top
  counter : system.client.publishPacketId = UInt16.ofNat (count + 1)

/-- Up to the point where the id is read. -/
theorem Resting.begun {count : Nat} (hresting : Resting count system) :
    ∃ next serial slot, Run.exec step system [.call () publishRequest, .lockSlot ()] = some next ∧
      next.api () = .serializing serial publishRequest slot ∧
      next.client.publishPacketId = UInt16.ofNat (count + 1) := by
  have haccepted : publishRequest.refused system.client = none := by
    simp [publishRequest, Request.refused, hresting.connected, QoS1, QoS2]
  refine ⟨_, _, _, Run.exec_cons_eq_some.mpr ⟨_, step_call.mpr ⟨hresting.api,
      call_of_accepted haccepted⟩,
    Run.exec_cons_eq_some.mpr ⟨_, step_lockSlot.mpr ⟨_, _, rfl, hresting.mutex,
      trySlot_of_cons hresting.free⟩, rfl⟩⟩, rfl, hresting.counter⟩

theorem Resting.round {count : Nat} (hresting : Resting count system) :
    ∃ next, Run.exec step system publishRound = some next ∧ Resting (count + 1) next := by
  have haccepted : publishRequest.refused system.client = none := by
    simp [publishRequest, Request.refused, hresting.connected, QoS1, QoS2]
  have hqueued : (system.client.sendQueue.enqueue 0).toList = [0] := by
    rw [LinkedQueue.toList_enqueue, hresting.queued]
    rfl
  refine ⟨_, Run.exec_cons_eq_some.mpr ⟨_, step_call.mpr ⟨hresting.api,
      call_of_accepted haccepted⟩,
    Run.exec_cons_eq_some.mpr ⟨_, step_lockSlot.mpr ⟨_, _, rfl, hresting.mutex,
      trySlot_of_cons hresting.free⟩,
    Run.exec_cons_eq_some.mpr ⟨_, step_serialize.mpr ⟨_, _, _, rfl, rfl⟩,
    Run.exec_cons_eq_some.mpr ⟨_, step_enqueueWaiting.mpr ⟨_, _, _, _, rfl, fun _ => rfl, rfl⟩,
    Run.exec_cons_eq_some.mpr ⟨_, step_enqueueSlot.mpr ⟨_, _, _, rfl, rfl, rfl⟩,
    Run.exec_cons_eq_some.mpr ⟨_, step_sessionTop.mpr ⟨hresting.session, rfl,
      sessionTop_of_cons hresting.ready hqueued⟩,
    Run.exec_cons_eq_some.mpr ⟨_, step_sessionSend.mpr ⟨_, rfl, rfl⟩,
    Run.exec_cons_eq_some.mpr ⟨_, step_sessionRequeue.mpr ⟨_, rfl, rfl, rfl⟩,
    Run.exec_cons_eq_some.mpr ⟨_, step_sessionReceive.mpr ⟨rfl,
      sessionReceive_of_nothing (by decide)⟩, rfl⟩⟩⟩⟩⟩⟩⟩⟩⟩, ?_⟩
  refine ⟨hresting.connected, hresting.ready, ?_, ?_, rfl, rfl, rfl, ?_⟩
  · change (system.client.freeQueue.dequeue.2.enqueue 0).toList = [0]
    rw [LinkedQueue.toList_enqueue, LinkedQueue.toList_dequeue, hresting.free]
    rfl
  · change (system.client.sendQueue.enqueue 0).dequeue.2.toList = []
    rw [LinkedQueue.toList_dequeue, hqueued]
    rfl
  · change system.client.publishPacketId + 1 = UInt16.ofNat (count + 1 + 1)
    rw [hresting.counter, UInt16.ofNat_add (count + 1) 1]
    rfl

theorem Resting.rounds (hresting : Resting 0 system) (count : Nat) :
    ∃ next, Run.exec step system (List.replicate count publishRound).flatten = some next ∧
      Resting count next := by
  induction count with
  | zero => exact ⟨system, rfl, hresting⟩
  | succ count ih =>
      obtain ⟨middle, hrounds, hmiddle⟩ := ih
      obtain ⟨next, hround, hnext⟩ := hmiddle.round
      refine ⟨next, ?_, hnext⟩
      rw [List.replicate_succ', List.flatten_append, List.flatten_singleton]
      exact Run.exec_append_eq_some.mpr ⟨middle, hrounds, hround⟩

/-- The 65536th publish gets the id zero. -/
theorem ids_run_out : ∃ labels : List (Label Unit),
    (Run.exec step (init (connectedClient zeroClient none 0) 1 1024) labels).isSome ∧
      ¬ Run.Along step (fun system label => system.assigning label → system.client.Fresh)
        (init (connectedClient zeroClient none 0) 1 1024) labels := by
  have hstart : Resting 0 (init (connectedClient zeroClient none 0) 1 1024) :=
    ⟨rfl, rfl, by decide, rfl, rfl, rfl, rfl, rfl⟩
  obtain ⟨middle, hrounds, hmiddle⟩ := hstart.rounds 65535
  obtain ⟨next, hround, -⟩ := hmiddle.round
  refine ⟨(List.replicate 65535 publishRound).flatten ++ publishRound, ?_, ?_⟩
  · rw [Run.exec_append_eq_some.mpr ⟨middle, hrounds, hround⟩]
    rfl
  · intro halong
    have hround : Run.Along step (fun system label => system.assigning label → system.client.Fresh)
        middle ([.call () publishRequest, .lockSlot ()] ++ publishRound.drop 2) :=
      halong.drop hrounds
    obtain ⟨last, serial, slot, hbegun, hpc, hcounter⟩ := hmiddle.begun
    have hassigning : last.assigning (.serialize ()) := by
      simp only [assigning, hpc]
      rfl
    have hfresh := (hround.drop hbegun).1 hassigning
    exact hfresh.nonzero hcounter

end System

end Smqtt
