import Smqtt.Proof.Encoders
import Smqtt.System

/-!
# What a step can do

One inversion lemma for each label: the point at which its thread stands, whether the mutex has to
be free, and the state that follows.
-/

namespace Smqtt

/-- The request of a call that is not yet registered. -/
def ApiPc.request : ApiPc → Option Request
  | wanting _ request => some request
  | spinning _ request => some request
  | serializing _ request _ => some request
  | registering _ request _ _ => some request
  | _ => none

theorem Reply.length_frame (reply : Reply) : reply.frame.length = 4 := by
  cases reply <;> exact length_makeIdMessage _ _

/-- The steps that move frames and packets, and look nothing up. -/
def Label.isTransfer {Tid : Type} : Label Tid → Bool
  | sessionTop => true
  | sessionSend _ => true
  | sessionRequeue => true
  | sessionReceive _ _ _ => true
  | _ => false

/-- No record and no reply is in hand. -/
def SessionPc.handsFree : SessionPc → Bool
  | replying _ => false
  | registering _ => false
  | _ => true

namespace System

theorem locked_eq_some {Tid : Type} {system target next : System Tid} :
    system.locked target = some next ↔ system.mutex = none ∧ target = next := by
  simp [locked]

variable {Tid : Type} [DecidableEq Tid] {system next : System Tid} {tid : Tid}

theorem step_call {request : Request} :
    system.step (.call tid request) = some next ↔
      system.api tid = .idle ∧ system.call tid request = next := by
  cases hpc : system.api tid <;> simp [step, hpc]

theorem step_lockSlot :
    system.step (.lockSlot tid) = some next ↔ ∃ serial request,
      system.api tid = .wanting serial request ∧ system.mutex = none ∧
        system.trySlot tid serial request = next := by
  cases hpc : system.api tid <;> simp [step, hpc, locked_eq_some]

theorem step_spin :
    system.step (.spin tid) = some next ↔ ∃ serial request,
      system.api tid = .spinning serial request ∧ system.trySlot tid serial request = next := by
  cases hpc : system.api tid <;> simp [step, hpc]

theorem step_serialize :
    system.step (.serialize tid) = some next ↔ ∃ serial request slot,
      system.api tid = .serializing serial request slot ∧
        system.serialize tid serial request slot = next := by
  cases hpc : system.api tid <;> simp [step, hpc]

theorem step_enqueueWaiting :
    system.step (.enqueueWaiting tid) = some next ↔ ∃ serial request slot outgoing,
      system.api tid = .registering serial request slot outgoing ∧
        ((request.waiting system.client serial).isSome → system.mutex = none) ∧
        system.register tid serial request slot outgoing = next := by
  cases hpc : system.api tid with
  | registering serial request slot outgoing =>
      cases hwaiting : (request.waiting system.client serial).isSome <;>
        simp [step, hpc, hwaiting, locked_eq_some]
  | _ => simp [step, hpc]

theorem step_enqueueSlot :
    system.step (.enqueueSlot tid) = some next ↔ ∃ serial slot outgoing,
      system.api tid = .enqueueing serial slot outgoing ∧ system.mutex = none ∧
        system.enqueueSlot tid serial slot outgoing = next := by
  cases hpc : system.api tid <;> simp [step, hpc, locked_eq_some]

theorem step_signalDisconnect :
    system.step .signalDisconnect = some next ↔ system.mutex = none ∧
      { system with client := { system.client with readyToDisconnect := true } } = next := by
  simp [step, locked_eq_some]

theorem step_sessionTop :
    system.step .sessionTop = some next ↔
      system.session = .top ∧ system.mutex = none ∧ system.sessionTop = next := by
  cases hpc : system.session <;> simp [step, hpc, locked_eq_some]

theorem step_sessionSend {sent : Bool} :
    system.step (.sessionSend sent) = some next ↔ ∃ slot,
      system.session = .sending slot ∧ system.sessionSend slot = next := by
  cases hpc : system.session <;> simp [step, hpc]

theorem step_sessionRequeue :
    system.step .sessionRequeue = some next ↔ ∃ slot,
      system.session = .requeueing slot ∧ system.mutex = none ∧
        system.sessionRequeue slot = next := by
  cases hpc : system.session <;> simp [step, hpc, locked_eq_some]

theorem step_sessionReceive {buffer : Memory} {size : Int} {resp : Option Response} :
    system.step (.sessionReceive buffer size resp) = some next ↔
      system.session = .receiving ∧ system.sessionReceive buffer size resp = next := by
  cases hpc : system.session <;> simp [step, hpc]

theorem step_sessionHandle :
    system.step .sessionHandle = some next ↔ ∃ resp,
      system.session = .handling resp ∧ (resp.searches → system.mutex = none) ∧
        system.sessionHandle resp = next := by
  cases hpc : system.session with
  | handling resp =>
      cases hsearches : resp.searches <;> simp [step, hpc, hsearches, locked_eq_some]
  | _ => simp [step, hpc]

theorem step_sessionReply {sent : Bool} :
    system.step (.sessionReply sent) = some next ↔ ∃ reply,
      system.session = .replying reply ∧ system.sessionReply reply sent = next := by
  cases hpc : system.session <;> simp [step, hpc]

theorem step_sessionRegister :
    system.step .sessionRegister = some next ↔ ∃ waiting,
      system.session = .registering waiting ∧ system.mutex = none ∧
        system.sessionRegister waiting = next := by
  cases hpc : system.session <;> simp [step, hpc, locked_eq_some]

/-! ### Actions with several outcomes -/

theorem call_of_refused {request : Request} {status : MtStatus}
    (hrefused : request.refused system.client = some status) :
    system.call tid request
      = { system with
          calls := system.calls + 1
          events := system.events
            ++ [.called system.calls request, .refused system.calls status] } := by
  simp [call, log, hrefused]

theorem call_of_accepted {request : Request} (hrefused : request.refused system.client = none) :
    system.call tid request
      = { system with
          calls := system.calls + 1
          events := system.events ++ [Event.called system.calls request] }.setApi tid
            (.wanting system.calls request) := by
  simp [call, log, hrefused]

theorem trySlot_of_cons {serial : Nat} {request : Request} {slot : UInt16} {rest : List UInt16}
    (hfree : system.client.freeQueue.toList = slot :: rest) :
    system.trySlot tid serial request
      = { system with
          client := { system.client with freeQueue := system.client.freeQueue.dequeue.2 }
          mutex := none }.setApi tid (.serializing serial request slot) := by
  simp only [trySlot]
  rw [LinkedQueue.dequeue_of_cons hfree]

theorem trySlot_of_nil {serial : Nat} {request : Request}
    (hfree : system.client.freeQueue.toList = []) :
    system.trySlot tid serial request
      = { system with mutex := some tid }.setApi tid (.spinning serial request) := by
  simp only [trySlot]
  rw [LinkedQueue.dequeue_of_nil hfree]

theorem register_eq {serial : Nat} {request : Request} {slot : UInt16} {outgoing : Outgoing} :
    system.register tid serial request slot outgoing
      = { system with
          client := request.register system.client serial
          events := system.events
            ++ (request.waiting system.client serial).toList.map Event.registered }.setApi tid
              (.enqueueing serial slot outgoing) := rfl

theorem enqueueSlot_eq {serial : Nat} {slot : UInt16} {outgoing : Outgoing} :
    system.enqueueSlot tid serial slot outgoing
      = { system with
          client := enqueueSlotForSend system.client slot outgoing.bytes.length
          events := system.events ++ [Event.enqueued serial outgoing, Event.returned serial] }.setApi tid
            .idle := rfl

omit [DecidableEq Tid] in
theorem sessionTop_of_ready (hready : system.client.readyToDisconnect = true) :
    system.sessionTop = { system with session := .ended } := by
  simp [sessionTop, hready]

omit [DecidableEq Tid] in
theorem sessionTop_of_cons {slot : UInt16} {rest : List UInt16}
    (hready : system.client.readyToDisconnect = false)
    (hqueue : system.client.sendQueue.toList = slot :: rest) :
    system.sessionTop
      = { system with
          client := { system.client with sendQueue := system.client.sendQueue.dequeue.2 }
          session := .sending slot } := by
  simp only [sessionTop, hready, Bool.false_eq_true, if_false]
  rw [LinkedQueue.dequeue_of_cons hqueue]

omit [DecidableEq Tid] in
theorem sessionTop_of_nil
    (hready : system.client.readyToDisconnect = false)
    (hqueue : system.client.sendQueue.toList = []) :
    system.sessionTop = { system with session := .receiving } := by
  simp only [sessionTop, hready, Bool.false_eq_true, if_false]
  rw [LinkedQueue.dequeue_of_nil hqueue]

omit [DecidableEq Tid] in
theorem sessionReceive_of_nothing {buffer : Memory} {size : Int} {resp : Option Response}
    (hsize : ¬ 0 < size) :
    system.sessionReceive buffer size resp
      = { system with
          client := { system.client with receiveBuffer := buffer }
          session := .top } := by
  simp [sessionReceive, hsize]

omit [DecidableEq Tid] in
theorem sessionReceive_of_null {buffer : Memory} {size : Int} (hsize : 0 < size) :
    system.sessionReceive buffer size none
      = { system with
          client := { system.client with receiveBuffer := buffer }
          session := .crashed } := by
  simp [sessionReceive, hsize]

omit [DecidableEq Tid] in
theorem sessionReceive_of_packet {buffer : Memory} {size : Int} {resp : Response}
    (hsize : 0 < size) :
    system.sessionReceive buffer size (some resp)
      = { system with
          client := { system.client with receiveBuffer := buffer }
          session := .handling resp
          events := system.events ++ [.received buffer resp] } := by
  simp [sessionReceive, log, hsize]

omit [DecidableEq Tid] in
/-- At the top of the loop the session thread ends, takes a slot to send, or goes on to receive. -/
theorem sessionTop_cases (system : System Tid) :
    (system.client.readyToDisconnect = true ∧
        system.sessionTop = { system with session := .ended }) ∨
      (system.client.readyToDisconnect = false ∧ system.client.sendQueue.toList = [] ∧
        system.sessionTop = { system with session := .receiving }) ∨
      ∃ slot rest, system.client.readyToDisconnect = false ∧
        system.client.sendQueue.toList = slot :: rest ∧
        system.sessionTop = { system with
          client := { system.client with sendQueue := system.client.sendQueue.dequeue.2 }
          session := .sending slot } := by
  cases hready : system.client.readyToDisconnect with
  | true => exact .inl ⟨rfl, sessionTop_of_ready hready⟩
  | false =>
      cases hqueue : system.client.sendQueue.toList with
      | nil => exact .inr (.inl ⟨rfl, rfl, sessionTop_of_nil hready hqueue⟩)
      | cons slot rest => exact .inr (.inr ⟨slot, rest, rfl, rfl, sessionTop_of_cons hready hqueue⟩)

omit [DecidableEq Tid] in
/-- A packet is handled if there is one; the thread reads through the null pointer for a size without
a packet. -/
theorem sessionReceive_cases (system : System Tid) (buffer : Memory) (size : Int)
    (resp : Option Response) :
    (¬ 0 < size ∧ system.sessionReceive buffer size resp = { system with
        client := { system.client with receiveBuffer := buffer }
        session := .top }) ∨
      (0 < size ∧ resp = none ∧ system.sessionReceive buffer size resp = { system with
        client := { system.client with receiveBuffer := buffer }
        session := .crashed }) ∨
      ∃ packet, 0 < size ∧ resp = some packet ∧
        system.sessionReceive buffer size resp = { system with
          client := { system.client with receiveBuffer := buffer }
          session := .handling packet
          events := system.events ++ [.received buffer packet] } := by
  by_cases hsize : 0 < size
  · cases resp with
    | none => exact .inr (.inl ⟨hsize, rfl, sessionReceive_of_null hsize⟩)
    | some packet => exact .inr (.inr ⟨packet, hsize, rfl, sessionReceive_of_packet hsize⟩)
  · exact .inl ⟨hsize, sessionReceive_of_nothing hsize⟩

/-! ### Handling a packet -/

theorem withWaiting_client (client : Client) (type : MessageType) (packetId : UInt16)
    (found : Waiting → SessionPc × List Event) :
    ∃ ackQueue, (withWaiting client type packetId found).1 = { client with ackQueue } := by
  unfold withWaiting
  split <;> exact ⟨_, rfl⟩

/-- Handling a packet changes nothing of the client but `ack_queue`. -/
theorem handleResponse_client (client : Client) (resp : Response) :
    ∃ ackQueue, (handleResponse client resp).1 = { client with ackQueue } := by
  cases resp with
  | publish data =>
      simp only [handleResponse]
      split_ifs <;> exact ⟨_, rfl⟩
  | pingresp => exact withWaiting_client _ _ _ _
  | puback packetId => exact withWaiting_client _ _ _ _
  | pubrec packetId => exact withWaiting_client _ _ _ _
  | pubcomp packetId => exact withWaiting_client _ _ _ _
  | suback packetId results => exact withWaiting_client _ _ _ _
  | unsuback packetId => exact withWaiting_client _ _ _ _
  | pubrel packetId => exact withWaiting_client _ _ _ _
  | _ => exact ⟨_, rfl⟩

/-- What can come of a packet or of a reply: where the session thread stands next, and what is seen
of it. -/
inductive Outcome : SessionPc × List Event → Prop
  | done : Outcome (.top, [])
  | crashed : Outcome (.crashed, [])
  | reply (reply : Reply) : Outcome (.replying reply, [])
  | register (waiting : Waiting) : Outcome (.registering waiting, [])
  | callback (waiting : Waiting) (resp : Response) : Outcome (.top, [.callback waiting resp])
  | subCallback (waiting : Waiting) (packetId : UInt16) (results : List SubResult) :
      Outcome (.top, [.subCallback waiting packetId results])
  | delivered (topic msg : List UInt8) (qos : QoS) (retain : Bool) (context : Nat) :
      Outcome (.top, [.delivered topic msg qos retain context])

theorem withWaiting_outcome (client : Client) (type : MessageType) (packetId : UInt16)
    {found : Waiting → SessionPc × List Event} (hfound : ∀ waiting, Outcome (found waiting)) :
    Outcome (withWaiting client type packetId found).2 := by
  unfold withWaiting
  split
  · exact .crashed
  · exact .done
  · exact .crashed
  · exact hfound _

theorem runCallback_outcome (resp : Response) (waiting : Waiting) :
    Outcome (runCallback resp waiting) := by
  unfold runCallback
  split
  · exact .crashed
  · exact .callback _ _

theorem runSubCallback_outcome (packetId : UInt16) (results : List SubResult) (waiting : Waiting) :
    Outcome (runSubCallback packetId results waiting) := by
  unfold runSubCallback
  split
  · exact .done
  · exact .subCallback _ _ _
  · exact .crashed

theorem runUnsubCallback_outcome (resp : Response) (waiting : Waiting) :
    Outcome (runUnsubCallback resp waiting) := by
  unfold runUnsubCallback
  split
  · exact .done
  · exact .callback _ _

theorem maybeDeliverMessage_outcome (client : Client) (data : PublishData) :
    Outcome (.top, maybeDeliverMessage client data) := by
  unfold maybeDeliverMessage
  split
  · exact .done
  · exact .delivered _ _ _ _ _

theorem handleResponse_outcome (client : Client) (resp : Response) :
    Outcome (handleResponse client resp).2 := by
  cases resp with
  | publish data =>
      simp only [handleResponse]
      split_ifs
      · exact maybeDeliverMessage_outcome client data
      · exact .reply _
      · exact .reply _
      · exact .done
  | pingresp => exact withWaiting_outcome _ _ _ (runCallback_outcome _)
  | puback packetId => exact withWaiting_outcome _ _ _ (runCallback_outcome _)
  | pubcomp packetId => exact withWaiting_outcome _ _ _ (runCallback_outcome _)
  | pubrec packetId => exact withWaiting_outcome _ _ _ fun _ => .reply _
  | pubrel packetId => exact withWaiting_outcome _ _ _ fun _ => .reply _
  | suback packetId results => exact withWaiting_outcome _ _ _ (runSubCallback_outcome _ _)
  | unsuback packetId => exact withWaiting_outcome _ _ _ (runUnsubCallback_outcome _)
  | _ => exact .done

theorem afterReply_outcome (client : Client) (reply : Reply) (sent : Bool) :
    Outcome (afterReply client reply sent) := by
  cases sent with
  | false => exact .done
  | true =>
      cases reply with
      | puback data => exact maybeDeliverMessage_outcome client data
      | pubrec data => exact .register _
      | pubrel waiting packetId => exact .register _
      | pubcomp waiting packetId =>
          simp only [afterReply, deliverWaiting, if_true]
          split
          · exact .done
          · exact .delivered _ _ _ _ _
          · exact .crashed

/-! ### Steps of the session thread -/

/-- What the session thread leaves alone. -/
structure SessionFrame (system next : System Tid) : Prop where
  client : ∃ receiveBuffer freeQueue sendQueue ackQueue,
    next.client = { system.client with receiveBuffer, freeQueue, sendQueue, ackQueue }
  api : next.api = system.api
  mutex : next.mutex = system.mutex
  serialized : next.serialized = system.serialized
  calls : next.calls = system.calls
  events : ∃ events, next.events = system.events ++ events ∧ ∀ event ∈ events, event.isSession

theorem Outcome.isSession {outcome : SessionPc × List Event} (houtcome : Outcome outcome) :
    ∀ event ∈ outcome.2, event.isSession := by
  cases houtcome <;> simp [Event.isSession]

theorem sessionFrame_step {label : Label Tid} (hlabel : label.isSession)
    (hstep : system.step label = some next) : SessionFrame system next := by
  cases label with
  | sessionTop =>
      obtain ⟨-, -, rfl⟩ := step_sessionTop.mp hstep
      obtain ⟨-, htop⟩ | ⟨-, -, htop⟩ | ⟨slot, rest, -, -, htop⟩ := system.sessionTop_cases
      · rw [htop]
        exact ⟨⟨_, _, _, _, rfl⟩, rfl, rfl, rfl, rfl, [], by simp⟩
      · rw [htop]
        exact ⟨⟨_, _, _, _, rfl⟩, rfl, rfl, rfl, rfl, [], by simp⟩
      · rw [htop]
        exact ⟨⟨_, _, _, _, rfl⟩, rfl, rfl, rfl, rfl, [], by simp⟩
  | sessionSend sent =>
      obtain ⟨slot, -, rfl⟩ := step_sessionSend.mp hstep
      exact ⟨⟨_, _, _, _, rfl⟩, rfl, rfl, rfl, rfl, _, rfl, by simp [Event.isSession]⟩
  | sessionRequeue =>
      obtain ⟨slot, -, -, rfl⟩ := step_sessionRequeue.mp hstep
      exact ⟨⟨_, _, _, _, rfl⟩, rfl, rfl, rfl, rfl, [], by simp [sessionRequeue]⟩
  | sessionReceive buffer size resp =>
      obtain ⟨-, rfl⟩ := step_sessionReceive.mp hstep
      obtain ⟨-, hreceive⟩ | ⟨-, -, hreceive⟩ | ⟨packet, -, -, hreceive⟩ :=
        system.sessionReceive_cases buffer size resp
      · rw [hreceive]
        exact ⟨⟨_, _, _, _, rfl⟩, rfl, rfl, rfl, rfl, [], by simp⟩
      · rw [hreceive]
        exact ⟨⟨_, _, _, _, rfl⟩, rfl, rfl, rfl, rfl, [], by simp⟩
      · rw [hreceive]
        exact ⟨⟨_, _, _, _, rfl⟩, rfl, rfl, rfl, rfl, _, rfl, by simp [Event.isSession]⟩
  | sessionHandle =>
      obtain ⟨resp, -, -, rfl⟩ := step_sessionHandle.mp hstep
      obtain ⟨ackQueue, hclient⟩ := handleResponse_client system.client resp
      exact ⟨⟨_, _, _, _, hclient⟩, rfl, rfl, rfl, rfl, _, rfl,
        (handleResponse_outcome system.client resp).isSession⟩
  | sessionReply sent =>
      obtain ⟨reply, -, rfl⟩ := step_sessionReply.mp hstep
      refine ⟨⟨_, _, _, _, rfl⟩, rfl, rfl, rfl, rfl, _, rfl, ?_⟩
      exact List.forall_mem_cons.mpr ⟨rfl, (afterReply_outcome _ reply sent).isSession⟩
  | sessionRegister =>
      obtain ⟨waiting, -, -, rfl⟩ := step_sessionRegister.mp hstep
      exact ⟨⟨_, _, _, _, rfl⟩, rfl, rfl, rfl, rfl, [], by simp [sessionRegister]⟩
  | _ => simp [Label.isSession] at hlabel

/-- What the moving of frames and packets leaves alone. -/
structure TransferFrame (system next : System Tid) : Prop where
  ackQueue : next.client.ackQueue = system.client.ackQueue
  session : next.session.handsFree
  callbacks : ∀ waiting resp, .callback waiting resp ∈ next.events →
    .callback waiting resp ∈ system.events

theorem transferFrame_step {label : Label Tid} (hlabel : label.isTransfer)
    (hstep : system.step label = some next) : TransferFrame system next := by
  cases label with
  | sessionTop =>
      obtain ⟨-, -, rfl⟩ := step_sessionTop.mp hstep
      obtain ⟨-, htop⟩ | ⟨-, -, htop⟩ | ⟨slot, rest, -, -, htop⟩ := system.sessionTop_cases
      · rw [htop]
        exact ⟨rfl, rfl, fun _ _ => id⟩
      · rw [htop]
        exact ⟨rfl, rfl, fun _ _ => id⟩
      · rw [htop]
        exact ⟨rfl, rfl, fun _ _ => id⟩
  | sessionSend sent =>
      obtain ⟨slot, -, rfl⟩ := step_sessionSend.mp hstep
      exact ⟨rfl, rfl, by simp [sessionSend, log]⟩
  | sessionRequeue =>
      obtain ⟨slot, -, -, rfl⟩ := step_sessionRequeue.mp hstep
      exact ⟨rfl, rfl, fun _ _ => id⟩
  | sessionReceive buffer size resp =>
      obtain ⟨-, rfl⟩ := step_sessionReceive.mp hstep
      obtain ⟨-, hreceive⟩ | ⟨-, -, hreceive⟩ | ⟨packet, -, -, hreceive⟩ :=
        system.sessionReceive_cases buffer size resp
      · rw [hreceive]
        exact ⟨rfl, rfl, fun _ _ => id⟩
      · rw [hreceive]
        exact ⟨rfl, rfl, fun _ _ => id⟩
      · rw [hreceive]
        exact ⟨rfl, rfl, by simp⟩
  | _ => simp [Label.isTransfer] at hlabel

omit [DecidableEq Tid] in
theorem mem_sessionRegister {waiting other : Waiting} :
    other ∈ (system.sessionRegister waiting).client.ackQueue.toList ↔
      other ∈ system.client.ackQueue.toList ∨ other = waiting := by
  simp [sessionRegister, enqueueWaiting]

/-! ### Steps of the API threads -/

/-- What the API threads leave alone. They add records to `ack_queue`, each that of a request. -/
structure ApiFrame (system next : System Tid) : Prop where
  session : next.session = system.session
  connected : next.client.connected = system.client.connected
  receiveBuffer : next.client.receiveBuffer = system.client.receiveBuffer
  msgCallback : next.client.msgCallback = system.client.msgCallback
  entries : ∃ added, next.client.ackQueue.toList = system.client.ackQueue.toList ++ added ∧
    ∀ waiting ∈ added, Event.registered waiting ∈ next.events ∧
      ∃ (request : Request) (serial : Nat), request.waiting system.client serial = some waiting
  events : ∃ events, next.events = system.events ++ events ∧ ∀ event ∈ events, ¬ event.isSession

theorem apiFrame_trySlot {serial : Nat} {request : Request} :
    ApiFrame system (system.trySlot tid serial request) := by
  cases hfree : system.client.freeQueue.toList with
  | nil =>
      rw [trySlot_of_nil hfree]
      exact ⟨rfl, rfl, rfl, rfl, ⟨[], by simp [setApi]⟩, [], by simp [setApi]⟩
  | cons slot rest =>
      rw [trySlot_of_cons hfree]
      exact ⟨rfl, rfl, rfl, rfl, ⟨[], by simp [setApi]⟩, [], by simp [setApi]⟩

/-- Registering a request touches the records and the counter of the publishes, and nothing else. -/
theorem Request.register_client (client : Client) (serial : Nat) (request : Request) :
    ∃ ackQueue publishPacketId,
      request.register client serial = { client with ackQueue, publishPacketId } := by
  unfold Request.register
  cases request.waiting client serial with
  | none => exact ⟨_, _, rfl⟩
  | some waiting => cases request <;> exact ⟨_, _, rfl⟩

theorem toList_register (client : Client) (serial : Nat) (request : Request) :
    (request.register client serial).ackQueue.toList
      = client.ackQueue.toList ++ (request.waiting client serial).toList := by
  unfold Request.register
  cases request.waiting client serial with
  | none => simp
  | some waiting => cases request <;> simp [enqueueWaiting]

theorem apiFrame_register {serial : Nat} {request : Request} {slot : UInt16} {outgoing : Outgoing} :
    ApiFrame system (system.register tid serial request slot outgoing) := by
  have hentries := toList_register system.client serial request
  obtain ⟨ackQueue, publishPacketId, hclient⟩ := Request.register_client system.client serial request
  rw [register_eq]
  refine ⟨rfl, ?_, ?_, ?_, ⟨_, hentries, ?_⟩, _, rfl, by simp [Event.isSession]⟩
  · simp only [setApi, hclient]
  · simp only [setApi, hclient]
  · simp only [setApi, hclient]
  · intro waiting hmem
    exact ⟨List.mem_append_right _ (List.mem_map_of_mem hmem), request, serial, by simpa using hmem⟩

theorem apiFrame_step {label : Label Tid} (hlabel : ¬ label.isSession)
    (hstep : system.step label = some next) : ApiFrame system next := by
  cases label with
  | call tid request =>
      obtain ⟨-, rfl⟩ := step_call.mp hstep
      cases hrefused : request.refused system.client with
      | some status =>
          rw [call_of_refused hrefused]
          exact ⟨rfl, rfl, rfl, rfl, ⟨[], by simp⟩, _, rfl, by simp [Event.isSession]⟩
      | none =>
          rw [call_of_accepted hrefused]
          exact ⟨rfl, rfl, rfl, rfl, ⟨[], by simp [setApi]⟩, _, rfl, by simp [Event.isSession]⟩
  | lockSlot tid =>
      obtain ⟨serial, request, -, -, rfl⟩ := step_lockSlot.mp hstep
      exact apiFrame_trySlot
  | spin tid =>
      obtain ⟨serial, request, -, rfl⟩ := step_spin.mp hstep
      exact apiFrame_trySlot
  | serialize tid =>
      obtain ⟨serial, request, slot, -, rfl⟩ := step_serialize.mp hstep
      cases request <;> exact ⟨rfl, rfl, rfl, rfl, ⟨[], by simp [serialize, setApi,
        Request.afterSerialize, serializeInto]⟩, [], by simp [serialize, setApi]⟩
  | enqueueWaiting tid =>
      obtain ⟨serial, request, slot, outgoing, -, -, rfl⟩ := step_enqueueWaiting.mp hstep
      exact apiFrame_register
  | enqueueSlot tid =>
      obtain ⟨serial, slot, outgoing, -, -, rfl⟩ := step_enqueueSlot.mp hstep
      rw [enqueueSlot_eq]
      exact ⟨rfl, rfl, rfl, rfl, ⟨[], by simp [setApi, enqueueSlotForSend]⟩, _, rfl,
        by simp [Event.isSession]⟩
  | signalDisconnect =>
      obtain ⟨-, rfl⟩ := step_signalDisconnect.mp hstep
      exact ⟨rfl, rfl, rfl, rfl, ⟨[], by simp⟩, [], by simp⟩
  | _ => simp [Label.isSession] at hlabel

/-! ### Who writes the buffers -/

theorem Request.bufferSlots_afterSerialize (client : Client) (request : Request) :
    (request.afterSerialize client).bufferSlots = client.bufferSlots := by
  cases request <;> rfl

theorem Request.bufferSlots_register (client : Client) (serial : Nat) (request : Request) :
    (request.register client serial).bufferSlots = client.bufferSlots := by
  obtain ⟨ackQueue, publishPacketId, hclient⟩ := Request.register_client client serial request
  rw [hclient]

/-- Only an API thread writes a buffer, and only one that it holds. -/
theorem bufferSlots_step {label : Label Tid} (hstep : system.step label = some next) :
    next.client.bufferSlots = system.client.bufferSlots ∨
      (∃ tid serial request slot, label = .serialize tid ∧
        system.api tid = .serializing serial request slot ∧
        next.client.bufferSlots = (serializeInto system.client slot
          (request.outgoing system.client).bytes).bufferSlots) ∨
      ∃ tid serial slot outgoing, label = .enqueueSlot tid ∧
        system.api tid = .enqueueing serial slot outgoing ∧
        next.client.bufferSlots
          = (enqueueSlotForSend system.client slot outgoing.bytes.length).bufferSlots := by
  cases label with
  | call tid request =>
      obtain ⟨-, rfl⟩ := step_call.mp hstep
      left
      cases hrefused : request.refused system.client with
      | some status => rw [call_of_refused hrefused]
      | none =>
          rw [call_of_accepted hrefused]
          rfl
  | lockSlot tid =>
      obtain ⟨serial, request, -, -, rfl⟩ := step_lockSlot.mp hstep
      left
      cases hfree : system.client.freeQueue.toList with
      | nil =>
          rw [trySlot_of_nil hfree]
          rfl
      | cons slot rest =>
          rw [trySlot_of_cons hfree]
          rfl
  | spin tid =>
      obtain ⟨serial, request, -, rfl⟩ := step_spin.mp hstep
      left
      cases hfree : system.client.freeQueue.toList with
      | nil =>
          rw [trySlot_of_nil hfree]
          rfl
      | cons slot rest =>
          rw [trySlot_of_cons hfree]
          rfl
  | serialize tid =>
      obtain ⟨serial, request, slot, hpc, rfl⟩ := step_serialize.mp hstep
      exact .inr (.inl ⟨tid, serial, request, slot, rfl, hpc,
        Request.bufferSlots_afterSerialize _ request⟩)
  | enqueueWaiting tid =>
      obtain ⟨serial, request, slot, outgoing, -, -, rfl⟩ := step_enqueueWaiting.mp hstep
      exact .inl (Request.bufferSlots_register system.client serial request)
  | enqueueSlot tid =>
      obtain ⟨serial, slot, outgoing, hpc, -, rfl⟩ := step_enqueueSlot.mp hstep
      exact .inr (.inr ⟨tid, serial, slot, outgoing, rfl, hpc, rfl⟩)
  | signalDisconnect =>
      obtain ⟨-, rfl⟩ := step_signalDisconnect.mp hstep
      exact .inl rfl
  | _ =>
      obtain ⟨_, _, _, _, hclient⟩ := (sessionFrame_step rfl hstep).client
      left
      rw [hclient]

/-! ### Who changes `send_queue` -/

theorem register_sendQueue (client : Client) (serial : Nat) (request : Request) :
    (request.register client serial).sendQueue = client.sendQueue ∧
      (request.register client serial).readyToDisconnect = client.readyToDisconnect := by
  obtain ⟨ackQueue, publishPacketId, hclient⟩ := Request.register_client client serial request
  rw [hclient]
  exact ⟨rfl, rfl⟩

theorem trySlot_sendQueue (system : System Tid) (tid : Tid) (serial : Nat) (request : Request) :
    (system.trySlot tid serial request).client.sendQueue = system.client.sendQueue ∧
      (system.trySlot tid serial request).client.readyToDisconnect
        = system.client.readyToDisconnect := by
  cases hfree : system.client.freeQueue.toList with
  | nil =>
      rw [trySlot_of_nil hfree]
      exact ⟨rfl, rfl⟩
  | cons slot rest =>
      rw [trySlot_of_cons hfree]
      exact ⟨rfl, rfl⟩

/-- Only a call puts a slot into `send_queue`; only the head of the session loop takes one out, and
only while the flag is not set. -/
theorem sendQueue_step {label : Label Tid} (hstep : system.step label = some next) :
    (∃ tid serial slot outgoing, label = .enqueueSlot tid ∧
        system.api tid = .enqueueing serial slot outgoing ∧
        next.client.sendQueue = system.client.sendQueue.enqueue slot) ∨
      (∀ tid, label ≠ .enqueueSlot tid) ∧
        (next.client.sendQueue = system.client.sendQueue ∨
          system.client.readyToDisconnect = false ∧
            next.client.sendQueue = system.client.sendQueue.dequeue.2) := by
  cases label with
  | call tid request =>
      obtain ⟨-, rfl⟩ := step_call.mp hstep
      refine .inr ⟨by simp, .inl ?_⟩
      cases hrefused : request.refused system.client with
      | some status => rw [call_of_refused hrefused]
      | none =>
          rw [call_of_accepted hrefused]
          rfl
  | lockSlot tid =>
      obtain ⟨serial, request, -, -, rfl⟩ := step_lockSlot.mp hstep
      exact .inr ⟨by simp, .inl (trySlot_sendQueue system tid serial request).1⟩
  | spin tid =>
      obtain ⟨serial, request, -, rfl⟩ := step_spin.mp hstep
      exact .inr ⟨by simp, .inl (trySlot_sendQueue system tid serial request).1⟩
  | serialize tid =>
      obtain ⟨serial, request, slot, -, rfl⟩ := step_serialize.mp hstep
      cases request <;> exact .inr ⟨by simp, .inl rfl⟩
  | enqueueWaiting tid =>
      obtain ⟨serial, request, slot, outgoing, -, -, rfl⟩ := step_enqueueWaiting.mp hstep
      exact .inr ⟨by simp, .inl (register_sendQueue system.client serial request).1⟩
  | enqueueSlot tid =>
      obtain ⟨serial, slot, outgoing, hpc, -, rfl⟩ := step_enqueueSlot.mp hstep
      exact .inl ⟨tid, serial, slot, outgoing, rfl, hpc, rfl⟩
  | sessionTop =>
      obtain ⟨-, -, rfl⟩ := step_sessionTop.mp hstep
      obtain ⟨-, htop⟩ | ⟨-, -, htop⟩ | ⟨slot, rest, hready, -, htop⟩ := system.sessionTop_cases
      · exact .inr ⟨by simp, .inl (by rw [htop])⟩
      · exact .inr ⟨by simp, .inl (by rw [htop])⟩
      · exact .inr ⟨by simp, .inr ⟨hready, by rw [htop]⟩⟩
  | signalDisconnect =>
      obtain ⟨-, rfl⟩ := step_signalDisconnect.mp hstep
      exact .inr ⟨by simp, .inl rfl⟩
  | sessionSend sent =>
      obtain ⟨slot, -, rfl⟩ := step_sessionSend.mp hstep
      exact .inr ⟨by simp, .inl rfl⟩
  | sessionRequeue =>
      obtain ⟨slot, -, -, rfl⟩ := step_sessionRequeue.mp hstep
      exact .inr ⟨by simp, .inl rfl⟩
  | sessionReceive buffer size resp =>
      obtain ⟨-, rfl⟩ := step_sessionReceive.mp hstep
      refine .inr ⟨by simp, .inl ?_⟩
      obtain ⟨-, hreceive⟩ | ⟨-, -, hreceive⟩ | ⟨packet, -, -, hreceive⟩ :=
        system.sessionReceive_cases buffer size resp
      · rw [hreceive]
      · rw [hreceive]
      · rw [hreceive]
  | sessionHandle =>
      obtain ⟨resp, -, -, rfl⟩ := step_sessionHandle.mp hstep
      obtain ⟨ackQueue, hclient⟩ := handleResponse_client system.client resp
      exact .inr ⟨by simp, .inl (by simp [sessionHandle, log, hclient])⟩
  | sessionReply sent =>
      obtain ⟨reply, -, rfl⟩ := step_sessionReply.mp hstep
      exact .inr ⟨by simp, .inl rfl⟩
  | sessionRegister =>
      obtain ⟨waiting, -, -, rfl⟩ := step_sessionRegister.mp hstep
      exact .inr ⟨by simp, .inl rfl⟩

/-- Memory that happens to be zero, for concrete runs. -/
def zeroClient : Client where
  connected := false
  publishPacketId := 0
  subscribePacketId := 0
  bufferCount := 0
  bufferSize := 0
  receiveBuffer := fun _ => 0
  bufferSlots := fun _ => ⟨0, fun _ => 0⟩
  readyToDisconnect := false
  freeQueue := .init
  sendQueue := .init
  ackQueue := .init
  msgCallback := none
  msgCbContext := 0

end System

end Smqtt
