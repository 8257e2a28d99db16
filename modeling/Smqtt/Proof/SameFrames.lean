import Smqtt.Dialogue
import Smqtt.MtConnect
import Smqtt.Proof.Agreement
import Smqtt.Proof.Connect
import Smqtt.Proof.Steps

/-!
# Both clients write the same frames

The single-threaded client counts its publishes from 0 and moves the id before it serializes, the
multi-threaded one from 1 and moves it afterwards. A publish of QoS 0 carries no id, and one above
QoS 2 is refused by both. So the k-th PUBLISH of either is given by the publishes alone.
-/

namespace Smqtt

open Interaction

/-- The arguments of a publish that make up its frame. -/
structure Publish where
  topic : CString
  msg : Option CString
  qos : QoS
  retain : Bool

namespace Publish

def operation (publish : Publish) : Operation :=
  .publish publish.topic publish.msg publish.qos publish.retain

def request (publish : Publish) (callback : Callback) (context : Nat) : Request :=
  .publish publish.topic publish.msg publish.qos publish.retain callback context

def frame (publish : Publish) (packetId : UInt16) : List UInt8 :=
  makePublishMessage publish.topic packetId publish.qos publish.retain publish.msg

/-- The last id in use behind the publish, by the one before. -/
def lastId (publish : Publish) (last : UInt16) : UInt16 :=
  if publish.qos = QoS0 ∨ QoS2 < publish.qos then last else last + 1

/-- A publish that is not refused fits into a buffer. -/
def Fits (publish : Publish) : Prop :=
  ¬ QoS2 < publish.qos → ∀ packetId, (publish.frame packetId).length ≤ 1024

/-- Its frame, unless it is refused. -/
def frames (publish : Publish) (last : UInt16) : List (List UInt8) :=
  if QoS2 < publish.qos then [] else [publish.frame (publish.lastId last)]

end Publish

/-- The frames that publishes have, when ids behind `last` are given to them. -/
def publishFrames : UInt16 → List Publish → List (List UInt8)
  | _, [] => []
  | last, publish :: rest => publish.frames last ++ publishFrames (publish.lastId last) rest

def lastIdOf (last : UInt16) (publishes : List Publish) : UInt16 :=
  publishes.foldl (fun last publish => publish.lastId last) last

theorem publishFrames_append_singleton (last : UInt16) (publishes : List Publish)
    (publish : Publish) :
    publishFrames last (publishes ++ [publish])
      = publishFrames last publishes ++ publish.frames (lastIdOf last publishes) := by
  induction publishes generalizing last with
  | nil => simp [publishFrames, lastIdOf]
  | cons first publishes ih =>
      simp only [List.cons_append, publishFrames, ih, List.append_assoc]
      rfl

theorem lastIdOf_append_singleton (last : UInt16) (publishes : List Publish) (publish : Publish) :
    lastIdOf last (publishes ++ [publish]) = publish.lastId (lastIdOf last publishes) :=
  List.foldl_append

/-- A PUBLISH of QoS 0 has no id in it. -/
theorem Publish.frame_eq_of_qos0 {publish : Publish} (hqos : publish.qos = QoS0)
    (left right : UInt16) : publish.frame left = publish.frame right := by
  rw [frame, frame, hqos]
  exact makePublishMessage_qos0 publish.topic publish.retain publish.msg left right

theorem Publish.length_frame (publish : Publish) (left right : UInt16) :
    (publish.frame left).length = (publish.frame right).length := by
  obtain ⟨topic, msg, qos, retain⟩ := publish
  by_cases hqos : QoS1 ≤ qos
  · cases msg <;> simp [frame, makePublishMessage, serString, serShort, hqos]
  · cases msg <;> simp [frame, makePublishMessage, hqos]

/-! ### The single-threaded client -/

/-- The type in the first byte. -/
def isPublish (frame : List UInt8) : Bool :=
  frame.head?.any fun byte => byte.toNat >>> 4 = MessageType.publish.code

def sentPublishes (history : List ServerCall) : List (List UInt8) :=
  (sentFrames history).filter isPublish

@[simp]
theorem sentPublishes_append (left right : List ServerCall) :
    sentPublishes (left ++ right) = sentPublishes left ++ sentPublishes right := by
  simp [sentPublishes]

/-- The computation adds these to the PUBLISH frames sent, and what it returns is about this client. -/
def Publishes (client : SmqttClient) (frames : List (List UInt8)) (tree : Serve Returned) : Prop :=
  ∀ broker history, (tree.run (respond broker) history).1.client = client ∧
    sentPublishes (tree.run (respond broker) history).2 = sentPublishes history ++ frames

section Publishes

variable {client : SmqttClient} {server : ServerRef}

theorem publishes_pure {returned : Returned} (hclient : returned.client = client) :
    Publishes client [] (pure returned) := by
  intro broker history
  exact ⟨hclient, (List.append_nil _).symm⟩

theorem publishes_sendThen {frame : List UInt8} {failed : Status → Returned} {next : Serve Returned}
    (hfailed : ∀ status, (failed status).client = client) (hnext : Publishes client [] next) :
    Publishes client ([frame].filter isPublish) (sendThen server frame failed next) := by
  intro broker history
  have hsent : sentPublishes (history ++ [.send server frame])
      = sentPublishes history ++ [frame].filter isPublish := sentPublishes_append _ _
  rw [run_sendThen]
  split
  · obtain ⟨hclient, hsilent⟩ := hnext broker (history ++ [.send server frame])
    exact ⟨hclient, hsilent.trans (by rw [List.append_nil, hsent])⟩
  · exact ⟨hfailed _, hsent⟩

theorem publishes_awaitThen {buffer : Memory} {expected : Response → Bool} {null : Status}
    {finish : Status → Memory → Returned} {next : Memory → Serve Returned}
    (hfinish : ∀ status buffer, (finish status buffer).client = client)
    (hnext : ∀ buffer, Publishes client [] (next buffer)) :
    Publishes client [] (awaitThen server buffer expected null finish next) := by
  intro broker history
  have hreceived : sentPublishes (history ++ [.receive server]) = sentPublishes history := by
    simp [sentPublishes, sentFrames, ServerCall.frame]
  rw [run_awaitThen, ← hreceived]
  split
  · exact ⟨hfinish _ _, (List.append_nil _).symm⟩
  · exact ⟨hfinish _ _, (List.append_nil _).symm⟩
  · exact hnext _ broker _

/-- A dialogue in which nothing is published. -/
theorem publishes_converse {finish : Status → Memory → Returned} {turns : List Turn}
    (hfinish : ∀ status buffer, (finish status buffer).client = client)
    (hsilent : ∀ frame failed, .say frame failed ∈ turns → isPublish frame = false)
    (buffer : Memory) : Publishes client [] (converse server finish turns buffer) := by
  refine converse_rule (fun _ _ => publishes_pure (hfinish _ _)) ?_ ?_ buffer
  · intro frame failed hmem buffer next hnext
    have hframes : [frame].filter isPublish = [] := by simp [hsilent frame failed hmem]
    rw [← hframes]
    exact publishes_sendThen (fun _ => hfinish _ _) hnext
  · intro expected null _ buffer next hnext
    exact publishes_awaitThen hfinish hnext

end Publishes

theorem Publish.isPublish_frame {publish : Publish} (hqos : ¬ QoS2 < publish.qos)
    (packetId : UInt16) : isPublish (publish.frame packetId) = true := by
  obtain ⟨wireQos, hwire⟩ := wireQos_of_le (UInt32.not_lt.mp hqos)
  rw [frame, hwire, makePublishMessage_eq, isPublish]
  cases wireQos <;> cases publish.retain <;> rfl

section Publish

variable {client : SmqttClient} {publish : Publish}

theorem isPublish_makePubrelMessage (packetId : UInt16) :
    isPublish (makePubrelMessage packetId) = false := by
  rw [makePubrelMessage, makeIdMessage_eq]
  rfl

/-- A publish on a connected client, whatever is answered. -/
theorem publishes_operation (hconnected : client.connected = true) (buffer : Memory)
    (publish : Publish) :
    Publishes { client with publishPacketId := publish.lastId client.publishPacketId }
      (publish.frames client.publishPacketId) (publish.operation.perform client buffer) := by
  by_cases hrefused : QoS2 < publish.qos
  · have hlast : publish.lastId client.publishPacketId = client.publishPacketId :=
      if_pos (.inr hrefused)
    rw [Publish.operation, Operation.perform, smqttPublish, if_pos hconnected, if_pos hrefused,
      Publish.frames, if_pos hrefused, hlast]
    exact publishes_pure rfl
  · have hdialogue : publish.operation.dialogue client
        = some ({ client with publishPacketId := publish.lastId client.publishPacketId },
          publishTurns publish.topic (publish.lastId client.publishPacketId) publish.qos
            publish.retain publish.msg) := by
      rw [Publish.operation, Operation.dialogue, if_pos ⟨hconnected, hrefused⟩]
      by_cases hzero : publish.qos = QoS0
      · have hlast : publish.lastId client.publishPacketId = client.publishPacketId :=
          if_pos (.inl hzero)
        simp only [if_pos hzero, hlast]
      · have hlast : publish.lastId client.publishPacketId = client.publishPacketId + 1 :=
          if_neg (by simp [hzero, hrefused])
        simp only [if_neg hzero, hlast]
    have hframes : publish.frames client.publishPacketId
        = [publish.frame (publish.lastId client.publishPacketId)].filter isPublish := by
      simp [Publish.frames, hrefused, Publish.isPublish_frame hrefused]
    obtain ⟨rest, hturns, hrest⟩ := publishTurns_eq publish.topic
      (publish.lastId client.publishPacketId) publish.qos publish.retain publish.msg
    rw [perform_eq_converse hdialogue, hturns, converse, hframes]
    refine publishes_sendThen (fun _ => rfl)
      (publishes_converse (fun status buffer => ?_) ?_ buffer)
    · rfl
    · intro frame failed hmem
      rw [hrest frame failed hmem]
      exact isPublish_makePubrelMessage _

theorem sentPublishes_performAll (hconnected : client.connected = true) (buffer : Memory)
    (publishes : List Publish) (broker : Broker) (history : List ServerCall) :
    sentPublishes ((performAll client buffer (publishes.map Publish.operation)).run
        (respond broker) history).2
      = sentPublishes history ++ publishFrames client.publishPacketId publishes := by
  induction publishes generalizing client buffer history with
  | nil => simp [performAll, publishFrames]
  | cons publish publishes ih =>
      simp only [List.map_cons, performAll, run_bind, run_pure]
      obtain ⟨hclient, hsent⟩ := publishes_operation hconnected buffer publish broker history
      rw [ih (by rw [hclient]; exact hconnected), hsent, hclient, List.append_assoc]
      rfl

end Publish

/-! ### The multi-threaded client -/

/-- A publish with the callback and the context that the multi-threaded client takes too. -/
abbrev PublishCall := Publish × Callback × Nat

def PublishCall.request (call : PublishCall) : Request := call.1.request call.2.1 call.2.2

def Label.request : Label Unit → Option Request
  | call _ request => some request
  | _ => none

namespace System

/-- The frames that a step puts into `send_queue`: behind the slots that it found there stand new
ones, and the frames are what is in them. -/
def queuedFrames (system : System Unit) (_ : Label Unit) (next : System Unit) : List (List UInt8) :=
  (next.client.sendQueue.toList.drop system.client.sendQueue.toList.length).map
    (slotBytes next.client)

/-- All calls are through: their frames are queued, and the counter stands behind their ids. -/
structure Settled (publishes : List Publish) (queued : List (List UInt8)) (packetId : UInt16) :
    Prop where
  queued : queued = publishFrames 0 publishes
  packetId : packetId = lastIdOf 0 publishes + 1

/-- The last of the calls has its frame in a slot. -/
structure Serialized (earlier : List Publish) (last : Publish) (client : Client) (slot : UInt16)
    (outgoing : Outgoing) : Prop where
  bytes : outgoing.bytes = last.frame (last.lastId (lastIdOf 0 earlier))
  holds : (client.bufferSlots slot).buffer.Holds 0 outgoing.bytes

/-- The thread is in the last of the calls, which was not refused. -/
def InCall (calls : List PublishCall) (request : Request) (P : List Publish → Publish → Prop) :
    Prop :=
  ∃ earlier last, calls = earlier ++ [last] ∧ request = last.request ∧ ¬ QoS2 < last.1.qos ∧
    P (earlier.map Prod.fst) last.1

/-- What the thread's position says about the calls made and the frames queued. -/
def Publishing (calls : List PublishCall) (queued : List (List UInt8)) (client : Client) :
    ApiPc → Prop
  | .idle => Settled (calls.map Prod.fst) queued client.publishPacketId
  | .wanting _ request | .spinning _ request | .serializing _ request _ =>
      InCall calls request fun earlier _ => Settled earlier queued client.publishPacketId
  | .registering _ request slot outgoing =>
      InCall calls request fun earlier last =>
        Settled earlier queued client.publishPacketId ∧
          Serialized earlier last client slot outgoing
  | .enqueueing _ slot outgoing =>
      ∃ request, InCall calls request fun earlier last =>
        queued = publishFrames 0 earlier ∧
          client.publishPacketId = last.lastId (lastIdOf 0 earlier) + 1 ∧
          Serialized earlier last client slot outgoing

section Steps

variable {system next : System Unit} {calls : List PublishCall} {queued : List (List UInt8)}

theorem Publishing.congr {client other : Client} {pc : ApiPc}
    (hpublishing : Publishing calls queued client pc)
    (hid : other.publishPacketId = client.publishPacketId)
    (hslots : other.bufferSlots = client.bufferSlots) : Publishing calls queued other pc := by
  cases pc with
  | registering serial request slot outgoing =>
      obtain ⟨earlier, last, hcalls, hrequest, hqos, hsettled, hbytes, hholds⟩ := hpublishing
      exact ⟨earlier, last, hcalls, hrequest, hqos, hid ▸ hsettled, hbytes, hslots ▸ hholds⟩
  | enqueueing serial slot outgoing =>
      obtain ⟨request, earlier, last, hcalls, hrequest, hqos, hqueued, hlast, hbytes, hholds⟩ :=
        hpublishing
      exact ⟨request, earlier, last, hcalls, hrequest, hqos, hqueued, hid.trans hlast, hbytes,
        hslots ▸ hholds⟩
  | _ =>
      simp only [Publishing] at hpublishing ⊢
      rwa [hid]

/-- The frames of the calls are queued, but perhaps for that of the last. -/
theorem Publishing.isPrefix {client : Client} {pc : ApiPc}
    (hpublishing : Publishing calls queued client pc) :
    queued <+: publishFrames 0 (calls.map Prod.fst) := by
  have hearlier (earlier : List PublishCall) (last : PublishCall) :
      publishFrames 0 (earlier.map Prod.fst)
        <+: publishFrames 0 ((earlier ++ [last]).map Prod.fst) := by
    rw [List.map_append, List.map_singleton, publishFrames_append_singleton]
    exact List.prefix_append _ _
  cases pc with
  | idle => exact hpublishing.queued ▸ List.prefix_refl _
  | registering serial request slot outgoing =>
      obtain ⟨earlier, last, rfl, -, -, hsettled, -⟩ := hpublishing
      exact hsettled.queued ▸ hearlier earlier last
  | enqueueing serial slot outgoing =>
      obtain ⟨request, earlier, last, rfl, -, -, hqueued, -⟩ := hpublishing
      exact hqueued ▸ hearlier earlier last
  | _ =>
      obtain ⟨earlier, last, rfl, -, -, hsettled⟩ := hpublishing
      exact hsettled.queued ▸ hearlier earlier last

theorem settled_append_singleton {earlier : List Publish} {last : Publish} {packetId : UInt16}
    (hqueued : queued = publishFrames 0 earlier ++ last.frames (lastIdOf 0 earlier))
    (hid : packetId = last.lastId (lastIdOf 0 earlier) + 1) :
    Settled (earlier ++ [last]) queued packetId :=
  ⟨by rw [hqueued, publishFrames_append_singleton], by rw [hid, lastIdOf_append_singleton]⟩

/-- A call with the arguments of a publish. -/
theorem publishing_call {earlier : List PublishCall} {last : PublishCall}
    (hconnected : system.client.connected = true) (hpc : system.api () = .idle)
    (hsettled : Settled (earlier.map Prod.fst) queued system.client.publishPacketId) :
    Publishing (earlier ++ [last]) queued (system.call () last.request).client
      ((system.call () last.request).api ()) := by
  by_cases hqos : QoS2 < last.1.qos
  · have hrefused : last.request.refused system.client = some .invalid := by
      simp [PublishCall.request, Publish.request, Request.refused, hconnected, hqos]
    rw [call_of_refused hrefused, hpc]
    rw [Publishing, List.map_append]
    apply settled_append_singleton
    · rw [hsettled.queued, Publish.frames, if_pos hqos, List.append_nil]
    · rw [hsettled.packetId, Publish.lastId, if_pos (.inr hqos)]
  · have haccepted : last.request.refused system.client = none := by
      simp [PublishCall.request, Publish.request, Request.refused, hconnected, hqos]
    rw [call_of_accepted haccepted]
    simp only [setApi, Function.update_self]
    exact ⟨earlier, last, rfl, rfl, hqos, hsettled⟩

theorem publishing_trySlot {serial : Nat} {request : Request}
    (hcall : InCall calls request fun earlier _ =>
      Settled earlier queued system.client.publishPacketId) :
    Publishing calls queued (system.trySlot () serial request).client
      ((system.trySlot () serial request).api ()) := by
  cases hfree : system.client.freeQueue.toList with
  | nil =>
      rw [trySlot_of_nil hfree]
      simpa [setApi, Publishing] using hcall
  | cons slot rest =>
      rw [trySlot_of_cons hfree]
      simpa [setApi, Publishing] using hcall

/-- The id that is serialized is the next one, or there is none in the frame. -/
theorem frame_of_counter {earlier : List Publish} {last : Publish} {packetId : UInt16}
    (hqos : ¬ QoS2 < last.qos) (hid : packetId = lastIdOf 0 earlier + 1) :
    last.frame packetId = last.frame (last.lastId (lastIdOf 0 earlier)) := by
  by_cases hzero : last.qos = QoS0
  · exact Publish.frame_eq_of_qos0 hzero _ _
  · rw [Publish.lastId, if_neg (by simp [hzero, hqos]), hid]

theorem publishing_serialize {serial : Nat} {request : Request} {slot : UInt16}
    (hcall : InCall calls request fun earlier _ =>
      Settled earlier queued system.client.publishPacketId) :
    Publishing calls queued (system.serialize () serial request slot).client
      ((system.serialize () serial request slot).api ()) := by
  obtain ⟨earlier, last, hcalls, rfl, hqos, hsettled⟩ := hcall
  simp only [serialize, setApi, Function.update_self]
  refine ⟨earlier, last, hcalls, rfl, hqos, hsettled, ?_, ?_⟩
  · exact frame_of_counter hqos hsettled.packetId
  · simp only [PublishCall.request, Publish.request, Request.afterSerialize, serializeInto,
      Function.update_self]
    exact Memory.holds_write _ _

/-- The counter moves on behind the record, if the call leaves one. -/
theorem publishPacketId_register {client : Client} {serial : Nat} {call : PublishCall}
    {earlier : List Publish} (hqos : ¬ QoS2 < call.1.qos)
    (hid : client.publishPacketId = lastIdOf 0 earlier + 1) :
    (call.request.register client serial).publishPacketId
      = call.1.lastId (lastIdOf 0 earlier) + 1 := by
  obtain hzero | hone | htwo := qos_cases (UInt32.not_lt.mp hqos)
  · rw [Publish.lastId, if_pos (.inl hzero), ← hid]
    simp [PublishCall.request, Publish.request, Request.register, Request.waiting, hzero, QoS0, QoS1,
      QoS2]
  · rw [Publish.lastId, if_neg (by simp [hone]; decide), ← hid]
    simp [PublishCall.request, Publish.request, Request.register, Request.waiting, hone,
      enqueueWaiting]
  · rw [Publish.lastId, if_neg (by simp [htwo]; decide), ← hid]
    simp [PublishCall.request, Publish.request, Request.register, Request.waiting, htwo,
      enqueueWaiting, show QoS2 ≠ QoS1 by decide]

theorem publishing_register {serial : Nat} {request : Request} {slot : UInt16} {outgoing : Outgoing}
    (hcall : InCall calls request fun earlier last =>
      Settled earlier queued system.client.publishPacketId ∧
        Serialized earlier last system.client slot outgoing) :
    Publishing calls queued (system.register () serial request slot outgoing).client
      ((system.register () serial request slot outgoing).api ()) := by
  obtain ⟨earlier, last, hcalls, rfl, hqos, hsettled, hserialized⟩ := hcall
  rw [register_eq]
  simp only [setApi, Function.update_self]
  refine ⟨last.request, earlier, last, hcalls, rfl, hqos, hsettled.queued, ?_, hserialized.bytes, ?_⟩
  · exact publishPacketId_register hqos hsettled.packetId
  · rw [Request.bufferSlots_register]
    exact hserialized.holds

theorem slotBytes_enqueueSlotForSend {client : Client} {slot : UInt16} {bytes : List UInt8}
    (hholds : (client.bufferSlots slot).buffer.Holds 0 bytes) (hlength : bytes.length < 2 ^ 16) :
    slotBytes (enqueueSlotForSend client slot bytes.length) slot = bytes := by
  have hcount : (UInt16.ofNat bytes.length).toNat = bytes.length := by
    rw [UInt16.toNat_ofNat']
    exact Nat.mod_eq_of_lt hlength
  simp only [slotBytes, enqueueSlotForSend, Function.update_self, hcount]
  exact hholds.slice_eq

theorem publishing_enqueueSlot {serial : Nat} {slot : UInt16} {outgoing : Outgoing}
    (hfits : ∀ call ∈ calls, call.1.Fits)
    (hpublishing : Publishing calls queued system.client (.enqueueing serial slot outgoing)) :
    Publishing calls
      (queued ++ [slotBytes (system.enqueueSlot () serial slot outgoing).client slot])
      (system.enqueueSlot () serial slot outgoing).client
      ((system.enqueueSlot () serial slot outgoing).api ()) := by
  obtain ⟨request, earlier, last, rfl, -, hqos, hqueued, hid, hbytes, hholds⟩ := hpublishing
  have hlength : outgoing.bytes.length < 2 ^ 16 := by
    rw [hbytes]
    exact lt_of_le_of_lt (hfits last (by simp) hqos _) (by omega)
  rw [enqueueSlot_eq]
  simp only [setApi, Function.update_self]
  rw [Publishing, slotBytes_enqueueSlotForSend hholds hlength, List.map_append]
  refine settled_append_singleton ?_ hid
  rw [hqueued, hbytes, Publish.frames, if_neg hqos]

/-- The calls made so far, if all are publishes that fit, are all queued or in progress. -/
def OnWire (before : List (Label Unit)) (queued : List (List UInt8)) (system : System Unit) : Prop :=
  system.client.connected = true ∧ ∀ calls : List PublishCall,
    before.filterMap Label.request = calls.map PublishCall.request →
      (∀ call ∈ calls, call.1.Fits) → Publishing calls queued system.client (system.api ())

/-- A step that is not a call. -/
theorem OnWire.of_publishing {before : List (Label Unit)} {label : Label Unit}
    (honwire : OnWire before queued system) (hlabel : label.request = none)
    (hconnected : next.client.connected = system.client.connected)
    (hpublishing : ∀ calls : List PublishCall, (∀ call ∈ calls, call.1.Fits) →
      Publishing calls queued system.client (system.api ()) →
        Publishing calls (queued ++ queuedFrames system label next) next.client (next.api ())) :
    OnWire (before ++ [label]) (queued ++ queuedFrames system label next) next := by
  refine ⟨hconnected.trans honwire.1, fun calls hcalls hfits => ?_⟩
  rw [List.filterMap_append, List.filterMap_cons_none hlabel, List.filterMap_nil,
    List.append_nil] at hcalls
  exact hpublishing calls hfits (honwire.2 calls hcalls hfits)

/-- A step of the calling thread behind its call. -/
theorem OnWire.of_api {before : List (Label Unit)} {label : Label Unit}
    (honwire : OnWire before queued system) (hlabel : label.request = none)
    (hsession : ¬ label.isSession) (hstep : system.step label = some next)
    (hpublishing : ∀ calls : List PublishCall, (∀ call ∈ calls, call.1.Fits) →
      Publishing calls queued system.client (system.api ()) →
        Publishing calls (queued ++ queuedFrames system label next) next.client (next.api ())) :
    OnWire (before ++ [label]) (queued ++ queuedFrames system label next) next :=
  honwire.of_publishing hlabel (apiFrame_step hsession hstep).connected hpublishing

theorem onWire_call {before : List (Label Unit)} {request : Request}
    (honwire : OnWire before queued system) (hpc : system.api () = .idle) :
    OnWire (before ++ [.call () request]) queued (system.call () request) := by
  refine ⟨?_, fun calls hcalls hfits => ?_⟩
  · exact (apiFrame_step (by simp [Label.isSession]) (step_call.mpr ⟨hpc, rfl⟩)).connected.trans
      honwire.1
  · rw [List.filterMap_append] at hcalls
    obtain ⟨earlier, lasts, rfl, hearlier, hlasts⟩ := List.append_eq_map_iff.mp hcalls
    obtain ⟨last, rfl, rfl⟩ := List.map_eq_singleton_iff.mp hlasts
    have hbefore := honwire.2 earlier hearlier.symm
      fun call hcall => hfits call (List.mem_append_left _ hcall)
    rw [hpc] at hbefore
    exact publishing_call honwire.1 hpc hbefore

theorem queuedFrames_eq_nil {label : Label Unit} (hlabel : label ≠ .enqueueSlot ())
    (hstep : system.step label = some next) : queuedFrames system label next = [] := by
  have hlength : next.client.sendQueue.toList.length ≤ system.client.sendQueue.toList.length := by
    obtain ⟨tid, serial, slot, outgoing, henqueue, -⟩ | ⟨-, hsame | ⟨-, hdequeue⟩⟩ :=
      sendQueue_step hstep
    · exact absurd henqueue hlabel
    · rw [hsame]
    · rw [hdequeue, LinkedQueue.toList_dequeue, List.length_tail]
      exact Nat.sub_le _ 1
  rw [queuedFrames, List.drop_eq_nil_of_le hlength]
  rfl

theorem queuedFrames_enqueueSlot {serial : Nat} {slot : UInt16} {outgoing : Outgoing} :
    queuedFrames system (.enqueueSlot ()) (system.enqueueSlot () serial slot outgoing)
      = [slotBytes (system.enqueueSlot () serial slot outgoing).client slot] := by
  have hqueue : (system.enqueueSlot () serial slot outgoing).client.sendQueue.toList
      = system.client.sendQueue.toList ++ [slot] := LinkedQueue.toList_enqueue _ _
  rw [queuedFrames, hqueue, List.drop_left]
  rfl

theorem onWire_step {before : List (Label Unit)} {label : Label Unit}
    (honwire : OnWire before queued system) (hstep : system.step label = some next) :
    OnWire (before ++ [label]) (queued ++ queuedFrames system label next) next := by
  cases label with
  | call tid request =>
      obtain ⟨hpc, rfl⟩ := step_call.mp hstep
      rw [queuedFrames_eq_nil (by simp) hstep, List.append_nil]
      exact onWire_call honwire hpc
  | lockSlot tid =>
      refine honwire.of_api rfl (by simp [Label.isSession]) hstep fun calls hfits hpublishing => ?_
      obtain ⟨serial, request, hpc, -, rfl⟩ := step_lockSlot.mp hstep
      rw [hpc] at hpublishing
      rw [queuedFrames_eq_nil (by simp) hstep, List.append_nil]
      exact publishing_trySlot hpublishing
  | spin tid =>
      refine honwire.of_api rfl (by simp [Label.isSession]) hstep fun calls hfits hpublishing => ?_
      obtain ⟨serial, request, hpc, rfl⟩ := step_spin.mp hstep
      rw [hpc] at hpublishing
      rw [queuedFrames_eq_nil (by simp) hstep, List.append_nil]
      exact publishing_trySlot hpublishing
  | serialize tid =>
      refine honwire.of_api rfl (by simp [Label.isSession]) hstep fun calls hfits hpublishing => ?_
      obtain ⟨serial, request, slot, hpc, rfl⟩ := step_serialize.mp hstep
      rw [hpc] at hpublishing
      rw [queuedFrames_eq_nil (by simp) hstep, List.append_nil]
      exact publishing_serialize hpublishing
  | enqueueWaiting tid =>
      refine honwire.of_api rfl (by simp [Label.isSession]) hstep fun calls hfits hpublishing => ?_
      obtain ⟨serial, request, slot, outgoing, hpc, -, rfl⟩ := step_enqueueWaiting.mp hstep
      rw [hpc] at hpublishing
      rw [queuedFrames_eq_nil (by simp) hstep, List.append_nil]
      exact publishing_register hpublishing
  | enqueueSlot tid =>
      refine honwire.of_api rfl (by simp [Label.isSession]) hstep fun calls hfits hpublishing => ?_
      obtain ⟨serial, slot, outgoing, hpc, -, rfl⟩ := step_enqueueSlot.mp hstep
      rw [hpc] at hpublishing
      rw [queuedFrames_enqueueSlot]
      exact publishing_enqueueSlot hfits hpublishing
  | signalDisconnect =>
      obtain ⟨-, rfl⟩ := step_signalDisconnect.mp hstep
      refine honwire.of_publishing rfl rfl fun calls hfits hpublishing => ?_
      rw [queuedFrames_eq_nil (by simp) hstep, List.append_nil]
      exact hpublishing.congr rfl rfl
  | _ =>
      have hframe := sessionFrame_step rfl hstep
      obtain ⟨_, _, _, _, hclient⟩ := hframe.client
      refine honwire.of_publishing rfl (by rw [hclient]) fun calls hfits hpublishing => ?_
      rw [queuedFrames_eq_nil (by simp) hstep, List.append_nil, hframe.api]
      exact hpublishing.congr (by rw [hclient]) (by rw [hclient])

end Steps

end System

/-! ### Connecting -/

section Connect

variable {γ : Type} {args : ConnectArgs} {buffer : Memory}

theorem run_conclude (greeting : Greeting) (buffer : Memory) (size : Int)
    (leave : Greeting.Leaving → Memory → γ) (broker : Broker) (history : List ServerCall) :
    ∃ leaving buffer',
    ((greeting.conclude buffer size leave).run (respond broker) history).1 = leave leaving buffer' ∧
      sentFrames ((greeting.conclude buffer size leave).run (respond broker) history).2
        = sentFrames history := by
  have hdisconnect : sentFrames (history ++ [.disconnect greeting.server]) = sentFrames history := by
    simp [sentFrames, ServerCall.frame]
  rw [Greeting.conclude]
  split
  · split
    · exact ⟨_, _, rfl, rfl⟩
    · split
      · exact ⟨_, _, rfl, hdisconnect⟩
      · exact ⟨_, _, rfl, rfl⟩
    · exact ⟨_, _, rfl, rfl⟩
  · exact ⟨_, _, rfl, hdisconnect⟩

/-- A greeting sends one frame at most, and one if it ends well. -/
theorem run_greet (greeting : Greeting) (buffer : Memory) (leave : Greeting.Leaving → Memory → γ)
    (broker : Broker) (history : List ServerCall) : ∃ leaving buffer',
    ((greeting.greet buffer leave).run (respond broker) history).1 = leave leaving buffer' ∧
      (leaving = .welcomed → sentFrames ((greeting.greet buffer leave).run (respond broker) history).2
        = sentFrames history ++ [greeting.frame]) ∧
      sentFrames ((greeting.greet buffer leave).run (respond broker) history).2
        ⊆ greeting.frame :: sentFrames history := by
  have hconnect : sentFrames (history ++ [greeting.connect]) = sentFrames history := by
    simp [sentFrames, ServerCall.frame, Greeting.connect]
  have hsend : sentFrames (history ++ [greeting.connect] ++ [greeting.send])
      = sentFrames history ++ [greeting.frame] := by
    rw [sentFrames_append, hconnect]
    rfl
  have hsubset : sentFrames history ++ [greeting.frame] ⊆ greeting.frame :: sentFrames history := by
    intro frame hmem
    simpa [or_comm] using hmem
  rw [Greeting.greet, serverConnect, run_bind, run_ask, run_ite]
  split
  · refine ⟨_, _, rfl, by rintro ⟨⟩, ?_⟩
    exact fun frame hmem => List.mem_cons_of_mem _ (hconnect ▸ hmem)
  · rw [serverSend, run_bind, run_ask, run_ite]
    split
    · exact ⟨_, _, rfl, by rintro ⟨⟩, hsend ▸ hsubset⟩
    · rw [serverReceive, run_bind, run_ask]
      obtain ⟨leaving, buffer', hleave, hsent⟩ := run_conclude greeting
        (buffer.patch (broker (history ++ [greeting.connect] ++ [greeting.send])
          greeting.receive).stored)
        (broker (history ++ [greeting.connect] ++ [greeting.send]) greeting.receive).size leave broker
        (history ++ [greeting.connect] ++ [greeting.send] ++ [greeting.receive])
      have hreceive : sentFrames (history ++ [greeting.connect] ++ [greeting.send]
          ++ [greeting.receive]) = sentFrames history ++ [greeting.frame] := by
        rw [sentFrames_append, hsend]
        exact List.append_nil _
      exact ⟨leaving, buffer', hleave, fun _ => hsent.trans hreceive,
        (hsent.trans hreceive).symm ▸ hsubset⟩

/-- A connect function that greets its server in the common way leaves early, or at an exit of the
greeting; at the good one it has sent the CONNECT and nothing else. What it sends at all is the CONNECT
of a caller whose strings fit. -/
theorem run_connect {tree : Serve γ} {otherwise : ServerRef} {timeoutMsec : UInt16} {early : γ}
    {leave : ServerRef → Greeting.Leaving → Memory → γ}
    (htree : tree = makeServer args.mode otherwise >>= fun server =>
      if strlen args.clientId + 1 > maxClientIdChars ∨ strlen args.serverIp + 1 > maxHostnameChars
      then pure early else (args.greeting server timeoutMsec).greet buffer (leave server))
    {broker : Broker} {out : γ × List ServerCall} (hout : tree.run (respond broker) [] = out) :
    (out.1 = early ∨ ∃ server leaving buffer', out.1 = leave server leaving buffer' ∧
      (leaving = .welcomed → sentFrames out.2 = [args.frame args.clientId])) ∧
      ∀ frame ∈ sentFrames out.2, args.Fits ∧ frame = args.frame args.clientId := by
  have hcreated : sentFrames ((makeServer args.mode otherwise).run (respond broker) []).2 = [] := by
    rw [makeServer, run_ite]
    split <;> rfl
  subst hout
  rw [htree, run_bind, run_ite]
  split
  · exact ⟨.inl rfl, fun frame hmem => absurd (hcreated ▸ hmem) List.not_mem_nil⟩
  · rename_i hshort
    have hfits : args.Fits := by
      rw [ConnectArgs.Fits]
      omega
    obtain ⟨leaving, buffer', hleave, hsent, hsubset⟩ := run_greet (args.greeting
      ((makeServer args.mode otherwise).run (respond broker) []).1 timeoutMsec) buffer
      (leave ((makeServer args.mode otherwise).run (respond broker) []).1) broker
      ((makeServer args.mode otherwise).run (respond broker) []).2
    rw [hcreated, List.nil_append] at hsent
    rw [hcreated] at hsubset
    exact ⟨.inr ⟨_, leaving, buffer', hleave, hsent⟩,
      fun frame hmem => ⟨hfits, List.mem_singleton.mp (hsubset hmem)⟩⟩

theorem connected_of_run {memory client : SmqttClient} {received : Memory} {status : Status}
    {broker : Broker} {history : List ServerCall}
    (hrun : (smqttConnectInternal args (some memory) buffer).run (respond broker) []
      = (⟨status, .set client, received⟩, history)) :
    client.connected = true ∧ client.publishPacketId = 0 ∧
      sentFrames history = [args.frame args.clientId] := by
  obtain hearly | ⟨server, leaving, buffer', hleave, hsent⟩ :=
    (run_connect (smqttConnectInternal_eq args memory buffer) hrun).1
  · cases hearly
  · cases leaving with
    | welcomed =>
        obtain ⟨-, hclient, -⟩ := Connected.mk.inj hleave
        obtain rfl := ClientOut.set.inj hclient
        exact ⟨rfl, rfl, hsent rfl⟩
    | _ => cases hleave

theorem mtConnected_of_run {memory client : Client} {received : Memory} {status : MtStatus}
    {msgCallback : Callback} {msgCbContext : Nat} {broker : Broker} {history : List ServerCall}
    (hrun : (smqttMtConnectInternal args msgCallback msgCbContext (some memory) buffer).run
      (respond broker) [] = (⟨status, some client, received⟩, history)) :
    client = startSessionThread (connectedClient memory msgCallback msgCbContext) 10 1024 ∧
      sentFrames history = [args.frame args.clientId] := by
  obtain hearly | ⟨server, leaving, buffer', hleave, hsent⟩ :=
    (run_connect (smqttMtConnectInternal_eq args msgCallback msgCbContext memory buffer) hrun).1
  · cases hearly
  · cases leaving with
    | welcomed =>
        obtain ⟨-, hclient, -⟩ := MtConnected.mk.inj hleave
        exact ⟨Option.some.inj hclient, hsent rfl⟩
    | _ => cases hleave

end Connect

theorem isPublish_connect (args : ConnectArgs) (clientId : CString) :
    isPublish (args.frame clientId) = false := by
  rw [ConnectArgs.frame]
  cases args.will <;> cases args.user <;> cases args.pw <;> rfl

/-- **Both clients agree on the wire.** With the same arguments they send the same CONNECT; and the
frames that publishes, whatever comes between them and is answered to them, put into `send_queue` are
the PUBLISH frames that the same publishes send from the single-threaded client, as far as they have
come. -/
theorem clients_agree (args : ConnectArgs) (memory client : SmqttClient) (mtMemory mtClient : Client)
    (msgCallback : Callback) (msgCbContext : Nat) (buffer mtBuffer received mtReceived : Memory)
    (broker mtBroker : Broker) (history mtHistory : List ServerCall)
    (hconnect : (smqttConnectInternal args (some memory) buffer).run (respond broker) []
      = (⟨.ok, .set client, received⟩, history))
    (hmtConnect : (smqttMtConnectInternal args msgCallback msgCbContext (some mtMemory) mtBuffer).run
      (respond mtBroker) [] = (⟨.ok, some mtClient, mtReceived⟩, mtHistory))
    (calls : List PublishCall) (hfits : ∀ call ∈ calls, call.1.Fits)
    (labels : List (Label Unit)) (system : System Unit)
    (hrun : Run.exec System.step (System.start mtClient) labels = some system)
    (hcalls : labels.filterMap Label.request = calls.map PublishCall.request) :
    let sent := ((performAll client received (calls.map fun call => call.1.operation)).run
      (respond broker) history).2
    let queued := Run.observe System.step System.queuedFrames (System.start mtClient) labels
    sentFrames history = [args.frame args.clientId] ∧
      sentFrames mtHistory = [args.frame args.clientId] ∧
      queued <+: sentPublishes sent ∧ (system.api () = .idle → queued = sentPublishes sent) := by
  intro sent queued
  obtain ⟨hconnected, hid, hsent⟩ := connected_of_run hconnect
  obtain ⟨rfl, hmtSent⟩ := mtConnected_of_run hmtConnect
  have hpublishes : sentPublishes sent = publishFrames 0 (calls.map Prod.fst) := by
    have hall := sentPublishes_performAll hconnected received (calls.map Prod.fst) broker history
    rw [List.map_map] at hall
    apply hall.trans
    rw [hid, sentPublishes, hsent, List.filter_singleton, isPublish_connect]
    rfl
  have hstart : System.OnWire [] [] (System.start
      (startSessionThread (connectedClient mtMemory msgCallback msgCbContext) 10 1024)) := by
    refine ⟨rfl, fun calls hcalls _ => ?_⟩
    obtain rfl := List.map_eq_nil_iff.mp hcalls.symm
    exact ⟨rfl, rfl⟩
  have honwire := Run.invariant_observed System.OnWire hstart
    (fun _ _ _ _ _ honwire hstep => System.onWire_step honwire hstep) hrun
  have hpublishing := honwire.2 calls hcalls hfits
  rw [hpublishes]
  exact ⟨hsent, hmtSent, hpublishing.isPrefix, fun hidle => (hidle ▸ hpublishing).queued⟩

/-- A publish of QoS 1, on connections that were accepted. -/
theorem one_publish_agrees : ∃ (args : ConnectArgs) (client : SmqttClient) (mtClient : Client)
    (received mtReceived : Memory) (broker : Broker) (history mtHistory : List ServerCall)
    (call : PublishCall) (labels : List (Label Unit)) (system : System Unit),
    (smqttConnectInternal args (some ⟨[], [], 0, false, 0, 0, 0, 0⟩) (fun _ => 0)).run
        (respond broker) [] = (⟨.ok, .set client, received⟩, history) ∧
      (smqttMtConnectInternal args none 0 (some System.zeroClient) (fun _ => 0)).run
        (respond broker) [] = (⟨.ok, some mtClient, mtReceived⟩, mtHistory) ∧
      Run.exec System.step (System.start mtClient) labels = some system ∧
      sentPublishes ((performAll client received [call.1.operation]).run (respond broker) history).2
        = [[0x32, 5, 0, 1, 116, 0, 1]] ∧
      Run.observe System.step System.queuedFrames (System.start mtClient) labels
        = sentPublishes
          ((performAll client received [call.1.operation]).run (respond broker) history).2 := by
  let args : ConnectArgs := ⟨.remoteServer, ⟨[104], by decide⟩, 1883, ⟨[99], by decide⟩, none, none,
    0, false, QoS0, false, none⟩
  let call : PublishCall := (⟨⟨[116], by decide⟩, none, QoS1, false⟩, none, 0)
  let labels : List (Label Unit) := [.call () call.request, .lockSlot (), .serialize (),
    .enqueueWaiting (), .enqueueSlot ()]
  have hfits : call.1.Fits := by
    intro _ packetId
    rw [call.1.length_frame packetId 0]
    decide
  let client : SmqttClient := ⟨[104, 0], [99, 0], 1883, true, 0, 1, 0, 0⟩
  obtain ⟨received, history, hconnect⟩ : ∃ received history,
      (smqttConnectInternal args (some ⟨[], [], 0, false, 0, 0, 0, 0⟩) (fun _ => 0)).run
        (respond welcomingBroker) [] = (⟨.ok, .set client, received⟩, history) := by
    have hresult : ((smqttConnectInternal args (some ⟨[], [], 0, false, 0, 0, 0, 0⟩)
        (fun _ => 0)).run (respond welcomingBroker) []).1.status = .ok ∧
      ((smqttConnectInternal args (some ⟨[], [], 0, false, 0, 0, 0, 0⟩)
        (fun _ => 0)).run (respond welcomingBroker) []).1.client = .set client := by decide +kernel
    generalize Interaction.run _ _ _ = out at hresult ⊢
    obtain ⟨⟨status, set, received⟩, history⟩ := out
    obtain ⟨rfl, rfl⟩ := hresult
    exact ⟨received, history, rfl⟩
  obtain ⟨mtClient, mtReceived, mtHistory, hmtConnect⟩ : ∃ mtClient mtReceived mtHistory,
      (smqttMtConnectInternal args none 0 (some System.zeroClient) (fun _ => 0)).run
        (respond welcomingBroker) [] = (⟨.ok, some mtClient, mtReceived⟩, mtHistory) := by
    have hresult : ((smqttMtConnectInternal args none 0 (some System.zeroClient) (fun _ => 0)).run
        (respond welcomingBroker) []).1.status = .ok ∧
      ((smqttMtConnectInternal args none 0 (some System.zeroClient) (fun _ => 0)).run
        (respond welcomingBroker) []).1.client.isSome = true := by decide +kernel
    generalize Interaction.run _ _ _ = out at hresult ⊢
    obtain ⟨⟨status, set, received⟩, history⟩ := out
    obtain ⟨rfl, hset⟩ := hresult
    obtain ⟨mtClient, rfl⟩ := Option.isSome_iff_exists.mp hset
    exact ⟨mtClient, received, history, rfl⟩
  have hmtClient := (mtConnected_of_run hmtConnect).1
  obtain ⟨system, hrun, hidle⟩ : ∃ system, Run.exec System.step (System.start mtClient) labels
      = some system ∧ system.api () = .idle := by
    subst hmtClient
    exact ⟨_, rfl, rfl⟩
  have hsent : sentPublishes ((performAll client received [call.1.operation]).run
      (respond welcomingBroker) history).2 = [[0x32, 5, 0, 1, 116, 0, 1]] := by
    refine (sentPublishes_performAll rfl received [call.1] welcomingBroker history).trans ?_
    rw [sentPublishes, (connected_of_run hconnect).2.2, List.filter_singleton, isPublish_connect]
    decide
  refine ⟨args, client, mtClient, received, mtReceived, welcomingBroker, history, mtHistory, call,
    labels, system, hconnect, hmtConnect, hrun, hsent, ?_⟩
  exact (clients_agree args _ client _ mtClient none 0 _ _ received mtReceived welcomingBroker
    welcomingBroker history mtHistory hconnect hmtConnect [call] (by simpa using hfits) labels system
    hrun rfl).2.2.2 hidle

end Smqtt
