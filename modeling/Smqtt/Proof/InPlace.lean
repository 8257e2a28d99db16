import Smqtt.Proof.Inbound

/-!
# Acknowledging in place

The acknowledgement of a PUBLISH is serialized into the buffer that holds the message, and only then is
the message copied. It takes four bytes, and no packet that is read has its topic before the fifth,
whatever the length of its prefix.
-/

namespace Smqtt

/-- The strings that `msg_callback` is given. -/
def Event.strings : Event → Option (List UInt8 × List UInt8)
  | delivered topic msg _ _ _ => some (topic, msg)
  | _ => none

theorem Event.strings_of_api {event : Event} (hevent : ¬ event.isSession) : event.strings = none := by
  cases event <;> first | rfl | simp [Event.isSession] at hevent

/-- The acknowledgement that is serialized into the buffer. -/
def PublishData.reply (data : PublishData) : Reply :=
  if data.qos = QoS1 then .puback data else .pubrec data

/-- The record that waits for a PUBREL, with its strings copied out of a buffer. -/
def PublishData.record (buffer : Memory) (data : PublishData) : Waiting :=
  ⟨0, .pubrel, none, 0, .pubrel (copySlice buffer data.topic) (copySlice buffer data.message)
    data.retain data.packetId⟩

section Copies

variable {data : PublishData} (hbehind : (Response.publish data).Behind) (buffer : Memory)
  (reply : Reply)
include hbehind

theorem copySlice_topic_write :
    copySlice (buffer.write reply.frame) data.topic = copySlice buffer data.topic := by
  have hoffset : reply.frame.length ≤ data.topic.offset := by
    rw [reply.length_frame]
    exact hbehind.1
  rw [copySlice, Slice.bytes, Memory.slice_write_of_le hoffset]
  rfl

theorem copySlice_message_write :
    copySlice (buffer.write reply.frame) data.message = copySlice buffer data.message := by
  have hoffset : reply.frame.length ≤ data.message.offset := by
    rw [reply.length_frame]
    exact hbehind.2
  rw [copySlice, Slice.bytes, Memory.slice_write_of_le hoffset]
  rfl

theorem record_write : data.record (buffer.write reply.frame) = data.record buffer := by
  rw [PublishData.record, copySlice_topic_write hbehind, copySlice_message_write hbehind]
  rfl

end Copies

namespace System

variable {Tid : Type} [DecidableEq Tid] {system middle next final : System Tid}
  {labels : List (Label Tid)}

omit [DecidableEq Tid] in
/-- All that `msg_callback` has been given. -/
def passed (system : System Tid) : List (List UInt8 × List UInt8) :=
  system.events.filterMap Event.strings

/-! ### While the session thread stands still -/

/-- What stays as it is between two actions of the session thread. -/
structure Undisturbed (system next : System Tid) : Prop where
  session : next.session = system.session
  receiveBuffer : next.client.receiveBuffer = system.client.receiveBuffer
  msgCallback : next.client.msgCallback = system.client.msgCallback
  passed : next.passed = system.passed
  entries : ∀ waiting ∈ system.client.ackQueue.toList, waiting ∈ next.client.ackQueue.toList

omit [DecidableEq Tid] in
theorem Undisturbed.refl (system : System Tid) : Undisturbed system system :=
  ⟨rfl, rfl, rfl, rfl, fun _ => id⟩

omit [DecidableEq Tid] in
theorem Undisturbed.trans (hleft : Undisturbed system middle) (hright : Undisturbed middle next) :
    Undisturbed system next where
  session := hright.session.trans hleft.session
  receiveBuffer := hright.receiveBuffer.trans hleft.receiveBuffer
  msgCallback := hright.msgCallback.trans hleft.msgCallback
  passed := hright.passed.trans hleft.passed
  entries waiting hmem := hright.entries waiting (hleft.entries waiting hmem)

theorem undisturbed_step {label : Label Tid} (hlabel : ¬ label.isSession)
    (hstep : system.step label = some next) : Undisturbed system next := by
  obtain ⟨hsession, -, hbuffer, hcallback, ⟨added, hentries, -⟩, events, hevents, hapi⟩ :=
    apiFrame_step hlabel hstep
  have hnil : events.filterMap Event.strings = [] :=
    List.filterMap_eq_nil_iff.mpr fun event hmem => Event.strings_of_api (hapi event hmem)
  refine ⟨hsession, hbuffer, hcallback, ?_, fun waiting hmem => ?_⟩
  · simp [passed, hevents, hnil]
  · rw [hentries]
    exact List.mem_append_left added hmem

theorem undisturbed_exec (hlabels : ∀ label ∈ labels, ¬ label.isSession)
    (hrun : Run.exec step system labels = some next) : Undisturbed system next := by
  induction labels generalizing system with
  | nil =>
      obtain rfl := Option.some.inj hrun
      exact .refl system
  | cons label labels ih =>
      obtain ⟨hlabel, hlabels⟩ := List.forall_mem_cons.mp hlabels
      obtain ⟨middle, hstep, hrest⟩ := Run.exec_cons_eq_some.mp hrun
      exact (undisturbed_step hlabel hstep).trans (ih hlabels hrest)

/-- A run up to the next action of the session thread, that action, and the rest. -/
theorem exec_next_session {label : Label Tid} {rest : List (Label Tid)}
    (hlabels : labels.filter Label.isSession = label :: rest)
    (hrun : Run.exec step system labels = some final) : ∃ before after remaining,
    Undisturbed system before ∧ before.step label = some after ∧
      remaining.filter Label.isSession = rest ∧ Run.exec step after remaining = some final := by
  obtain ⟨left, right, rfl, hleft, -, hright⟩ := List.filter_eq_cons_iff.mp hlabels
  obtain ⟨before, hbefore, hrest⟩ := Run.exec_append_eq_some.mp hrun
  obtain ⟨after, hstep, hafter⟩ := Run.exec_cons_eq_some.mp hrest
  exact ⟨before, after, right, undisturbed_exec hleft hbefore, hstep, hright, hafter⟩

theorem undisturbed_rest (hlabels : labels.filter Label.isSession = [])
    (hrun : Run.exec step system labels = some final) : Undisturbed system final :=
  undisturbed_exec (List.filter_eq_nil_iff.mp hlabels) hrun

/-! ### From the receive to the copies -/

/-- A PUBLISH that has been received into a buffer and acknowledged, as far as that could be sent. -/
structure Acknowledged (system final : System Tid) (buffer : Memory) (data : PublishData)
    (sent : Bool) : Prop where
  overwritten : final.client.receiveBuffer = buffer.write data.reply.frame
  passed : final.passed = system.passed ++
    if data.qos = QoS1 ∧ sent ∧ system.client.msgCallback.isSome then
      [(copySlice buffer data.topic, copySlice buffer data.message)]
    else []
  session : final.session
    = if data.qos = QoS2 ∧ sent then .registering (data.record buffer) else .top
  stored : data.qos = QoS2 → sent → ∀ (labels : List (Label Tid)) (next : System Tid),
    labels.filter Label.isSession = [.sessionRegister] → Run.exec step final labels = some next →
      data.record buffer ∈ next.client.ackQueue.toList

variable {buffer : Memory} {data : PublishData} {sent : Bool}

/-- A packet of a positive size is handled next, and nothing has been called. -/
theorem received_publish {size : Int} (hsize : 0 < size)
    (hstep : system.step (.sessionReceive buffer size (some (.publish data))) = some next) :
    next.session = .handling (.publish data) ∧ next.client.receiveBuffer = buffer ∧
      next.client.msgCallback = system.client.msgCallback ∧ next.passed = system.passed := by
  obtain ⟨-, rfl⟩ := step_sessionReceive.mp hstep
  rw [sessionReceive_of_packet hsize]
  refine ⟨rfl, rfl, rfl, ?_⟩
  simp [passed, Event.strings]

theorem handled_publish (hqos : data.qos = QoS1 ∨ data.qos = QoS2)
    (hpc : system.session = .handling (.publish data))
    (hstep : system.step .sessionHandle = some next) :
    next.session = .replying data.reply ∧ next.client = system.client ∧
      next.passed = system.passed := by
  obtain ⟨resp, hresp, -, rfl⟩ := step_sessionHandle.mp hstep
  obtain rfl := SessionPc.handling.inj (hresp.symm.trans hpc)
  rw [sessionHandle, handleResponse, PublishData.reply]
  obtain hone | htwo := hqos
  · simp [hone, QoS0, QoS1, passed, log]
  · simp [htwo, QoS0, QoS1, QoS2, passed, log]

omit [DecidableEq Tid] in
theorem passed_sessionReply (reply : Reply) :
    (system.sessionReply reply sent).passed = system.passed ++
      (afterReply { system.client with
        receiveBuffer := system.client.receiveBuffer.write reply.frame } reply sent).2.filterMap
          Event.strings :=
  List.filterMap_append

theorem strings_maybeDeliver (client : Client) (data : PublishData) :
    (maybeDeliverMessage client data).filterMap Event.strings
      = if client.msgCallback.isSome then
          [(copySlice client.receiveBuffer data.topic, copySlice client.receiveBuffer data.message)]
        else [] := by
  rw [maybeDeliverMessage]
  cases client.msgCallback <;> rfl

omit [DecidableEq Tid] in
/-- The acknowledgement stands in the buffer, and the copies are those of before. -/
theorem replied_publish (hbehind : (Response.publish data).Behind)
    (hqos : data.qos = QoS1 ∨ data.qos = QoS2) :
    let next := system.sessionReply data.reply sent
    (next.passed = system.passed ++
        if data.qos = QoS1 ∧ sent ∧ system.client.msgCallback.isSome then
          [(copySlice system.client.receiveBuffer data.topic,
            copySlice system.client.receiveBuffer data.message)]
        else []) ∧
      next.session = if data.qos = QoS2 ∧ sent then
          .registering (data.record system.client.receiveBuffer)
        else .top := by
  intro next
  generalize hbuffer : system.client.receiveBuffer = buffer
  have hpassed := @passed_sessionReply Tid system sent data.reply
  obtain hone | htwo := hqos
  · have hreply : data.reply = .puback data := if_pos hone
    have hnot : ¬ (data.qos = QoS2 ∧ sent) := by simp [hone, QoS1, QoS2]
    have htopic := copySlice_topic_write hbehind buffer (.puback data)
    have hmessage := copySlice_message_write hbehind buffer (.puback data)
    rw [if_neg hnot, hpassed, hreply, hbuffer]
    cases sent with
    | false => simp [next, hreply, sessionReply, afterReply, log]
    | true =>
        simp [next, hreply, sessionReply, afterReply, strings_maybeDeliver, hone, htopic, hmessage,
          log]
  · have hnot : data.qos ≠ QoS1 := by simp [htwo, QoS1, QoS2]
    have hreply : data.reply = .pubrec data := if_neg hnot
    have hrecord := record_write hbehind buffer (.pubrec data)
    rw [if_neg (fun hand => hnot hand.1), hpassed, hreply, hbuffer]
    cases sent with
    | false => simp [next, hreply, sessionReply, afterReply, log]
    | true =>
        refine ⟨by simp [afterReply], ?_⟩
        rw [if_pos ⟨htwo, rfl⟩, ← hrecord, ← hbuffer]
        simp only [next, hreply]
        rfl

/-- **Acknowledging in place does not touch the message.** Whatever a PUBLISH of a positive size is
read from, and whatever the API threads do meanwhile, the strings that are passed on or stored are those
that stood in the buffer when it was received. -/
theorem acknowledged_in_place {size : Int} (hsize : 0 < size)
    (hdata : (deserializeResponse size.toNat).eval buffer = some (.publish data))
    (hqos : data.qos = QoS1 ∨ data.qos = QoS2)
    (hlabels : labels.filter Label.isSession
      = [.sessionReceive buffer size (some (.publish data)), .sessionHandle, .sessionReply sent])
    (hrun : Run.exec step system labels = some final) :
    Acknowledged system final buffer data sent := by
  have hbehind : (Response.publish data).Behind :=
    behind_deserializeResponse (by omega) hdata
  obtain ⟨_, received, afterReceive, hidle, hreceive, hafterReceive, hrun⟩ :=
    exec_next_session hlabels hrun
  obtain ⟨handling, handled, afterHandle, hwaiting, hhandle, hafterHandle, hrun⟩ :=
    exec_next_session hafterReceive hrun
  obtain ⟨replying, replied, afterReply, hsending, hreply, hafterReply, hrun⟩ :=
    exec_next_session hafterHandle hrun
  have hrest := undisturbed_rest hafterReply hrun
  obtain ⟨hreceivedPc, hreceivedBuffer, hreceivedCallback, hreceivedPassed⟩ :=
    received_publish hsize hreceive
  obtain ⟨hhandledPc, hhandledClient, hhandledPassed⟩ :=
    handled_publish hqos (hwaiting.session.trans hreceivedPc) hhandle
  obtain ⟨reply, hpc, rfl⟩ := step_sessionReply.mp hreply
  obtain rfl := SessionPc.replying.inj (hpc.symm.trans (hsending.session.trans hhandledPc))
  have hbuffer : replying.client.receiveBuffer = buffer := by
    rw [hsending.receiveBuffer, hhandledClient, hwaiting.receiveBuffer, hreceivedBuffer]
  obtain ⟨hpassed, hsession⟩ := @replied_publish Tid replying data sent hbehind hqos
  rw [hbuffer] at hpassed hsession
  refine ⟨hrest.receiveBuffer.trans (by rw [← hbuffer]; rfl), ?_, ?_, ?_⟩
  · rw [hrest.passed, hpassed, hsending.passed, hhandledPassed, hwaiting.passed, hreceivedPassed,
      hidle.passed, hsending.msgCallback, hhandledClient, hwaiting.msgCallback, hreceivedCallback,
      hidle.msgCallback]
  · rw [hrest.session, hsession]
  · intro htwo hsent labels next hregister hnext
    obtain ⟨before, after, remaining, hbefore, hstep, hremaining, hrun⟩ :=
      exec_next_session hregister hnext
    obtain ⟨waiting, hpc, -, rfl⟩ := step_sessionRegister.mp hstep
    have hregistering : before.session = .registering (data.record buffer) := by
      rw [hbefore.session, hrest.session, hsession, if_pos ⟨htwo, hsent⟩]
    obtain rfl := SessionPc.registering.inj (hpc.symm.trans hregistering)
    exact (undisturbed_rest hremaining hrun).entries _ (mem_sessionRegister.mpr (.inr rfl))

/-- A message at QoS 2 is kept for its PUBREL, with a ping in between. -/
theorem kept_in_place : ∃ (system final : System Unit) (buffer : Memory) (data : PublishData),
    data.qos = QoS2 ∧ copySlice buffer data.topic = [97, 0] ∧
      Acknowledged system final buffer data true := by
  let buffer : Memory := Memory.write (fun _ => 0) [0x34, 7, 0, 1, 97, 0, 7, 98, 99]
  let data : PublishData := ⟨QoS2, false, ⟨4, 1⟩, 7, ⟨7, 2⟩⟩
  let system : System Unit :=
    { (start (connectedClient zeroClient (some 0) 0) : System Unit) with session := .receiving }
  let labels : List (Label Unit) := [.sessionReceive buffer 9 (some (.publish data)),
    .call () (.ping (some 0) 0), .sessionHandle, .sessionReply true]
  obtain ⟨final, hrun⟩ : ∃ final, Run.exec step system labels = some final :=
    Option.isSome_iff_exists.mp (by decide)
  exact ⟨system, final, buffer, data, rfl, by decide,
    acknowledged_in_place (by decide : (0 : Int) < 9) (by decide) (.inr rfl) rfl hrun⟩

end System

end Smqtt
