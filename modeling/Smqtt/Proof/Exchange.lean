import Smqtt.Proof.SameFrames

/-!
# One message after another

A client makes publish after publish, and another asks as often for the next message. A publish and
the receipt of its message are one handshake, whatever stands behind them, and so the handshakes
follow one another under every schedule.
-/

namespace Smqtt

open Interaction

/-- The publishes, and as many calls for the next message, before anything has been done. -/
def exchange (sender receiver : SmqttClient) (senderBuffer receiverBuffer : Memory)
    (publishes : List Publish) :
    Duet.State ServerCall ServerAnswer (List UInt8) (List Returned) (List Returned) where
  left := performAll sender senderBuffer (publishes.map Publish.operation)
  right := performAll receiver receiverBuffer (publishes.map fun _ => .getNextMessage)
  toLeft := []
  toRight := []

/-- Both clients are through, and nothing is on its way. -/
def exchanged (sent received : List Returned) :
    Duet.State ServerCall ServerAnswer (List UInt8) (List Returned) (List Returned) :=
  ⟨.done sent, .done received, [], []⟩

/-- Of every publish, in turn: both calls have succeeded and the receiver has the message, under the
id that follows the one before. -/
inductive Arrived : UInt16 → List Publish → List Returned → List Returned → Prop
  | nil {last : UInt16} : Arrived last [] [] []
  | cons {last : UInt16} {publish : Publish} {sent received : Returned} {publishes : List Publish}
      {allSent allReceived : List Returned} (hagreed : Agreed publish.msg publish.qos sent received)
      (hclient : sent.client.publishPacketId = publish.lastId last)
      (hrest : Arrived (publish.lastId last) publishes allSent allReceived) :
      Arrived last (publish :: publishes) (sent :: allSent) (received :: allReceived)

/-- How many ids the publishes take. -/
def acknowledged (publishes : List Publish) : Nat :=
  publishes.countP fun publish => publish.qos ≠ QoS0

/-- A publish that a receiver can take in: of one of the three QoS, with a topic whose length fits into
a byte, and in one buffer. -/
structure Publish.Receivable (publish : Publish) : Prop where
  qos : publish.qos ≤ QoS2
  topic : strlen publish.topic < 256
  fits : (publish.frame 0).length ≤ 1024

/-! ### One handshake -/

section Handshake

variable {sender receiver : SmqttClient} {senderBuffer receiverBuffer : Memory} {publish : Publish}

theorem Publish.lastId_of_qos0 (hqos : publish.qos = QoS0) (last : UInt16) :
    publish.lastId last = last :=
  if_pos (.inl hqos)

theorem Publish.lastId_of_ne (hqos : publish.qos ≠ QoS0) (hle : publish.qos ≤ QoS2)
    (last : UInt16) : publish.lastId last = last + 1 :=
  if_neg fun h => h.elim hqos (UInt32.not_lt.mpr hle)

theorem Publish.Receivable.fits_all (hreceivable : publish.Receivable) (packetId : UInt16) :
    (publish.frame packetId).length ≤ 1024 :=
  (publish.length_frame packetId 0).trans_le hreceivable.fits

theorem exists_handshake (hconnected : sender.connected) (hreceivable : publish.Receivable)
    (hid : publish.qos ≠ QoS0 → sender.publishPacketId.toNat < 255) :
    ∃ schedule final, Run.exec (Duet.step transport)
        (conversation sender receiver senderBuffer receiverBuffer publish.topic publish.msg
          publish.qos publish.retain) schedule = some final ∧
      Concluded publish.msg publish.qos (publish.lastId sender.publishPacketId) final := by
  by_cases hzero : publish.qos = QoS0
  · have hfits := hreceivable.fits_all sender.publishPacketId
    rw [Publish.frame, hzero] at hfits
    rw [Publish.lastId_of_qos0 hzero, hzero]
    exact handshake_qos0 hconnected hreceivable.topic rfl hfits
  · have hnext := Publish.lastId_of_ne hzero hreceivable.qos sender.publishPacketId
    have hfits := hreceivable.fits_all sender.withNextId.publishPacketId
    rw [hnext]
    obtain hqos | hqos | hqos := qos_cases hreceivable.qos
    · exact absurd hqos hzero
    · rw [Publish.frame, hqos] at hfits
      rw [hqos]
      exact handshake_qos1 hconnected (hid hzero) hreceivable.topic rfl hfits
    · rw [Publish.frame, hqos] at hfits
      rw [hqos]
      exact handshake_qos2 hconnected (hid hzero) hreceivable.topic rfl hfits

end Handshake

/-! ### What a publish leaves behind -/

section Ends

variable {server : ServerRef} {p : Returned → Prop}

theorem ends_sendThen {frame : List UInt8} {failed : Status → Returned} {next : Serve Returned}
    (hfailed : ∀ status, p (failed status)) (hnext : next.Ends p) :
    (sendThen server frame failed next).Ends p := by
  apply ends_ask_bind
  intro stat
  cases stat with
  | ok => exact hnext
  | socket => exact hfailed .socket

theorem ends_awaitThen {buffer : Memory} {expected : Response → Bool} {null : Status}
    {finish : Status → Memory → Returned} {next : Memory → Serve Returned}
    (hfinish : ∀ status buffer, p (finish status buffer))
    (hnext : ∀ buffer, (next buffer).Ends p) :
    (awaitThen server buffer expected null finish next).Ends p := by
  apply ends_ask_bind
  intro reception
  dsimp only
  split
  · exact hfinish _ _
  · split
    · exact hnext _
    · exact hfinish _ _

theorem ends_converse {finish : Status → Memory → Returned} {turns : List Turn}
    (hfinish : ∀ status buffer, p (finish status buffer)) (buffer : Memory) :
    (converse server finish turns buffer).Ends p := by
  apply converse_rule
  · exact hfinish
  · exact fun frame failed _ buffer next hnext => ends_sendThen (fun _ => hfinish _ _) hnext
  · exact fun expected null _ buffer next hnext => ends_awaitThen hfinish hnext

end Ends

/-- A publish does not touch the client but for the counter. -/
theorem ends_publish {client : SmqttClient} {buffer : Memory} (publish : Publish)
    (hconnected : client.connected) :
    (publish.operation.perform client buffer).Ends fun returned => returned.client.connected := by
  cases hdialogue : publish.operation.dialogue client with
  | none =>
      obtain ⟨status, -, hperform⟩ := perform_of_refused (by simp [Publish.operation])
        (by simp [Publish.operation]) hdialogue buffer
      rw [hperform]
      exact hconnected
  | some pair =>
      rw [perform_eq_converse hdialogue]
      apply ends_converse
      intro status buffer
      exact (connected_of_dialogue hdialogue).trans hconnected

/-! ### All handshakes -/

section Exchange

variable {sender receiver : SmqttClient} {senderBuffer receiverBuffer : Memory}

/-- A publish and a receipt come first. -/
theorem exchange_cons (publish : Publish) (publishes : List Publish) :
    exchange sender receiver senderBuffer receiverBuffer (publish :: publishes)
      = (conversation sender receiver senderBuffer receiverBuffer publish.topic publish.msg
          publish.qos publish.retain).andThen
        (fun sent => performAll sent.client sent.receiveBuffer (publishes.map Publish.operation)
          >>= fun rest => pure (sent :: rest))
        (fun received => performAll received.client received.receiveBuffer
          (publishes.map fun _ => .getNextMessage) >>= fun rest => pure (received :: rest)) := rfl

/-- The first handshake, and what it leaves for the others. -/
theorem exists_first (receiver : SmqttClient) (senderBuffer receiverBuffer : Memory)
    {publish : Publish} {publishes : List Publish} (hconnected : sender.connected)
    (hreceivable : publish.Receivable)
    (hids : sender.publishPacketId.toNat + acknowledged (publish :: publishes) ≤ 255) :
    ∃ schedule sent received, Run.exec (Duet.step transport)
        (conversation sender receiver senderBuffer receiverBuffer publish.topic publish.msg
          publish.qos publish.retain) schedule = some ⟨.done sent, .done received, [], []⟩ ∧
      Agreed publish.msg publish.qos sent received ∧
      sent.client.publishPacketId = publish.lastId sender.publishPacketId ∧
      sent.client.connected ∧ sent.client.publishPacketId.toNat + acknowledged publishes ≤ 255 := by
  have hcount : acknowledged (publish :: publishes)
      = acknowledged publishes + if publish.qos ≠ QoS0 then 1 else 0 := by
    simp [acknowledged, List.countP_cons]
  have hid : publish.qos ≠ QoS0 → sender.publishPacketId.toNat < 255 := by
    intro hne
    rw [if_pos hne] at hcount
    omega
  obtain ⟨schedule, ⟨left, right, toLeft, toRight⟩, hrun, hfinished, hleft, hright⟩ :=
    @exists_handshake sender receiver senderBuffer receiverBuffer publish hconnected hreceivable hid
  obtain ⟨sent, received, ⟨hsent, hreceived⟩, hagreed, hclient⟩ := hfinished
  obtain ⟨rfl, rfl, rfl, rfl⟩ :
      left = .done sent ∧ right = .done received ∧ toLeft = [] ∧ toRight = [] :=
    ⟨hsent, hreceived, hleft, hright⟩
  have hends : (Interaction.done sent : Serve Returned).Ends
      fun returned => returned.client.connected :=
    Duet.left_ends (ends_publish publish hconnected) hrun
  have hnext : (publish.lastId sender.publishPacketId).toNat
      = sender.publishPacketId.toNat + if publish.qos ≠ QoS0 then 1 else 0 := by
    by_cases hzero : publish.qos = QoS0
    · rw [Publish.lastId_of_qos0 hzero, if_neg (not_not.mpr hzero), Nat.add_zero]
    · have hlt := hid hzero
      rw [Publish.lastId_of_ne hzero hreceivable.qos, if_pos hzero, UInt16.toNat_add]
      simp only [UInt16.toNat_one]
      omega
  exact ⟨schedule, sent, received, hrun, hagreed, hclient, hends, by rw [hclient, hnext]; omega⟩

theorem exists_exchange (receiver : SmqttClient) (senderBuffer receiverBuffer : Memory)
    {publishes : List Publish} (hconnected : sender.connected)
    (hreceivable : ∀ publish ∈ publishes, publish.Receivable)
    (hids : sender.publishPacketId.toNat + acknowledged publishes ≤ 255) :
    ∃ schedule sent received, Run.exec (Duet.step transport)
        (exchange sender receiver senderBuffer receiverBuffer publishes) schedule
          = some (exchanged sent received) ∧
      Arrived sender.publishPacketId publishes sent received := by
  induction publishes generalizing sender receiver senderBuffer receiverBuffer with
  | nil => exact ⟨[], [], [], rfl, .nil⟩
  | cons publish publishes ih =>
      obtain ⟨hpublish, hpublishes⟩ := List.forall_mem_cons.mp hreceivable
      obtain ⟨first, sent, received, hfirst, hagreed, hclient, hstill, hrestIds⟩ :=
        exists_first receiver senderBuffer receiverBuffer hconnected hpublish hids
      obtain ⟨rest, allSent, allReceived, hrest, harrived⟩ := ih received.client sent.receiveBuffer
        received.receiveBuffer hstill hpublishes hrestIds
      refine ⟨first ++ rest, sent :: allSent, received :: allReceived, ?_, ?_⟩
      · rw [exchange_cons, Run.exec_append_eq_some]
        exact ⟨_, Duet.exec_andThen _ _ hfirst, Duet.exec_andThen _ _ hrest⟩
      · rw [hclient] at harrived
        exact .cons hagreed hclient harrived

end Exchange

theorem exchanged_finished (sent received : List Returned) :
    (exchanged sent received).Finished sent received :=
  ⟨rfl, rfl⟩

/-- **Every message arrives once and in order.** However the moves of the two clients are interleaved,
they come to one and the same end after the same number of moves: every call has succeeded, the
receiver has the messages in the order of the publishes, and nothing is left over. -/
theorem messages_arrive {sender : SmqttClient} {publishes : List Publish} (receiver : SmqttClient)
    (senderBuffer receiverBuffer : Memory) (hconnected : sender.connected)
    (hreceivable : ∀ publish ∈ publishes, publish.Receivable)
    (hids : sender.publishPacketId.toNat + acknowledged publishes ≤ 255) :
    ∃ (moves : Nat) (sent received : List Returned),
      Arrived sender.publishPacketId publishes sent received ∧
      ∀ begun middle, Run.exec (Duet.step transport)
          (exchange sender receiver senderBuffer receiverBuffer publishes) begun = some middle →
        ∃ rest, Run.exec (Duet.step transport) middle rest = some (exchanged sent received) ∧
          begun.length + rest.length = moves := by
  obtain ⟨schedule, sent, received, hrun, harrived⟩ :=
    exists_exchange receiver senderBuffer receiverBuffer hconnected hreceivable hids
  refine ⟨schedule.length, sent, received, harrived, fun begun middle hbegun => ?_⟩
  exact Duet.every_schedule_finishes hrun (exchanged_finished sent received) hbegun

/-- A message at QoS 0, one at QoS 2, which takes the id 255, and one at QoS 0 without a payload. -/
theorem three_messages_arrive :
    let client : SmqttClient := ⟨[], [], 1883, true, 254, 1, 0, 0⟩
    let topic : CString := ⟨[116, 47, 98], by decide⟩
    let publishes : List Publish := [⟨topic, some topic, QoS0, false⟩, ⟨topic, some topic, QoS2, true⟩,
      ⟨topic, none, QoS0, false⟩]
    ∃ (moves : Nat) (sent received : List Returned), Arrived 254 publishes sent received ∧
      ∀ begun middle, Run.exec (Duet.step transport)
          (exchange client client (fun _ => 0) (fun _ => 1) publishes) begun = some middle →
        ∃ rest, Run.exec (Duet.step transport) middle rest = some (exchanged sent received) ∧
          begun.length + rest.length = moves := by
  intro client topic publishes
  have hreceivable : ∀ publish ∈ publishes, publish.Receivable := by
    intro publish hmem
    obtain rfl | rfl | rfl : publish = ⟨topic, some topic, QoS0, false⟩ ∨
        publish = ⟨topic, some topic, QoS2, true⟩ ∨ publish = ⟨topic, none, QoS0, false⟩ := by
      simpa [publishes] using hmem
    · exact ⟨by decide, by decide, by decide⟩
    · exact ⟨by decide, by decide, by decide⟩
    · exact ⟨by decide, by decide, by decide⟩
  exact messages_arrive client (fun _ => 0) (fun _ => 1) (rfl : client.connected) hreceivable
    (by decide)

end Smqtt
