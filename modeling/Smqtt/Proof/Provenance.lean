import Smqtt.Lib.Custody
import Smqtt.Proof.AtMostOnce
import Smqtt.Proof.Inbound

/-!
# Where messages come from

The broker may repeat itself, make packets up and answer what was never asked, and any send may
fail. Still a message is shown at most as often as it was received. The session thread is a keeper
of the messages: one is in hand from its reception on, a message at QoS 2 is put into `ack_queue`,
and its PUBREL takes it out again.
-/

namespace Smqtt

/-- The message that a packet brings. -/
def Inbound.message : Inbound → Option Message
  | (buffer, .publish data) => some (data.read buffer)
  | _ => none

/-- The message that the session thread has in hand. -/
def SessionPc.held (buffer : Memory) : SessionPc → Option Message
  | handling (.publish data) => some (data.read buffer)
  | replying (.puback data) => some (data.read buffer)
  | replying (.pubrec data) => some (data.read buffer)
  | replying (.pubcomp waiting _) => waiting.kept.map Prod.snd
  | registering waiting => waiting.kept.map Prod.snd
  | _ => none

/-- What the session thread has in hand is fit for what it is about to do. -/
def SessionPc.Ready : SessionPc → Prop
  | handling resp => resp.Behind
  | replying (.puback data) => (Response.publish data).Behind
  | replying (.pubrec data) => (Response.publish data).Behind ∧ data.qos = QoS2
  | replying (.pubcomp waiting packetId) => inspect .pubrel packetId waiting = .take
  | _ => True

/-- The messages that are put into `ack_queue`. -/
def Message.storable (message : Message) : Bool := message.qos = QoS2

theorem storable_of_kept {waiting : Waiting} {packetId : UInt16} {message : Message}
    (hkept : waiting.kept = some (packetId, message)) : message.storable := by
  unfold Waiting.kept at hkept
  split at hkept
  · obtain ⟨-, rfl⟩ := Prod.mk.inj (Option.some.inj hkept)
    rfl
  · cases hkept

/-- A record that a PUBREL finds keeps a message. -/
theorem data_of_take {packetId : UInt16} {waiting : Waiting}
    (htake : inspect .pubrel packetId waiting = .take) :
    ∃ topic msg retain, waiting.data = .pubrel topic msg retain packetId ∧
      waiting.kept = some (packetId, ⟨cString topic, cString msg, QoS2, retain⟩) := by
  have htype := type_of_take htake
  cases hdata : waiting.data with
  | pubrel topic msg retain other =>
      have hid : other = packetId := by
        by_contra hne
        simp [inspect, htype, hdata, compareId, WaitingData.pubrelId, hne] at htake
      obtain rfl := hid
      refine ⟨topic, msg, retain, rfl, ?_⟩
      rw [Waiting.kept, htype, hdata]
  | _ => simp [inspect, htype, hdata, compareId, WaitingData.pubrelId] at htake

/-! ### What happens to the message -/

section Moves

variable {client : Client} {arrived shown stored : List Message}

theorem deliveredMessage_maybeDeliver (client : Client) (data : PublishData) :
    (maybeDeliverMessage client data).filterMap Event.deliveredMessage = [] ∨
      (maybeDeliverMessage client data).filterMap Event.deliveredMessage
        = [data.read client.receiveBuffer] := by
  unfold maybeDeliverMessage
  cases client.msgCallback with
  | none => exact .inl rfl
  | some callback =>
      right
      apply List.filterMap_cons_some
      rw [Event.deliveredMessage, observation_delivered]

/-- The message in hand is given to the callback, if there is one. -/
theorem move_maybeDeliver (client : Client) (data : PublishData) :
    Custody.Move Message.storable
      ⟨arrived, shown, stored, some (data.read client.receiveBuffer)⟩
      ⟨arrived, shown ++ (maybeDeliverMessage client data).filterMap Event.deliveredMessage, stored,
        none⟩ := by
  obtain hnone | hone := deliveredMessage_maybeDeliver client data
  · rw [hnone, List.append_nil]
    exact .drop _
  · rw [hone]
    exact .display _

/-- A record that waits for no PUBREL keeps nothing, and what follows its discovery neither. -/
theorem onFound_of_type_ne {resp : Response} {type : MessageType} {packetId : UInt16}
    {waiting : Waiting} (hkey : resp.key = some (type, packetId)) (hne : type ≠ .pubrel)
    (buffer : Memory) :
    (resp.onFound waiting).1.held buffer = none ∧ (resp.onFound waiting).1.Ready ∧
      (resp.onFound waiting).2.filterMap Event.deliveredMessage = [] := by
  cases resp with
  | pubrel other =>
      obtain ⟨rfl, -⟩ := Prod.mk.inj (Option.some.inj hkey)
      exact absurd rfl hne
  | pubrec other => exact ⟨rfl, trivial, rfl⟩
  | suback other results =>
      simp only [Response.onFound, runSubCallback]
      split <;> exact ⟨rfl, trivial, rfl⟩
  | unsuback other =>
      simp only [Response.onFound, runUnsubCallback]
      split <;> exact ⟨rfl, trivial, rfl⟩
  | _ =>
      simp only [Response.onFound, runCallback]
      split <;> exact ⟨rfl, trivial, rfl⟩

theorem move_found {resp : Response} {type : MessageType} {packetId : UInt16} {waiting : Waiting}
    {left right : List Waiting} (hkey : resp.key = some (type, packetId))
    (htake : inspect type packetId waiting = .take) (buffer : Memory) :
    Custody.Move Message.storable
        ⟨arrived, shown, ((left ++ waiting :: right).filterMap Waiting.kept).map Prod.snd, none⟩
        ⟨arrived, shown ++ (resp.onFound waiting).2.filterMap Event.deliveredMessage,
          ((left ++ right).filterMap Waiting.kept).map Prod.snd,
          (resp.onFound waiting).1.held buffer⟩ ∧
      (resp.onFound waiting).1.Ready := by
  by_cases hpubrel : type = .pubrel
  · subst hpubrel
    obtain rfl : resp = .pubrel packetId := by
      cases resp <;> simp_all [Response.key]
    obtain ⟨topic, msg, retain, -, hkept⟩ := data_of_take htake
    refine ⟨?_, htake⟩
    simp only [List.filterMap_append, List.filterMap_cons_some hkept, List.map_append,
      List.map_cons, Response.onFound, SessionPc.held, hkept, Option.map_some, List.filterMap_nil,
      List.append_nil]
    exact .take _
  · obtain ⟨hhand, hready, hevents⟩ := @onFound_of_type_ne _ _ _ waiting hkey hpubrel buffer
    have hkept : waiting.kept = none := kept_of_type_ne (type_of_take htake ▸ hpubrel)
    refine ⟨?_, hready⟩
    rw [hhand, hevents, List.append_nil, List.filterMap_append, List.filterMap_append,
      List.filterMap_cons_none hkept]
    exact .rest _

theorem held_of_key {resp : Response} {key : MessageType × UInt16} (hkey : resp.key = some key)
    (buffer : Memory) : (SessionPc.handling resp).held buffer = none := by
  cases resp with
  | publish data => cases hkey
  | _ => rfl

theorem held_handling (buffer : Memory) (resp : Response) :
    (SessionPc.handling resp).held buffer = Inbound.message (buffer, resp) := by
  cases resp <;> rfl

/-- A packet that brings a message puts it into the hand. -/
theorem move_message (message : Option Message) :
    Custody.Move Message.storable ⟨arrived, shown, stored, none⟩
      ⟨arrived ++ message.toList, shown, stored, message⟩ := by
  cases message with
  | none =>
      rw [Option.toList_none, List.append_nil]
      exact .rest _
  | some message => exact .arrive message

theorem move_handle {resp : Response} (hbehind : resp.Behind) :
    Custody.Move Message.storable
        ⟨arrived, shown, client.keptMessages.map Prod.snd,
          (SessionPc.handling resp).held client.receiveBuffer⟩
        ⟨arrived, shown ++ (handleResponse client resp).2.2.filterMap Event.deliveredMessage,
          (handleResponse client resp).1.keptMessages.map Prod.snd,
          (handleResponse client resp).2.1.held client.receiveBuffer⟩ ∧
      (handleResponse client resp).2.1.Ready := by
  cases hkey : resp.key with
  | none =>
      cases resp with
      | publish data =>
          simp only [handleResponse]
          split_ifs with hzero hone htwo
          · exact ⟨move_maybeDeliver client data, trivial⟩
          · rw [List.filterMap_nil, List.append_nil]
            exact ⟨.rest _, hbehind⟩
          · rw [List.filterMap_nil, List.append_nil]
            exact ⟨.rest _, hbehind, htwo⟩
          · rw [List.filterMap_nil, List.append_nil]
            exact ⟨.drop _, trivial⟩
      | connect | connack | subscribe | unsubscribe | pingreq | disconnect =>
          simp only [handleResponse, List.filterMap_nil, List.append_nil]
          exact ⟨.rest _, trivial⟩
      | _ => simp [Response.key] at hkey
  | some key =>
      obtain ⟨type, packetId⟩ := key
      rw [handleResponse_of_key hkey, held_of_key hkey, Client.keptMessages, Client.keptMessages]
      obtain ⟨hsame, hdone | hcrashed⟩ | ⟨left, waiting, right, hsplit, hrest, htake, hfound⟩ :=
        withWaiting_split client type packetId resp.onFound
      · rw [hdone, hsame, List.filterMap_nil, List.append_nil]
        exact ⟨.rest _, trivial⟩
      · rw [hcrashed, hsame, List.filterMap_nil, List.append_nil]
        exact ⟨.rest _, trivial⟩
      · rw [hfound, hsplit, hrest]
        exact move_found hkey htake client.receiveBuffer

/-- A record that is found by its PUBREL is given to the callback, if there is one. -/
theorem move_deliverWaiting {waiting : Waiting} {packetId : UInt16}
    (htake : inspect .pubrel packetId waiting = .take) (buffer : Memory) :
    Custody.Move Message.storable
        ⟨arrived, shown, stored, waiting.kept.map Prod.snd⟩
        ⟨arrived, shown ++ (deliverWaiting client waiting).2.filterMap Event.deliveredMessage,
          stored, (deliverWaiting client waiting).1.held buffer⟩ ∧
      (deliverWaiting client waiting).1.Ready := by
  obtain ⟨topic, msg, retain, hdata, hkept⟩ := data_of_take htake
  rw [hkept, deliverWaiting, hdata]
  cases client.msgCallback with
  | none =>
      rw [List.filterMap_nil, List.append_nil]
      exact ⟨.drop _, trivial⟩
  | some callback => exact ⟨.display _, trivial⟩

theorem move_afterReply {reply : Reply} (sent : Bool)
    (hready : (SessionPc.replying reply).Ready) :
    let written := client.receiveBuffer.write reply.frame
    let after := afterReply { client with receiveBuffer := written } reply sent
    Custody.Move Message.storable
        ⟨arrived, shown, stored, (SessionPc.replying reply).held client.receiveBuffer⟩
        ⟨arrived, shown ++ after.2.filterMap Event.deliveredMessage, stored,
          after.1.held written⟩ ∧
      after.1.Ready := by
  intro written after
  cases sent with
  | false =>
      have hafter : after = (.top, []) := rfl
      rw [hafter, List.filterMap_nil, List.append_nil]
      exact ⟨.drop _, trivial⟩
  | true =>
      cases reply with
      | puback data =>
          have hmove := @move_maybeDeliver arrived shown stored
            { client with receiveBuffer := written } data
          rw [read_write_frame hready] at hmove
          exact ⟨hmove, trivial⟩
      | pubrec data =>
          obtain ⟨hbehind, hqos⟩ := hready
          have hhand : after.1.held written = some (data.read client.receiveBuffer) := by
            rw [← read_write_frame hbehind _ (.pubrec data)]
            simp only [PublishData.read, hqos]
            exact congrArg some (by simp only [cString_copySlice]; rfl)
          have hevents : after.2.filterMap Event.deliveredMessage = [] := rfl
          rw [hhand, hevents, List.append_nil]
          exact ⟨.rest _, trivial⟩
      | pubrel waiting packetId =>
          have hevents : after.2.filterMap Event.deliveredMessage = [] := rfl
          let record : Waiting := { waiting with type := .pubcomp, data := .pubcomp packetId }
          have hkept : record.kept = none := kept_of_type_ne (by simp [record])
          have hhand : after.1.held written = none := congrArg (Option.map Prod.snd) hkept
          rw [hhand, hevents, List.append_nil]
          exact ⟨.rest _, trivial⟩
      | pubcomp waiting packetId => exact move_deliverWaiting hready written

end Moves

namespace System

variable {Tid : Type} {system next : System Tid}

/-- The messages received, in order. -/
def arrivals (system : System Tid) : List Message := system.inbound.filterMap Inbound.message

/-- The messages that `msg_callback` was given, in order. -/
def deliveries (system : System Tid) : List Message :=
  system.events.filterMap Event.deliveredMessage

def account (system : System Tid) : Custody.Account Message where
  arrived := system.arrivals
  shown := system.deliveries
  stored := system.client.keptMessages.map Prod.snd
  inHand := system.session.held system.client.receiveBuffer

/-! ### One step of the keeper -/

theorem account_sessionTop (hpc : system.session = .top) :
    Custody.Move Message.storable system.account system.sessionTop.account ∧
      system.sessionTop.session.Ready := by
  have haccount : system.account = ⟨system.arrivals, system.deliveries,
      system.client.keptMessages.map Prod.snd, none⟩ := by
    rw [account, hpc]
    rfl
  rw [haccount]
  obtain ⟨-, htop⟩ | ⟨-, -, htop⟩ | ⟨slot, rest, -, -, htop⟩ := system.sessionTop_cases
  · rw [htop]
    exact ⟨.rest _, trivial⟩
  · rw [htop]
    exact ⟨.rest _, trivial⟩
  · rw [htop]
    exact ⟨.rest _, trivial⟩

theorem account_sessionReceive {buffer : Memory} {size : Int} {resp : Option Response}
    (hpc : system.session = .receiving)
    (hdecodes : 0 < size → resp = (deserializeResponse size.toNat).eval buffer) :
    Custody.Move Message.storable system.account (system.sessionReceive buffer size resp).account ∧
      (system.sessionReceive buffer size resp).session.Ready := by
  have haccount : system.account = ⟨system.arrivals, system.deliveries,
      system.client.keptMessages.map Prod.snd, none⟩ := by
    rw [account, hpc]
    rfl
  rw [haccount]
  obtain ⟨-, hreceive⟩ | ⟨-, -, hreceive⟩ | ⟨packet, hsize, hpacket, hreceive⟩ :=
    system.sessionReceive_cases buffer size resp
  · rw [hreceive]
    exact ⟨.rest _, trivial⟩
  · rw [hreceive]
    exact ⟨.rest _, trivial⟩
  · have hresp : (deserializeResponse size.toNat).eval buffer = some packet :=
      (hdecodes hsize).symm.trans hpacket
    rw [hreceive]
    refine ⟨?_, behind_deserializeResponse (by omega) hresp⟩
    have harrivals : system.arrivals ++ (Inbound.message (buffer, packet)).toList
        = ((system.events ++ [Event.received buffer packet]).filterMap Event.inbound).filterMap
          Inbound.message := by
      rw [List.filterMap_append, List.filterMap_append]
      cases packet <;> rfl
    have hdeliveries : system.deliveries
        = (system.events ++ [Event.received buffer packet]).filterMap Event.deliveredMessage := by
      rw [List.filterMap_append]
      exact (List.append_nil _).symm
    have hmove := @move_message system.arrivals system.deliveries
      (system.client.keptMessages.map Prod.snd) (Inbound.message (buffer, packet))
    rw [harrivals, ← held_handling] at hmove
    change Custody.Move _ _ ⟨_, (system.events ++ [Event.received buffer packet]).filterMap
      Event.deliveredMessage, _, _⟩
    rw [← hdeliveries]
    exact hmove

theorem account_log {events : List Event} (hevents : events.filterMap Event.inbound = []) :
    (system.log events).account = { system.account with
      shown := system.deliveries ++ events.filterMap Event.deliveredMessage } := by
  rw [account, arrivals, inbound_log hevents, deliveries, log, List.filterMap_append]
  rfl

theorem account_sessionHandle {resp : Response} (hready : system.session.Ready)
    (hpc : system.session = .handling resp) :
    Custody.Move Message.storable system.account (system.sessionHandle resp).account ∧
      (system.sessionHandle resp).session.Ready := by
  rw [hpc] at hready
  obtain ⟨ackQueue, hclient⟩ := handleResponse_client system.client resp
  have hmove := @move_handle system.client system.arrivals system.deliveries resp hready
  have hnext : (system.sessionHandle resp).account = ⟨system.arrivals, system.deliveries
      ++ (handleResponse system.client resp).2.2.filterMap Event.deliveredMessage,
      (handleResponse system.client resp).1.keptMessages.map Prod.snd,
      (handleResponse system.client resp).2.1.held system.client.receiveBuffer⟩ := by
    rw [sessionHandle, account_log (handleResponse_outcome system.client resp).inbound_eq_nil]
    simp only [account, hclient]
    rfl
  rw [hnext, account, hpc]
  exact hmove

theorem account_sessionReply {reply : Reply} (sent : Bool) (hready : system.session.Ready)
    (hpc : system.session = .replying reply) :
    Custody.Move Message.storable system.account (system.sessionReply reply sent).account ∧
      (system.sessionReply reply sent).session.Ready := by
  rw [hpc] at hready
  have hmove := @move_afterReply system.client system.arrivals system.deliveries
    (system.client.keptMessages.map Prod.snd) reply sent hready
  have hinbound : (Event.replied reply sent :: (afterReply { system.client with
      receiveBuffer := system.client.receiveBuffer.write reply.frame } reply sent).2).filterMap
        Event.inbound = [] := by
    rw [List.filterMap_cons_none rfl]
    exact (afterReply_outcome _ reply sent).inbound_eq_nil
  have hreplied : Event.deliveredMessage (.replied reply sent) = none := by
    cases reply <;> rfl
  rw [sessionReply, account_log hinbound, List.filterMap_cons_none hreplied, account, hpc]
  exact hmove

theorem account_sessionRegister {waiting : Waiting} (hpc : system.session = .registering waiting) :
    Custody.Move Message.storable system.account (system.sessionRegister waiting).account := by
  have hstored : (system.sessionRegister waiting).client.keptMessages
      = system.client.keptMessages ++ waiting.kept.toList := by
    cases hkept : waiting.kept <;>
      simp [Client.keptMessages, sessionRegister, enqueueWaiting, hkept]
  have hnext : (system.sessionRegister waiting).account = ⟨system.arrivals, system.deliveries,
      system.client.keptMessages.map Prod.snd ++ (waiting.kept.map Prod.snd).toList, none⟩ := by
    rw [account, hstored, List.map_append]
    cases waiting.kept <;> rfl
  rw [hnext, account, hpc]
  cases hkept : waiting.kept with
  | none =>
      rw [Option.map_none, Option.toList_none, List.append_nil]
      exact .drop _
  | some entry =>
      have hhand : (SessionPc.registering waiting).held system.client.receiveBuffer
          = some entry.2 := congrArg (Option.map Prod.snd) hkept
      rw [hhand]
      exact .store (storable_of_kept hkept)

variable [DecidableEq Tid]

/-- The API threads neither see nor touch the messages. -/
theorem account_api {label : Label Tid} (hlabel : ¬ label.isSession)
    (hstep : system.step label = some next) : next.account = system.account := by
  obtain ⟨hsession, -, hbuffer, -, ⟨added, hentries, hadded⟩, events, hevents, hapi⟩ :=
    apiFrame_step hlabel hstep
  have hinbound : events.filterMap Event.inbound = [] :=
    List.filterMap_eq_nil_iff.mpr fun event hmem => (Event.observation_of_api (hapi event hmem)).1
  have hdelivered : events.filterMap Event.deliveredMessage = [] := by
    apply List.filterMap_eq_nil_iff.mpr
    intro event hmem
    rw [Event.deliveredMessage, (Event.observation_of_api (hapi event hmem)).2]
  have hkept : added.filterMap Waiting.kept = [] := by
    apply List.filterMap_eq_nil_iff.mpr
    intro waiting hmem
    obtain ⟨-, request, serial, hwaiting⟩ := hadded waiting hmem
    exact kept_of_request hwaiting
  simp only [account, arrivals, inbound, deliveries, Client.keptMessages, hsession, hbuffer,
    hevents, hentries, List.filterMap_append, hinbound, hdelivered, hkept, List.append_nil]

/-- The session thread is a keeper of the messages. -/
theorem account_step {label : Label Tid} (hready : system.session.Ready) (hdecodes : label.decodes)
    (hstep : system.step label = some next) :
    Custody.Move Message.storable system.account next.account ∧ next.session.Ready := by
  cases label with
  | sessionTop =>
      obtain ⟨hpc, -, rfl⟩ := step_sessionTop.mp hstep
      exact account_sessionTop hpc
  | sessionSend sent =>
      obtain ⟨slot, hpc, rfl⟩ := step_sessionSend.mp hstep
      refine ⟨?_, trivial⟩
      rw [sessionSend, account_log rfl, account, hpc, List.filterMap_cons_none rfl,
        List.filterMap_nil, List.append_nil]
      exact .rest _
  | sessionRequeue =>
      obtain ⟨slot, hpc, -, rfl⟩ := step_sessionRequeue.mp hstep
      refine ⟨?_, trivial⟩
      rw [account, hpc]
      exact .rest _
  | sessionReceive buffer size resp =>
      obtain ⟨hpc, rfl⟩ := step_sessionReceive.mp hstep
      exact account_sessionReceive hpc (of_decide_eq_true hdecodes)
  | sessionHandle =>
      obtain ⟨resp, hpc, -, rfl⟩ := step_sessionHandle.mp hstep
      exact account_sessionHandle hready hpc
  | sessionReply sent =>
      obtain ⟨reply, hpc, rfl⟩ := step_sessionReply.mp hstep
      exact account_sessionReply sent hready hpc
  | sessionRegister =>
      obtain ⟨waiting, hpc, -, rfl⟩ := step_sessionRegister.mp hstep
      exact ⟨account_sessionRegister hpc, trivial⟩
  | _ =>
      have haccount := account_api (by simp [Label.isSession]) hstep
      have hsession := (apiFrame_step (by simp [Label.isSession]) hstep).session
      rw [haccount, hsession]
      exact ⟨.rest _, hready⟩

/-- What the keeper's invariant says of the system. -/
structure Keeping (system : System Tid) : Prop where
  ready : system.session.Ready
  honest : Custody.Honest Message.storable system.account

theorem Keeping.step {label : Label Tid} (hkeeping : system.Keeping) (hdecodes : label.decodes)
    (hstep : system.step label = some next) : next.Keeping := by
  obtain ⟨hmove, hready⟩ := account_step hkeeping.ready hdecodes hstep
  exact ⟨hready, hkeeping.honest.move hmove⟩

/-- **No message is made up or shown twice.** Whatever is received, and whatever sends fail, the
messages shown are among those received, each as often at most; those at QoS 0 and 1 are shown in
the order in which they came. -/
theorem deliveries_from_arrivals {client : Client} {bufferCount : UInt16} {bufferSize : Nat}
    {labels : List (Label Tid)} (hdecodes : ∀ label ∈ labels, label.decodes)
    (hrun : Run.exec step (init client bufferCount bufferSize) labels = some system) :
    system.deliveries.Subperm system.arrivals ∧
      (system.deliveries.filter (!·.storable)).Sublist (system.arrivals.filter (!·.storable)) := by
  have hinit : (init client bufferCount bufferSize : System Tid).Keeping :=
    ⟨trivial, Custody.honest_empty⟩
  have hkeeping : system.Keeping := Run.invariant_along Keeping
    (fun _ _ _ hkeeping hdecodes hstep => hkeeping.step hdecodes hstep) hinit
    (Run.along_of_forall hdecodes _) hrun
  exact ⟨hkeeping.honest.shown_subperm, hkeeping.honest.shown_sublist⟩

/-- The reception of a packet, in memory that is otherwise zero. -/
def receivePacket (bytes : List UInt8) (resp : Response) : Label Unit :=
  .sessionReceive (Memory.write (fun _ => 0) bytes) bytes.length (some resp)

/-- A message at QoS 2 comes twice and one at QoS 1 twice; there are three PUBRELs, and one
acknowledgement does not get through. -/
def repetitions : List (Label Unit) :=
  let store : List (Label Unit) := [.sessionTop,
    receivePacket [0x34, 6, 0, 1, 97, 0, 1, 98] (.publish ⟨QoS2, false, ⟨4, 1⟩, 1, ⟨7, 1⟩⟩),
    .sessionHandle, .sessionReply true, .sessionRegister]
  let release : List (Label Unit) :=
    [.sessionTop, receivePacket [0x62, 2, 0, 1] (.pubrel 1), .sessionHandle]
  let display : List (Label Unit) := [.sessionTop,
    receivePacket [0x32, 6, 0, 1, 97, 0, 1, 99] (.publish ⟨QoS1, false, ⟨4, 1⟩, 1, ⟨7, 1⟩⟩),
    .sessionHandle, .sessionReply true]
  store ++ store ++ release ++ [.sessionReply true] ++ display ++ display ++ release
    ++ [.sessionReply false] ++ release

theorem repeated_messages_are_accounted_for : ∃ system : System Unit,
    Run.exec step (init (connectedClient zeroClient (some 0) 0) 10 1024) repetitions = some system ∧
      system.deliveries.length = 3 ∧ system.deliveries.Subperm system.arrivals ∧
      (system.deliveries.filter (!·.storable)).Sublist
        (system.arrivals.filter (!·.storable)) := by
  let start : System Unit := init (connectedClient zeroClient (some 0) 0) 10 1024
  obtain ⟨system, hrun⟩ : ∃ system, Run.exec step start repetitions = some system :=
    Option.isSome_iff_exists.mp (by decide)
  have hseen : (Run.exec step start repetitions).map (fun system => system.deliveries.length)
      = some 3 := by decide
  rw [hrun] at hseen
  exact ⟨system, hrun, Option.some.inj hseen, deliveries_from_arrivals (by decide) hrun⟩

end System

/-! ### Acknowledgements -/

/-- The acknowledgement that a packet calls for. -/
def Response.due : Response → Option (List UInt8)
  | publish data =>
      if data.qos = QoS1 then some (makePubackMessage data.packetId)
      else if data.qos = QoS2 then some (makePubrecMessage data.packetId)
      else none
  | pubrec packetId => some (makePubrelMessage packetId)
  | pubrel packetId => some (makePubcompMessage packetId)
  | _ => none

/-- The acknowledgement of a message, not of an acknowledgement. -/
def Response.receipt : Response → Option (List UInt8)
  | publish data => (Response.publish data).due
  | _ => none

def Reply.receipt : Reply → Option (List UInt8)
  | puback data => some (Reply.puback data).frame
  | pubrec data => some (Reply.pubrec data).frame
  | _ => none

def Event.replyFrame : Event → Option (List UInt8)
  | replied reply _ => some reply.frame
  | _ => none

def Event.receiptFrame : Event → Option (List UInt8)
  | replied reply _ => reply.receipt
  | _ => none

theorem Event.replyFrame_of_api {event : Event} (hevent : ¬ event.isSession) :
    event.replyFrame = none ∧ event.receiptFrame = none := by
  cases event <;> first | exact ⟨rfl, rfl⟩ | simp [Event.isSession] at hevent

/-- The acknowledgement that the session thread is about to send, if it sends one. -/
def SessionPc.due : SessionPc → Option (List UInt8)
  | handling resp => resp.due
  | replying reply => some reply.frame
  | _ => none

def SessionPc.receipt : SessionPc → Option (List UInt8)
  | handling resp => resp.receipt
  | replying reply => reply.receipt
  | _ => none

theorem System.Outcome.replyFrame_eq_nil {outcome : SessionPc × List Event}
    (houtcome : System.Outcome outcome) :
    outcome.2.filterMap Event.replyFrame = [] ∧ outcome.2.filterMap Event.receiptFrame = [] := by
  cases houtcome <;> exact ⟨rfl, rfl⟩

/-- A packet that is looked up is no message, and is answered if its record is found. -/
theorem onFound_due {resp : Response} {type : MessageType} {packetId : UInt16} (waiting : Waiting)
    (hkey : resp.key = some (type, packetId)) :
    (resp.onFound waiting).1.receipt = resp.receipt ∧
      (resp.onFound waiting).1.due.toList.Sublist resp.due.toList := by
  cases resp with
  | pubrec other => exact ⟨rfl, List.Sublist.refl _⟩
  | pubrel other => exact ⟨rfl, List.Sublist.refl _⟩
  | suback other results =>
      simp only [Response.onFound, runSubCallback]
      split <;> exact ⟨rfl, List.Sublist.refl _⟩
  | unsuback other =>
      simp only [Response.onFound, runUnsubCallback]
      split <;> exact ⟨rfl, List.Sublist.refl _⟩
  | puback | pubcomp | pingresp =>
      simp only [Response.onFound, runCallback]
      split <;> exact ⟨rfl, List.Sublist.refl _⟩
  | _ => simp [Response.key] at hkey

/-- A message is always acknowledged, another packet perhaps. -/
theorem handleResponse_due (client : Client) (resp : Response) :
    (handleResponse client resp).2.1.receipt = resp.receipt ∧
      (handleResponse client resp).2.1.due.toList.Sublist resp.due.toList := by
  cases hkey : resp.key with
  | none =>
      cases resp with
      | publish data =>
          simp only [handleResponse]
          split_ifs with hzero hone htwo
          · simp [SessionPc.receipt, SessionPc.due, Response.receipt, Response.due, hzero, QoS0,
              QoS1, QoS2]
          · simp [SessionPc.receipt, SessionPc.due, Response.receipt, Response.due, hone,
              Reply.receipt, Reply.frame]
          · simp [SessionPc.receipt, SessionPc.due, Response.receipt, Response.due, htwo,
              Reply.receipt, Reply.frame, QoS1, QoS2]
          · simp [SessionPc.receipt, SessionPc.due, Response.receipt, Response.due, hone, htwo]
      | connect | connack | subscribe | unsubscribe | pingreq | disconnect =>
          exact ⟨rfl, List.Sublist.refl _⟩
      | _ => simp [Response.key] at hkey
  | some key =>
      obtain ⟨type, packetId⟩ := key
      have hreceipt : resp.receipt = none := by
        cases resp with
        | publish data => cases hkey
        | _ => rfl
      rw [handleResponse_of_key hkey]
      obtain ⟨-, hdone | hcrashed⟩ | ⟨left, waiting, right, -, -, -, hfound⟩ :=
        withWaiting_split client type packetId resp.onFound
      · rw [hdone]
        exact ⟨hreceipt.symm, List.nil_sublist _⟩
      · rw [hcrashed]
        exact ⟨hreceipt.symm, List.nil_sublist _⟩
      · rw [hfound]
        exact onFound_due waiting hkey

theorem afterReply_due (client : Client) (reply : Reply) (sent : Bool) :
    (afterReply client reply sent).1.receipt = none ∧
      (afterReply client reply sent).1.due = none := by
  cases sent with
  | false => exact ⟨rfl, rfl⟩
  | true =>
      cases reply with
      | pubcomp waiting packetId =>
          simp only [afterReply, deliverWaiting, if_true]
          split <;> exact ⟨rfl, rfl⟩
      | _ => exact ⟨rfl, rfl⟩

namespace System

variable {Tid : Type} {system next : System Tid}

/-- The acknowledgements that the packets received call for, in order. -/
def dues (system : System Tid) : List (List UInt8) := system.inbound.filterMap (·.2.due)

/-- The acknowledgements that the messages received call for. -/
def receiptsDue (system : System Tid) : List (List UInt8) := system.inbound.filterMap (·.2.receipt)

/-- The acknowledgements handed to `server_send`, in order. -/
def replyFrames (system : System Tid) : List (List UInt8) :=
  system.events.filterMap Event.replyFrame

/-- Those that acknowledge a message. -/
def receiptFrames (system : System Tid) : List (List UInt8) :=
  system.events.filterMap Event.receiptFrame

/-- The acknowledgements that have been sent or are about to be are those that are due, less those
that answer an acknowledgement nobody waited for. -/
structure Acknowledging (system : System Tid) : Prop where
  receipts : system.receiptFrames ++ system.session.receipt.toList = system.receiptsDue
  replies : (system.replyFrames ++ system.session.due.toList).Sublist system.dues

theorem Acknowledging.of_quiet (hacknowledging : system.Acknowledging) {events : List Event}
    (hevents : next.events = system.events ++ events)
    (hinbound : events.filterMap Event.inbound = [])
    (hreply : events.filterMap Event.replyFrame = [])
    (hreceipt : events.filterMap Event.receiptFrame = [])
    (hsame : next.session.receipt = system.session.receipt)
    (hdue : next.session.due.toList.Sublist system.session.due.toList) : next.Acknowledging := by
  obtain ⟨hreceipts, hreplies⟩ := hacknowledging
  constructor
  · simpa only [receiptFrames, receiptsDue, inbound, hevents, List.filterMap_append, hinbound,
      hreceipt, List.append_nil, hsame] using hreceipts
  · simp only [replyFrames, dues, inbound, hevents, List.filterMap_append, hinbound, hreply,
      List.append_nil]
    exact (List.Sublist.append_left hdue _).trans hreplies

theorem Acknowledging.sessionReceive {buffer : Memory} {size : Int} {resp : Option Response}
    (hacknowledging : system.Acknowledging) (hpc : system.session = .receiving) :
    (system.sessionReceive buffer size resp).Acknowledging := by
  obtain ⟨-, hreceive⟩ | ⟨-, -, hreceive⟩ | ⟨packet, -, -, hreceive⟩ :=
    system.sessionReceive_cases buffer size resp
  · rw [hreceive]
    exact hacknowledging.of_quiet (List.append_nil _).symm rfl rfl rfl (by rw [hpc]; rfl)
      (List.nil_sublist _)
  · rw [hreceive]
    exact hacknowledging.of_quiet (List.append_nil _).symm rfl rfl rfl (by rw [hpc]; rfl)
      (List.nil_sublist _)
  · obtain ⟨hreceipts, hreplies⟩ := hacknowledging
    rw [hpc] at hreceipts hreplies
    have hinbound : (system.events ++ [Event.received buffer packet]).filterMap Event.inbound
        = system.inbound ++ [(buffer, packet)] := by
      rw [List.filterMap_append]
      rfl
    rw [hreceive]
    constructor
    · simp only [receiptFrames, receiptsDue, inbound, hinbound, List.filterMap_append]
      rw [List.filterMap_cons_none rfl, List.filterMap_nil, List.append_nil]
      change system.receiptFrames ++ [] = _ at hreceipts
      rw [List.append_nil] at hreceipts
      exact congrArg (· ++ packet.receipt.toList) hreceipts
    · simp only [replyFrames, dues, inbound, hinbound, List.filterMap_append]
      rw [List.filterMap_cons_none rfl, List.filterMap_nil, List.append_nil]
      change (system.replyFrames ++ []).Sublist _ at hreplies
      rw [List.append_nil] at hreplies
      exact hreplies.append (List.Sublist.refl packet.due.toList)

theorem Acknowledging.sessionReply {reply : Reply} (sent : Bool)
    (hacknowledging : system.Acknowledging) (hpc : system.session = .replying reply) :
    (system.sessionReply reply sent).Acknowledging := by
  obtain ⟨hreceipts, hreplies⟩ := hacknowledging
  rw [hpc] at hreceipts hreplies
  let client :=
    { system.client with receiveBuffer := system.client.receiveBuffer.write reply.frame }
  let after := afterReply client reply sent
  obtain ⟨hreceipt, hdue⟩ := afterReply_due client reply sent
  have houtcome := afterReply_outcome client reply sent
  obtain ⟨hnoReply, hnoReceipt⟩ := houtcome.replyFrame_eq_nil
  have hinbound : (system.sessionReply reply sent).inbound = system.inbound := by
    apply inbound_log
    rw [List.filterMap_cons_none rfl]
    exact houtcome.inbound_eq_nil
  have hevents : (system.sessionReply reply sent).events
      = system.events ++ Event.replied reply sent :: after.2 := rfl
  have hsession : (system.sessionReply reply sent).session = after.1 := rfl
  constructor
  · rw [receiptFrames, receiptsDue, hinbound, hevents, hsession, hreceipt, Option.toList_none,
      List.append_nil, List.filterMap_append]
    rw [receiptsDue, receiptFrames] at hreceipts
    rw [← hreceipts]
    congr 1
    rw [SessionPc.receipt]
    cases hreply : reply.receipt with
    | none =>
        have hhead : Event.receiptFrame (.replied reply sent) = none := hreply
        rw [List.filterMap_cons_none hhead, Option.toList_none]
        exact hnoReceipt
    | some frame =>
        have hhead : Event.receiptFrame (.replied reply sent) = some frame := hreply
        rw [List.filterMap_cons_some hhead, Option.toList_some]
        exact congrArg (frame :: ·) hnoReceipt
  · have hframes : (Event.replied reply sent :: after.2).filterMap Event.replyFrame
        = [reply.frame] := congrArg (reply.frame :: ·) hnoReply
    rw [replyFrames, dues, hinbound, hevents, hsession, hdue, Option.toList_none, List.append_nil,
      List.filterMap_append, hframes]
    exact hreplies

theorem acknowledging_init (client : Client) (bufferCount : UInt16) (bufferSize : Nat) :
    (init client bufferCount bufferSize : System Tid).Acknowledging :=
  ⟨rfl, List.Sublist.refl _⟩

variable [DecidableEq Tid]

theorem Acknowledging.step {label : Label Tid} (hacknowledging : system.Acknowledging)
    (hstep : system.step label = some next) : next.Acknowledging := by
  cases label with
  | sessionTop =>
      obtain ⟨hpc, -, rfl⟩ := step_sessionTop.mp hstep
      obtain ⟨-, htop⟩ | ⟨-, -, htop⟩ | ⟨slot, rest, -, -, htop⟩ := system.sessionTop_cases
      · rw [htop]
        exact hacknowledging.of_quiet (List.append_nil _).symm rfl rfl rfl (by rw [hpc]; rfl)
          (List.nil_sublist _)
      · rw [htop]
        exact hacknowledging.of_quiet (List.append_nil _).symm rfl rfl rfl (by rw [hpc]; rfl)
          (List.nil_sublist _)
      · rw [htop]
        exact hacknowledging.of_quiet (List.append_nil _).symm rfl rfl rfl (by rw [hpc]; rfl)
          (List.nil_sublist _)
  | sessionSend sent =>
      obtain ⟨slot, hpc, rfl⟩ := step_sessionSend.mp hstep
      exact hacknowledging.of_quiet rfl rfl rfl rfl (by rw [hpc]; rfl) (List.nil_sublist _)
  | sessionRequeue =>
      obtain ⟨slot, hpc, -, rfl⟩ := step_sessionRequeue.mp hstep
      exact hacknowledging.of_quiet (List.append_nil _).symm rfl rfl rfl (by rw [hpc]; rfl)
        (List.nil_sublist _)
  | sessionReceive buffer size resp =>
      obtain ⟨hpc, rfl⟩ := step_sessionReceive.mp hstep
      exact hacknowledging.sessionReceive hpc
  | sessionHandle =>
      obtain ⟨resp, hpc, -, rfl⟩ := step_sessionHandle.mp hstep
      have houtcome := handleResponse_outcome system.client resp
      obtain ⟨hreceipt, hdue⟩ := handleResponse_due system.client resp
      obtain ⟨hnoReply, hnoReceipt⟩ := houtcome.replyFrame_eq_nil
      exact hacknowledging.of_quiet rfl houtcome.inbound_eq_nil hnoReply hnoReceipt
        (by rw [hpc]; exact hreceipt) (by rw [hpc]; exact hdue)
  | sessionReply sent =>
      obtain ⟨reply, hpc, rfl⟩ := step_sessionReply.mp hstep
      exact hacknowledging.sessionReply sent hpc
  | sessionRegister =>
      obtain ⟨waiting, hpc, -, rfl⟩ := step_sessionRegister.mp hstep
      exact hacknowledging.of_quiet (List.append_nil _).symm rfl rfl rfl (by rw [hpc]; rfl)
        (List.nil_sublist _)
  | _ =>
      obtain ⟨hsession, -, -, -, -, events, hevents, hapi⟩ :=
        apiFrame_step (by simp [Label.isSession]) hstep
      have hnothing (see : Event → Option (List UInt8))
          (hsee : ∀ event : Event, ¬ event.isSession → see event = none) :
          events.filterMap see = [] :=
        List.filterMap_eq_nil_iff.mpr fun event hmem => hsee event (hapi event hmem)
      have hinbound : events.filterMap Event.inbound = [] :=
        List.filterMap_eq_nil_iff.mpr fun event hmem =>
          (Event.observation_of_api (hapi event hmem)).1
      exact hacknowledging.of_quiet hevents hinbound
        (hnothing _ fun event hevent => (Event.replyFrame_of_api hevent).1)
        (hnothing _ fun event hevent => (Event.replyFrame_of_api hevent).2)
        (congrArg SessionPc.receipt hsession) (by rw [hsession])

/-- **Every message is acknowledged once.** Whatever the broker sends and whatever sends fail, the
PUBACK and PUBREC frames that the session thread hands over are those that the messages received
call for, in order, with the one in hand still to come; its other acknowledgements answer packets
received, in that order. -/
theorem messages_are_acknowledged {client : Client} {bufferCount : UInt16} {bufferSize : Nat}
    {labels : List (Label Tid)}
    (hrun : Run.exec System.step (init client bufferCount bufferSize) labels = some system) :
    system.receiptFrames ++ system.session.receipt.toList = system.receiptsDue ∧
      system.replyFrames.Sublist system.dues := by
  have hacknowledging : system.Acknowledging := Run.invariant Acknowledging
    (fun _ _ _ hacknowledging hstep => hacknowledging.step hstep)
    (acknowledging_init client bufferCount bufferSize) hrun
  exact ⟨hacknowledging.receipts,
    (List.sublist_append_left _ _).trans hacknowledging.replies⟩

theorem repeated_messages_are_acknowledged : ∃ system : System Unit,
    Run.exec step (init (connectedClient zeroClient (some 0) 0) 10 1024) repetitions = some system ∧
      system.replyFrames.length = 6 ∧
      system.receiptFrames ++ system.session.receipt.toList = system.receiptsDue ∧
      system.replyFrames.Sublist system.dues := by
  let start : System Unit := init (connectedClient zeroClient (some 0) 0) 10 1024
  obtain ⟨system, hrun⟩ : ∃ system, Run.exec step start repetitions = some system :=
    Option.isSome_iff_exists.mp (by decide)
  have hseen : (Run.exec step start repetitions).map (fun system => system.replyFrames.length)
      = some 6 := by decide
  rw [hrun] at hseen
  exact ⟨system, hrun, Option.some.inj hseen, messages_are_acknowledged hrun⟩

end System

end Smqtt
