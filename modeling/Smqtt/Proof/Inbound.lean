import Smqtt.Lib.PartialMap
import Smqtt.Proof.Decoder
import Smqtt.Proof.Records

/-!
# Messages that come in

What a subscriber should see is a function of the packets received: a message at QoS 0 or 1 at once,
a message at QoS 2 when its PUBREL comes. The invariant is that the PUBREL records in `ack_queue`
list the messages that are still pending, whatever other records stand between them.
-/

namespace Smqtt

/-! ### What should be seen -/

/-- A packet, with the buffer that its strings are in. -/
abbrev Inbound := Memory × Response

/-- What `msg_callback` is given. -/
structure Message where
  topic : List UInt8
  payload : List UInt8
  qos : QoS
  retain : Bool
  deriving DecidableEq

def PublishData.read (buffer : Memory) (data : PublishData) : Message :=
  ⟨cString (data.topic.bytes buffer), cString (data.message.bytes buffer), data.qos, data.retain⟩

inductive Observation where
  | received (packet : Inbound)
  | delivered (message : Message)
  | pubcomp (packetId : UInt16)

/-- The messages received at QoS 2 that have not been released, by packet id. -/
def pending (history : List Inbound) : UInt16 → Option Message :=
  history.foldl (fun kept packet =>
    match packet.2 with
    | .publish data =>
        if data.qos = QoS2 then Function.update kept data.packetId (some (data.read packet.1))
        else kept
    | .pubrel packetId => Function.update kept packetId none
    | _ => kept) fun _ => none

/-- What a packet causes, given what came before it. -/
def reaction (history : List Inbound) (packet : Inbound) : List Observation :=
  match packet.2 with
  | .publish data =>
      if data.qos = QoS0 ∨ data.qos = QoS1 then [.delivered (data.read packet.1)] else []
  | .pubrel packetId =>
      match pending history packetId with
      | none => []
      | some message => [.pubcomp packetId, .delivered message]
  | _ => []

def expectedFrom (history : List Inbound) : List Inbound → List Observation
  | [] => []
  | packet :: rest =>
      .received packet :: reaction history packet ++ expectedFrom (history ++ [packet]) rest

def expected (packets : List Inbound) : List Observation := expectedFrom [] packets

theorem expectedFrom_concat (history packets : List Inbound) (packet : Inbound) :
    expectedFrom history (packets ++ [packet])
      = expectedFrom history packets ++ .received packet :: reaction (history ++ packets) packet := by
  induction packets generalizing history with
  | nil => simp [expectedFrom]
  | cons first packets ih => simp [expectedFrom, ih]

theorem expected_concat (packets : List Inbound) (packet : Inbound) :
    expected (packets ++ [packet])
      = expected packets ++ .received packet :: reaction packets packet :=
  expectedFrom_concat [] packets packet

/-! ### What is seen -/

def Event.inbound : Event → Option Inbound
  | received buffer resp => some (buffer, resp)
  | _ => none

def Event.observation : Event → Option Observation
  | received buffer resp => some (.received (buffer, resp))
  | delivered topic msg qos retain _ => some (.delivered ⟨cString topic, cString msg, qos, retain⟩)
  | replied (.pubcomp _ packetId) _ => some (.pubcomp packetId)
  | _ => none

def Event.deliveredMessage (event : Event) : Option Message :=
  match event.observation with
  | some (.delivered message) => some message
  | _ => none

theorem Event.observation_of_api {event : Event} (hevent : ¬ event.isSession) :
    event.inbound = none ∧ event.observation = none := by
  cases event <;> first | exact ⟨rfl, rfl⟩ | simp [Event.isSession] at hevent

/-- The message in a record that waits for a PUBREL. -/
def Waiting.kept (waiting : Waiting) : Option (UInt16 × Message) :=
  match waiting.type, waiting.data with
  | .pubrel, .pubrel topic msg retain packetId =>
      some (packetId, ⟨cString topic, cString msg, QoS2, retain⟩)
  | _, _ => none

theorem kept_of_type_ne {waiting : Waiting} (htype : waiting.type ≠ .pubrel) :
    waiting.kept = none := by
  unfold Waiting.kept
  split
  · contradiction
  · rfl

theorem kept_of_request {request : Request} {client : Client} {serial : Nat} {waiting : Waiting}
    (hwaiting : request.waiting client serial = some waiting) : waiting.kept = none := by
  apply kept_of_type_ne
  cases request with
  | publish topic msg qos retain callback context =>
      simp only [Request.waiting] at hwaiting
      split_ifs at hwaiting <;> obtain rfl := Option.some.inj hwaiting <;> simp
  | _ =>
      obtain rfl := Option.some.inj hwaiting
      simp

/-- A search for a PUBREL takes the record whose message has the id. -/
theorem inspect_pubrel {waiting : Waiting} (hwaiting : waiting.WellFormed) (packetId : UInt16) :
    inspect .pubrel packetId waiting = .take ↔
      ∃ message, waiting.kept = some (packetId, message) := by
  cases hwaiting with
  | pubrel => simp [inspect, compareId, WaitingData.pubrelId, Waiting.kept]
  | _ => simp [inspect, Waiting.kept]

namespace System

variable {Tid : Type}

def inbound (system : System Tid) : List Inbound := system.events.filterMap Event.inbound

def observed (system : System Tid) : List Observation :=
  system.events.filterMap Event.observation

end System

/-- The messages in `ack_queue`, in its order. -/
def Client.keptMessages (client : Client) : List (UInt16 × Message) :=
  client.ackQueue.toList.filterMap Waiting.kept

/-! ### Strings behind an acknowledgement -/

/-- The strings of the packet lie behind the four bytes of an acknowledgement. -/
def Response.Behind : Response → Prop
  | publish data => 4 ≤ data.topic.offset ∧ 4 ≤ data.message.offset
  | _ => True

theorem cString_copySlice (buffer : Memory) (slice : Slice) :
    cString (copySlice buffer slice) = cString (slice.bytes buffer) := by
  have hzeros : ∀ count, (List.replicate count (0 : UInt8) ++ [0]).takeWhile (· ≠ 0) = [] := by
    intro count
    cases count <;> simp [List.replicate_succ]
  have hall : ∀ byte ∈ cString (slice.bytes buffer), decide (byte ≠ 0) = true :=
    fun byte => List.all_eq_true.mp List.all_takeWhile byte
  let bytes := slice.bytes buffer
  let zeros : List UInt8 := List.replicate (bytes.length - (cString bytes).length) 0
  calc cString (copySlice buffer slice)
      = (cString bytes ++ (zeros ++ [0])).takeWhile (· ≠ 0) := by
        rw [copySlice, strncpy, List.append_assoc, cString]
    _ = cString bytes ++ (zeros ++ [0]).takeWhile (· ≠ 0) := List.takeWhile_append_of_pos hall
    _ = cString bytes := by rw [hzeros, List.append_nil]

theorem used_le_decodeSizeLoop (memory : Memory) (bufferEnd fuel buffer value multiplier used : Nat)
    (digit : UInt8) :
    used ≤ ((decodeSizeLoop bufferEnd fuel buffer value multiplier used digit).eval memory).2.1 := by
  induction fuel generalizing buffer value multiplier used digit with
  | zero => exact le_rfl
  | succ fuel ih =>
      simp only [decodeSizeLoop, Interaction.eval_ite, Interaction.eval_bind]
      split_ifs
      · exact Nat.le_succ used
      · exact (Nat.le_succ used).trans (ih _ _ _ _ _)
      · exact le_rfl

theorem used_pos_decodeSize (memory : Memory) {length : Nat} (hlength : 1 ≤ length) :
    1 ≤ ((decodeSize 1 length).eval memory).2 := by
  have hloop : 1 ≤ ((decodeSizeLoop length 4 1 0 1 0 0).eval memory).2.1 := by
    rw [decodeSizeLoop, if_pos hlength]
    simp only [Interaction.eval_ite, Interaction.eval_bind]
    split_ifs
    · exact le_rfl
    · exact used_le_decodeSizeLoop _ _ _ _ _ _ _ _
  simp only [decodeSize, Interaction.eval_bind, Interaction.eval_ite]
  split_ifs <;> exact hloop

theorem behind_deserializeBody {memory : Memory} (type : MessageType) (first : UInt8)
    (totalSize : Nat) {offset : Nat} (hoffset : 2 ≤ offset) :
    ((deserializeBody type first totalSize offset).eval memory).Behind := by
  cases type with
  | publish =>
      simp only [deserializeBody, deserializePublish, parseString, Interaction.eval_bind,
        Interaction.eval_ite]
      split_ifs
      · exact ⟨by simpa using hoffset, by simp; omega⟩
      · exact ⟨by simpa using hoffset, by simp; omega⟩
  | connect => simp [deserializeBody, deserializeConnect, Response.Behind]
  | _ => simp [deserializeBody, Response.Behind]

theorem behind_deserializeResponse {memory : Memory} {length : Nat} {resp : Response}
    (hlength : 1 ≤ length) (hresp : (deserializeResponse length).eval memory = some resp) :
    resp.Behind := by
  have hused := used_pos_decodeSize memory hlength
  obtain ⟨type, totalSize, offset, hoffset, rfl⟩ := exists_deserializeBody_of_eval hresp
  exact behind_deserializeBody type _ totalSize (by omega)

/-- The acknowledgement, serialized into the same buffer, leaves the strings alone. -/
theorem read_write_frame {data : PublishData} (hbehind : (Response.publish data).Behind)
    (buffer : Memory) (reply : Reply) :
    data.read (buffer.write reply.frame) = data.read buffer := by
  obtain ⟨htopic, hmessage⟩ := hbehind
  simp only [PublishData.read, Slice.bytes]
  rw [Memory.slice_write_of_le (by rwa [reply.length_frame]),
    Memory.slice_write_of_le (by rwa [reply.length_frame])]

/-! ### The invariant -/

open PartialMap

/-- One packet is being handled, the others have been. -/
structure Current (inbound : List Inbound) (observed : List Observation) (handled : List Inbound)
    (packet : Inbound) : Prop where
  inbound : inbound = handled ++ [packet]
  observed : observed = expected handled ++ [.received packet]

/-- What the position of the session thread says about the packets and the kept messages. -/
def Position (inbound : List Inbound) (observed : List Observation) (buffer : Memory)
    (kept : List (UInt16 × Message)) : SessionPc → Prop
  | .handling resp => ∃ handled, Current inbound observed handled (buffer, resp) ∧
      ListedBy (pending handled) kept ∧ resp.Behind ∧
      ∀ data, resp = .publish data → data.qos = QoS2 → pending handled data.packetId = none
  | .replying (.puback data) => ∃ handled,
      Current inbound observed handled (buffer, .publish data) ∧
      ListedBy (pending handled) kept ∧ data.qos = QoS1 ∧ (Response.publish data).Behind
  | .replying (.pubrec data) => ∃ handled,
      Current inbound observed handled (buffer, .publish data) ∧
      ListedBy (pending handled) kept ∧ data.qos = QoS2 ∧ (Response.publish data).Behind ∧
      pending handled data.packetId = none
  | .replying (.pubrel _ packetId) => ∃ handled arrival,
      Current inbound observed handled (arrival, .pubrec packetId) ∧ ListedBy (pending handled) kept
  | .replying (.pubcomp waiting packetId) => ∃ handled arrival message,
      Current inbound observed handled (arrival, .pubrel packetId) ∧
      ListedBy (Function.update (pending handled) packetId none) kept ∧
      waiting.kept = some (packetId, message) ∧ pending handled packetId = some message
  | .registering waiting => ∃ handled packet, Current inbound observed handled packet ∧
      reaction handled packet = [] ∧
      ListedBy (pending (handled ++ [packet])) (kept ++ waiting.kept.toList)
  | _ => observed = expected inbound ∧ ListedBy (pending inbound) kept

/-- A packet is being handled. -/
def SessionPc.handles : SessionPc → Bool
  | handling _ => true
  | replying _ => true
  | registering _ => true
  | _ => false

/-- What is seen is what the packets handled so far should cause, and the reception of the one that
is being handled, if one is. -/
def AsExpected (inbound : List Inbound) (observed : List Observation) (pc : SessionPc) : Prop :=
  ∃ (handled : List Inbound) (current : Option Inbound), inbound = handled ++ current.toList ∧
    observed = expected handled ++ current.toList.map .received ∧ (current.isSome ↔ pc.handles)

section Position

variable {inbound handled : List Inbound} {observed : List Observation} {packet : Inbound}
  {kept : List (UInt16 × Message)} {client : Client}

/-- The packet has been handled, with what it causes. -/
theorem Current.position_top (hcurrent : Current inbound observed handled packet)
    (hkept : ListedBy (pending (handled ++ [packet])) kept) (buffer : Memory) :
    Position inbound (observed ++ reaction handled packet) buffer kept .top := by
  refine ⟨?_, ?_⟩
  · rw [hcurrent.inbound, hcurrent.observed, expected_concat]
    simp
  · rwa [hcurrent.inbound]

theorem Current.asExpected (hcurrent : Current inbound observed handled packet) {pc : SessionPc}
    (hpc : pc.handles) : AsExpected inbound observed pc :=
  ⟨handled, some packet, hcurrent.inbound, hcurrent.observed, by simpa using hpc⟩

/-- The packets received are those handled and at most one more. -/
theorem Position.asExpected {buffer : Memory} {pc : SessionPc}
    (hposition : Position inbound observed buffer kept pc) : AsExpected inbound observed pc := by
  cases pc with
  | handling resp =>
      obtain ⟨handled, hcurrent, -⟩ := hposition
      exact hcurrent.asExpected rfl
  | replying reply =>
      cases reply with
      | puback data =>
          obtain ⟨handled, hcurrent, -⟩ := hposition
          exact hcurrent.asExpected rfl
      | pubrec data =>
          obtain ⟨handled, hcurrent, -⟩ := hposition
          exact hcurrent.asExpected rfl
      | pubrel waiting packetId =>
          obtain ⟨handled, arrival, hcurrent, -⟩ := hposition
          exact hcurrent.asExpected rfl
      | pubcomp waiting packetId =>
          obtain ⟨handled, arrival, message, hcurrent, -⟩ := hposition
          exact hcurrent.asExpected rfl
  | registering waiting =>
      obtain ⟨handled, packet, hcurrent, -⟩ := hposition
      exact hcurrent.asExpected rfl
  | _ => exact ⟨inbound, none, by simp, by simpa using hposition.1, by simp [SessionPc.handles]⟩

theorem pending_concat (history : List Inbound) (packet : Inbound) :
    pending (history ++ [packet]) = match packet.2 with
      | .publish data =>
          if data.qos = QoS2 then
            Function.update (pending history) data.packetId (some (data.read packet.1))
          else pending history
      | .pubrel packetId => Function.update (pending history) packetId none
      | _ => pending history := by
  rw [pending, List.foldl_append]
  rfl

/-- A packet that neither brings a message nor releases one. -/
theorem pending_concat_of_other {history : List Inbound} {buffer : Memory} {resp : Response}
    (hpublish : ∀ data, resp = .publish data → data.qos ≠ QoS2)
    (hpubrel : ∀ packetId, resp ≠ .pubrel packetId) :
    pending (history ++ [(buffer, resp)]) = pending history := by
  rw [pending_concat]
  cases resp with
  | publish data => simp [hpublish data rfl]
  | pubrel packetId => exact absurd rfl (hpubrel packetId)
  | _ => rfl

theorem reaction_of_other {history : List Inbound} {buffer : Memory} {resp : Response}
    (hpublish : ∀ data, resp = .publish data → data.qos ≠ QoS0 ∧ data.qos ≠ QoS1)
    (hpubrel : ∀ packetId, resp = .pubrel packetId → pending history packetId = none) :
    reaction history (buffer, resp) = [] := by
  cases resp with
  | publish data => simp [reaction, hpublish data rfl]
  | pubrel packetId => simp [reaction, hpubrel packetId rfl]
  | _ => rfl

/-- A PUBREL that no record waits for releases nothing. -/
theorem pending_eq_none {packetId : UInt16}
    (hentries : ∀ waiting ∈ client.ackQueue.toList, waiting.WellFormed)
    (hkept : ListedBy (pending handled) client.keptMessages)
    (hskip : ∀ waiting ∈ client.ackQueue.toList, inspect .pubrel packetId waiting = .skip) :
    pending handled packetId = none := by
  refine hkept.eq_none fun message hmem => ?_
  obtain ⟨waiting, hmem, hwaiting⟩ := List.mem_filterMap.mp hmem
  have htake := (inspect_pubrel (hentries waiting hmem) packetId).mpr ⟨message, hwaiting⟩
  rw [hskip waiting hmem] at htake
  cases htake

theorem position_nothing {resp : Response} {buffer : Memory}
    (hcurrent : Current inbound observed handled (buffer, resp))
    (hkept : ListedBy (pending handled) kept) (hpublish : ∀ data, resp ≠ .publish data)
    (hnone : ∀ packetId, resp = .pubrel packetId → pending handled packetId = none) :
    Position inbound observed buffer kept .top := by
  have hreaction : reaction handled (buffer, resp) = [] :=
    reaction_of_other (fun data heq => absurd heq (hpublish data)) hnone
  have hpending : pending (handled ++ [(buffer, resp)]) = pending handled := by
    by_cases hpubrel : ∃ packetId, resp = .pubrel packetId
    · obtain ⟨packetId, rfl⟩ := hpubrel
      rw [pending_concat]
      exact Function.update_eq_self_iff.mpr (hnone packetId rfl).symm
    · exact pending_concat_of_other (fun data heq => absurd heq (hpublish data))
        fun packetId heq => hpubrel ⟨packetId, heq⟩
  have htop := hcurrent.position_top (hpending ▸ hkept) buffer
  rwa [hreaction, List.append_nil] at htop

/-- The message of the record that a PUBREL finds is taken off the list. -/
theorem position_found_pubrel {packetId : UInt16} {buffer : Memory} {waiting : Waiting}
    {left right : List Waiting} (hwaiting : waiting.WellFormed)
    (hcurrent : Current inbound observed handled (buffer, .pubrel packetId))
    (hkept : ListedBy (pending handled) ((left ++ waiting :: right).filterMap Waiting.kept))
    (htake : inspect .pubrel packetId waiting = .take) :
    Position inbound observed buffer ((left ++ right).filterMap Waiting.kept)
      (.replying (.pubcomp waiting packetId)) := by
  obtain ⟨message, hmessage⟩ := (inspect_pubrel hwaiting packetId).mp htake
  rw [List.filterMap_append, List.filterMap_cons_some hmessage] at hkept
  rw [List.filterMap_append]
  exact ⟨handled, buffer, message, hcurrent, hkept.erase, hmessage, hkept.eq_some⟩

theorem position_found {resp : Response} {type : MessageType} {packetId : UInt16} {buffer : Memory}
    {waiting : Waiting} {left right : List Waiting} (hwaiting : waiting.WellFormed)
    (hcurrent : Current inbound observed handled (buffer, resp))
    (hkept : ListedBy (pending handled) ((left ++ waiting :: right).filterMap Waiting.kept))
    (hkey : resp.key = some (type, packetId)) (htake : inspect type packetId waiting = .take) :
    Position inbound (observed ++ (resp.onFound waiting).2.filterMap Event.observation) buffer
      ((left ++ right).filterMap Waiting.kept) (resp.onFound waiting).1 := by
  have htype := type_of_take htake
  have hother : type ≠ .pubrel → ListedBy (pending handled)
      ((left ++ right).filterMap Waiting.kept) := by
    intro hne
    rw [List.filterMap_append, List.filterMap_cons_none (kept_of_type_ne (htype ▸ hne))] at hkept
    rwa [List.filterMap_append]
  obtain ⟨hresp, hfound⟩ | ⟨rfl, hfound⟩ | ⟨rfl, hfound⟩ := onFound_cases hwaiting hkey htake
  · have hne : type ≠ .pubrel := by
      rintro rfl
      obtain rfl | rfl | rfl := hresp <;> simp [Response.key] at hkey
    rw [hfound, List.filterMap_cons_none rfl, List.filterMap_nil, List.append_nil]
    refine position_nothing hcurrent (hother hne) ?_ ?_
    · rintro data rfl
      simp at hresp
    · rintro other rfl
      simp at hresp
  · obtain ⟨rfl, -⟩ := Prod.mk.inj (Option.some.inj hkey)
    rw [hfound, List.filterMap_nil, List.append_nil]
    exact ⟨handled, buffer, hcurrent, hother (by simp)⟩
  · obtain ⟨rfl, -⟩ := Prod.mk.inj (Option.some.inj hkey)
    rw [hfound, List.filterMap_nil, List.append_nil]
    exact position_found_pubrel hwaiting hcurrent hkept htake

theorem observation_delivered (buffer : Memory) (data : PublishData) (context : Nat) :
    (Event.delivered (copySlice buffer data.topic) (copySlice buffer data.message) data.qos
      data.retain context).observation = some (.delivered (data.read buffer)) := by
  simp only [Event.observation, cString_copySlice]
  rfl

theorem observation_maybeDeliver (hcallback : client.msgCallback.isSome) (data : PublishData) :
    (maybeDeliverMessage client data).filterMap Event.observation
      = [.delivered (data.read client.receiveBuffer)] := by
  obtain ⟨callback, hcallback⟩ := Option.isSome_iff_exists.mp hcallback
  rw [maybeDeliverMessage, hcallback]
  exact List.filterMap_cons_some (observation_delivered _ data _)

theorem position_publish {data : PublishData} (hcallback : client.msgCallback.isSome)
    (hcurrent : Current inbound observed handled (client.receiveBuffer, .publish data))
    (hkept : ListedBy (pending handled) kept) (hbehind : (Response.publish data).Behind)
    (hfresh : data.qos = QoS2 → pending handled data.packetId = none) :
    Position inbound
      (observed ++ (handleResponse client (.publish data)).2.2.filterMap Event.observation)
      client.receiveBuffer kept (handleResponse client (.publish data)).2.1 := by
  have hkept' : data.qos ≠ QoS2 →
      ListedBy (pending (handled ++ [(client.receiveBuffer, .publish data)])) kept := by
    intro hqos
    rwa [pending_concat_of_other (by rintro _ ⟨⟩; exact hqos) (by simp)]
  simp only [handleResponse]
  split_ifs with hzero hone htwo
  · have htop := hcurrent.position_top (hkept' (by simp [hzero, QoS0, QoS2])) client.receiveBuffer
    rw [observation_maybeDeliver hcallback]
    simpa [reaction, hzero] using htop
  · rw [List.filterMap_nil, List.append_nil]
    exact ⟨handled, hcurrent, hkept, hone, hbehind⟩
  · rw [List.filterMap_nil, List.append_nil]
    exact ⟨handled, hcurrent, hkept, htwo, hbehind, hfresh htwo⟩
  · have htop := hcurrent.position_top (hkept' htwo) client.receiveBuffer
    simpa [reaction, hzero, hone] using htop

theorem position_handleResponse {resp : Response}
    (hentries : ∀ waiting ∈ client.ackQueue.toList, waiting.WellFormed)
    (hcallback : client.msgCallback.isSome)
    (hposition : Position inbound observed client.receiveBuffer client.keptMessages
      (.handling resp)) :
    Position inbound (observed ++ (handleResponse client resp).2.2.filterMap Event.observation)
      client.receiveBuffer (handleResponse client resp).1.keptMessages
      (handleResponse client resp).2.1 := by
  obtain ⟨handled, hcurrent, hkept, hbehind, hfresh⟩ := hposition
  obtain ⟨ackQueue, hqueue, hpublish, hskip, hhandle⟩ |
    ⟨type, packetId, ackQueue, left, waiting, right, hkey, hsplit, hqueue, -, htake, hhandle⟩ |
    ⟨data, rfl⟩ := handleResponse_cases resp hentries
  · rw [hhandle, List.filterMap_nil, List.append_nil, Client.keptMessages, hqueue]
    refine position_nothing hcurrent hkept hpublish ?_
    rintro packetId rfl
    exact pending_eq_none hentries hkept (hskip _ _ rfl)
  · rw [hhandle, Client.keptMessages, hqueue]
    rw [Client.keptMessages, hsplit] at hkept
    exact position_found (hentries waiting (by simp [hsplit])) hcurrent hkept hkey htake
  · have hclient : (handleResponse client (.publish data)).1 = client := by
      simp only [handleResponse]
      split_ifs <;> rfl
    rw [hclient]
    exact position_publish hcallback hcurrent hkept hbehind (hfresh data rfl)

theorem position_afterPuback {data : PublishData} (hcallback : client.msgCallback.isSome)
    (hposition : Position inbound observed client.receiveBuffer kept (.replying (.puback data))) :
    let written := client.receiveBuffer.write (Reply.puback data).frame
    Position inbound (observed ++ (maybeDeliverMessage { client with receiveBuffer := written }
      data).filterMap Event.observation) written kept .top := by
  intro written
  obtain ⟨handled, hcurrent, hkept, hqos, hbehind⟩ := hposition
  have hpending : pending (handled ++ [(client.receiveBuffer, .publish data)]) = pending handled :=
    pending_concat_of_other (by rintro _ ⟨⟩; simp [hqos, QoS1, QoS2]) (by simp)
  have htop := hcurrent.position_top (hpending ▸ hkept) written
  have hdelivered : ({ client with receiveBuffer := written } : Client).msgCallback.isSome := hcallback
  rw [observation_maybeDeliver hdelivered, read_write_frame hbehind]
  simpa [reaction, hqos] using htop

theorem position_afterPubrec {data : PublishData} {waiting : Waiting}
    (hposition : Position inbound observed client.receiveBuffer kept (.replying (.pubrec data)))
    (hwaiting : waiting.kept = some (data.packetId, data.read client.receiveBuffer))
    (buffer : Memory) : Position inbound observed buffer kept (.registering waiting) := by
  obtain ⟨handled, hcurrent, hkept, hqos, hbehind, hfresh⟩ := hposition
  refine ⟨handled, _, hcurrent, ?_, ?_⟩
  · simp [reaction, hqos, QoS0, QoS1, QoS2]
  · rw [hwaiting, pending_concat]
    simpa [hqos] using hkept.insert hfresh _

theorem position_afterPubrel {old waiting : Waiting} {packetId : UInt16} {buffer : Memory}
    (hposition : Position inbound observed buffer kept (.replying (.pubrel old packetId)))
    (hwaiting : waiting.kept = none) (written : Memory) :
    Position inbound observed written kept (.registering waiting) := by
  obtain ⟨handled, arrival, hcurrent, hkept⟩ := hposition
  refine ⟨handled, _, hcurrent, rfl, ?_⟩
  rw [hwaiting, pending_concat_of_other (by simp) (by simp)]
  simpa using hkept

theorem position_afterPubcomp {waiting : Waiting} {packetId : UInt16} {buffer : Memory}
    (hcallback : client.msgCallback.isSome)
    (hposition : Position inbound observed buffer kept (.replying (.pubcomp waiting packetId)))
    (written : Memory) :
    Position inbound (observed ++ (.pubcomp packetId ::
        (deliverWaiting client waiting).2.filterMap Event.observation)) written kept
      (deliverWaiting client waiting).1 := by
  obtain ⟨handled, arrival, message, hcurrent, hkept, hmessage, hpending⟩ := hposition
  obtain ⟨callback, hcallback⟩ := Option.isSome_iff_exists.mp hcallback
  obtain ⟨topic, msg, retain, hdata, rfl⟩ : ∃ topic msg retain,
      waiting.data = .pubrel topic msg retain packetId ∧
        message = ⟨cString topic, cString msg, QoS2, retain⟩ := by
    unfold Waiting.kept at hmessage
    split at hmessage
    · rename_i topic msg retain _ _ hdata
      obtain ⟨rfl, rfl⟩ := Prod.mk.inj (Option.some.inj hmessage)
      exact ⟨topic, msg, retain, hdata, rfl⟩
    · cases hmessage
  have htop := hcurrent.position_top (by rwa [pending_concat]) written
  rw [deliverWaiting, hcallback, hdata]
  simpa [reaction, hpending, Event.observation] using htop

/-- The acknowledgement has been sent from the buffer that the packet came in. -/
theorem position_afterReply {reply : Reply} (hcallback : client.msgCallback.isSome)
    (hposition : Position inbound observed client.receiveBuffer kept (.replying reply)) :
    let written := client.receiveBuffer.write reply.frame
    let after := afterReply { client with receiveBuffer := written } reply true
    Position inbound (observed ++ (Event.replied reply true :: after.2).filterMap Event.observation)
      written kept after.1 := by
  intro written after
  cases reply with
  | puback data =>
      rw [List.filterMap_cons_none rfl]
      exact position_afterPuback hcallback hposition
  | pubrec data =>
      have hobserved : (Event.replied (.pubrec data) true :: after.2).filterMap Event.observation
        = [] := rfl
      rw [hobserved, List.append_nil]
      refine position_afterPubrec hposition ?_ written
      obtain ⟨-, -, -, hqos, hbehind, -⟩ := hposition
      rw [← read_write_frame hbehind _ (.pubrec data)]
      simp only [Waiting.kept, cString_copySlice, PublishData.read, hqos]
      rfl
  | pubrel waiting packetId =>
      have hobserved : (Event.replied (.pubrel waiting packetId) true ::
        after.2).filterMap Event.observation = [] := rfl
      rw [hobserved, List.append_nil]
      exact position_afterPubrel hposition (kept_of_type_ne (by simp)) written
  | pubcomp waiting packetId =>
      have hobserved : (Event.replied (.pubcomp waiting packetId) true ::
        after.2).filterMap Event.observation
          = .pubcomp packetId :: after.2.filterMap Event.observation := rfl
      rw [hobserved]
      exact position_afterPubcomp hcallback hposition written

end Position

/-! ### Runs -/

/-- Every acknowledgement is sent. -/
def Label.acknowledges {Tid : Type} : Label Tid → Bool
  | sessionReply sent => sent
  | _ => true

namespace System

variable {Tid : Type} {system next : System Tid}

/-- The broker does not repeat a message at QoS 2 before it has released it. -/
def unrepeated (system : System Tid) : Label Tid → Bool
  | .sessionReceive _ _ (some (.publish data)) =>
      decide (data.qos = QoS2 → pending system.inbound data.packetId = none)
  | _ => true

/-- Publishes and pings with a callback, parsed packets, successful sends, a broker that does not
repeat itself. -/
def deliveryScope (system : System Tid) (label : Label Tid) : Bool :=
  label.answered && label.decodes && label.acknowledges && system.unrepeated label

structure Delivering (system : System Tid) : Prop where
  sound : system.Sound
  msgCallback : system.client.msgCallback.isSome
  position : Position system.inbound system.observed system.client.receiveBuffer
    system.client.keptMessages system.session

theorem inbound_log {events : List Event} (hevents : events.filterMap Event.inbound = []) :
    (system.log events).inbound = system.inbound := by
  simp [inbound, log, hevents]

theorem observed_log {events : List Event} :
    (system.log events).observed = system.observed ++ events.filterMap Event.observation := by
  simp [observed, log]

theorem Outcome.inbound_eq_nil {outcome : SessionPc × List Event} (houtcome : Outcome outcome) :
    outcome.2.filterMap Event.inbound = [] := by
  cases houtcome <;> rfl

theorem position_sessionTop (hinv : system.Delivering) (hpc : system.session = .top) :
    Position system.sessionTop.inbound system.sessionTop.observed
      system.sessionTop.client.receiveBuffer system.sessionTop.client.keptMessages
      system.sessionTop.session := by
  have hposition := hinv.position
  rw [hpc] at hposition
  obtain ⟨-, htop⟩ | ⟨-, -, htop⟩ | ⟨slot, rest, -, -, htop⟩ := system.sessionTop_cases
  · rw [htop]
    exact hposition
  · rw [htop]
    exact hposition
  · rw [htop]
    exact hposition

theorem position_sessionSend {slot : UInt16} (hinv : system.Delivering)
    (hpc : system.session = .sending slot) :
    Position (system.sessionSend slot).inbound (system.sessionSend slot).observed
      system.client.receiveBuffer system.client.keptMessages (.requeueing slot) := by
  have hposition := hinv.position
  rw [hpc] at hposition
  have hinbound : (system.sessionSend slot).inbound = system.inbound := inbound_log rfl
  have hobserved : (system.sessionSend slot).observed = system.observed :=
    observed_log.trans (List.append_nil _)
  rw [hinbound, hobserved]
  exact hposition

theorem position_sessionReceive {buffer : Memory} {size : Int} {resp : Option Response}
    (hinv : system.Delivering) (hpc : system.session = .receiving)
    (hsome : 0 < size → resp.isSome)
    (hdecodes : 0 < size → resp = (deserializeResponse size.toNat).eval buffer)
    (hfresh : ∀ data, resp = some (.publish data) → data.qos = QoS2 →
      pending system.inbound data.packetId = none) :
    Position (system.sessionReceive buffer size resp).inbound
      (system.sessionReceive buffer size resp).observed
      (system.sessionReceive buffer size resp).client.receiveBuffer
      (system.sessionReceive buffer size resp).client.keptMessages
      (system.sessionReceive buffer size resp).session := by
  have hposition := hinv.position
  rw [hpc] at hposition
  by_cases hsize : 0 < size
  · obtain ⟨resp, rfl⟩ := Option.isSome_iff_exists.mp (hsome hsize)
    obtain ⟨hobserved, hkept⟩ := hposition
    rw [sessionReceive_of_packet hsize]
    refine ⟨system.inbound, ⟨?_, ?_⟩, hkept, ?_, ?_⟩
    · simp [inbound, Event.inbound]
    · rw [← hobserved]
      simp [observed, Event.observation]
    · exact behind_deserializeResponse (by omega) (hdecodes hsize).symm
    · rintro data rfl
      exact hfresh data rfl
  · rw [sessionReceive_of_nothing hsize]
    exact hposition

theorem position_sessionHandle {resp : Response} (hinv : system.Delivering)
    (hpc : system.session = .handling resp) :
    Position (system.sessionHandle resp).inbound (system.sessionHandle resp).observed
      (system.sessionHandle resp).client.receiveBuffer
      (system.sessionHandle resp).client.keptMessages (system.sessionHandle resp).session := by
  have hposition := hinv.position
  rw [hpc] at hposition
  obtain ⟨ackQueue, hclient⟩ := handleResponse_client system.client resp
  have hinbound : (system.sessionHandle resp).inbound = system.inbound :=
    inbound_log (handleResponse_outcome system.client resp).inbound_eq_nil
  have hobserved : (system.sessionHandle resp).observed = system.observed
      ++ (handleResponse system.client resp).2.2.filterMap Event.observation := observed_log
  have hbuffer : (system.sessionHandle resp).client.receiveBuffer = system.client.receiveBuffer := by
    simp [sessionHandle, log, hclient]
  rw [hinbound, hobserved, hbuffer]
  exact position_handleResponse hinv.sound.entries hinv.msgCallback hposition

theorem position_sessionReply {reply : Reply} (hinv : system.Delivering)
    (hpc : system.session = .replying reply) :
    Position (system.sessionReply reply true).inbound (system.sessionReply reply true).observed
      (system.sessionReply reply true).client.receiveBuffer
      (system.sessionReply reply true).client.keptMessages
      (system.sessionReply reply true).session := by
  have hposition := hinv.position
  rw [hpc] at hposition
  have hinbound : (system.sessionReply reply true).inbound = system.inbound := by
    apply inbound_log
    rw [List.filterMap_cons_none rfl]
    exact (afterReply_outcome _ reply true).inbound_eq_nil
  rw [hinbound, sessionReply, observed_log]
  exact position_afterReply hinv.msgCallback hposition

theorem position_sessionRegister {waiting : Waiting} (hinv : system.Delivering)
    (hpc : system.session = .registering waiting) :
    Position system.inbound system.observed system.client.receiveBuffer
      (system.sessionRegister waiting).client.keptMessages .top := by
  have hposition := hinv.position
  rw [hpc] at hposition
  obtain ⟨handled, packet, hcurrent, hreaction, hkept⟩ := hposition
  have hqueue : (system.sessionRegister waiting).client.keptMessages
      = system.client.keptMessages ++ waiting.kept.toList := by
    cases hwaiting : waiting.kept <;>
      simp [Client.keptMessages, sessionRegister, enqueueWaiting, hwaiting]
  have htop := hcurrent.position_top hkept system.client.receiveBuffer
  rw [hqueue]
  rwa [hreaction, List.append_nil] at htop

variable [DecidableEq Tid]

theorem position_api {label : Label Tid} (hinv : system.Delivering) (hlabel : ¬ label.isSession)
    (hstep : system.step label = some next) :
    Position next.inbound next.observed next.client.receiveBuffer next.client.keptMessages
      next.session := by
  obtain ⟨hsession, -, hbuffer, -, ⟨added, hentries, hadded⟩, events, hevents, hapi⟩ :=
    apiFrame_step hlabel hstep
  have hinbound : next.inbound = system.inbound := by
    have hnil : events.filterMap Event.inbound = [] :=
      List.filterMap_eq_nil_iff.mpr fun event hmem => (Event.observation_of_api (hapi event hmem)).1
    simp [inbound, hevents, hnil]
  have hobserved : next.observed = system.observed := by
    have hnil : events.filterMap Event.observation = [] :=
      List.filterMap_eq_nil_iff.mpr fun event hmem => (Event.observation_of_api (hapi event hmem)).2
    simp [observed, hevents, hnil]
  have hkept : next.client.keptMessages = system.client.keptMessages := by
    have hnil : added.filterMap Waiting.kept = [] := by
      refine List.filterMap_eq_nil_iff.mpr fun waiting hmem => ?_
      obtain ⟨-, request, serial, hwaiting⟩ := hadded waiting hmem
      exact kept_of_request hwaiting
    simp [Client.keptMessages, hentries, hnil]
  rw [hsession, hbuffer, hinbound, hobserved, hkept]
  exact hinv.position

theorem msgCallback_step {label : Label Tid} (hstep : system.step label = some next) :
    next.client.msgCallback = system.client.msgCallback := by
  by_cases hlabel : label.isSession
  · obtain ⟨_, _, _, _, hclient⟩ := (sessionFrame_step hlabel hstep).client
    rw [hclient]
  · exact (apiFrame_step hlabel hstep).msgCallback

theorem delivering_step {label : Label Tid} (hinv : system.Delivering)
    (hscope : system.deliveryScope label) (hstep : system.step label = some next) :
    next.Delivering := by
  simp only [deliveryScope, Bool.and_eq_true] at hscope
  obtain ⟨⟨⟨hanswered, hdecodes⟩, hacknowledges⟩, hunrepeated⟩ := hscope
  have hcallback : next.client.msgCallback.isSome := msgCallback_step hstep ▸ hinv.msgCallback
  refine ⟨sound_step hinv.sound hanswered hstep, hcallback, ?_⟩
  cases label with
  | sessionTop =>
      obtain ⟨hpc, -, rfl⟩ := step_sessionTop.mp hstep
      exact position_sessionTop hinv hpc
  | sessionSend sent =>
      obtain ⟨slot, hpc, rfl⟩ := step_sessionSend.mp hstep
      exact position_sessionSend hinv hpc
  | sessionRequeue =>
      obtain ⟨slot, hpc, -, rfl⟩ := step_sessionRequeue.mp hstep
      have hposition := hinv.position
      rw [hpc] at hposition
      exact hposition
  | sessionReceive buffer size resp =>
      obtain ⟨hpc, rfl⟩ := step_sessionReceive.mp hstep
      refine position_sessionReceive hinv hpc (of_decide_eq_true hanswered)
        (of_decide_eq_true hdecodes) ?_
      rintro data rfl
      exact of_decide_eq_true hunrepeated
  | sessionHandle =>
      obtain ⟨resp, hpc, -, rfl⟩ := step_sessionHandle.mp hstep
      exact position_sessionHandle hinv hpc
  | sessionReply sent =>
      obtain ⟨reply, hpc, rfl⟩ := step_sessionReply.mp hstep
      obtain rfl : sent = true := hacknowledges
      exact position_sessionReply hinv hpc
  | sessionRegister =>
      obtain ⟨waiting, hpc, -, rfl⟩ := step_sessionRegister.mp hstep
      exact position_sessionRegister hinv hpc
  | _ => exact position_api hinv (by simp [Label.isSession]) hstep

omit [DecidableEq Tid] in
theorem delivering_init (client : Client) (hcallback : client.msgCallback.isSome)
    (bufferCount : UInt16) (bufferSize : Nat) :
    (init client bufferCount bufferSize : System Tid).Delivering :=
  ⟨sound_init client bufferCount bufferSize, hcallback, rfl, listedBy_nil⟩

/-- **Inbound delivery.** What is seen of the session thread is what the packets should cause,
whatever the threads publish and ping meanwhile and under whatever packet ids. -/
theorem observed_eq_expected {uninitialised : Client} {callback msgCbContext : Nat}
    {bufferCount : UInt16} {bufferSize : Nat} {labels : List (Label Tid)}
    (hscope : Run.Along step (fun system label => system.deliveryScope label = true)
      (init (connectedClient uninitialised (some callback) msgCbContext) bufferCount bufferSize)
      labels)
    (hrun : Run.exec step
      (init (connectedClient uninitialised (some callback) msgCbContext) bufferCount bufferSize)
      labels = some system) :
    system.session ≠ .crashed ∧ AsExpected system.inbound system.observed system.session := by
  have hinv : system.Delivering := Run.invariant_along Delivering
    (fun _ _ _ hinv hscope hstep => delivering_step hinv hscope hstep)
    (delivering_init _ rfl bufferCount bufferSize) hscope hrun
  have hsession := hinv.sound.session
  refine ⟨?_, Position.asExpected hinv.position⟩
  intro hcrashed
  rw [hcrashed] at hsession
  exact hsession

/-- A message at QoS 2 comes in and is released while a publish with the same id is outstanding. -/
theorem delivered_with_coinciding_ids : ∃ (labels : List (Label Unit)) (system : System Unit),
    Run.exec step (init (connectedClient zeroClient (some 0) 0) 10 1024) labels = some system ∧
      system.events.filterMap Event.deliveredMessage = [⟨[97], [98], QoS2, false⟩] ∧
      system.inbound.length = 3 ∧ system.session ≠ .crashed ∧
      AsExpected system.inbound system.observed system.session := by
  let start : System Unit := init (connectedClient zeroClient (some 0) 0) 10 1024
  let topic : CString := ⟨[116], by decide⟩
  let receive (bytes : List UInt8) (resp : Response) : Label Unit :=
    .sessionReceive (Memory.write (fun _ => 0) bytes) bytes.length (some resp)
  let labels : List (Label Unit) := [.call () (.publish topic (some topic) QoS2 false (some 0) 0),
    .lockSlot (), .serialize (), .enqueueWaiting (), .enqueueSlot (),
    .sessionTop, .sessionSend true, .sessionRequeue,
    receive [0x34, 6, 0, 1, 97, 0, 1, 98] (.publish ⟨QoS2, false, ⟨4, 1⟩, 1, ⟨7, 1⟩⟩),
    .sessionHandle, .sessionReply true, .sessionRegister, .sessionTop,
    receive [0x50, 2, 0, 1] (.pubrec 1),
    .sessionHandle, .sessionReply true, .sessionRegister, .sessionTop,
    receive [0x62, 2, 0, 1] (.pubrel 1), .sessionHandle, .sessionReply true]
  obtain ⟨system, hrun⟩ : ∃ system, Run.exec step start labels = some system :=
    Option.isSome_iff_exists.mp (by decide)
  have hseen : (Run.exec step start labels).map (fun system =>
      (system.events.filterMap Event.deliveredMessage, system.inbound.length))
        = some ([⟨[97], [98], QoS2, false⟩], 3) := by
    decide
  rw [hrun] at hseen
  obtain ⟨hdelivered, hinbound⟩ := Prod.mk.inj (Option.some.inj hseen)
  have hscope :
      Run.Along step (fun system label => system.deliveryScope label = true) start labels := by
    decide
  exact ⟨labels, system, hrun, hdelivered, hinbound, observed_eq_expected hscope hrun⟩

end System

end Smqtt
