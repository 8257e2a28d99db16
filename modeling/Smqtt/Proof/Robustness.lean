import Smqtt.Proof.Decoder
import Smqtt.Proof.Records

/-!
# When the session thread crashes

Whatever is called and with whatever callbacks, a record in `ack_queue` has the union member that
its type reads, except that `smqtt_mt_unsubscribe` leaves a SUBACK record without an id to compare.
So an iteration crashes for one of three reasons, each of which can be read off the state before it:
the packet does not parse, the record it answers has no callback, or the first SUBACK record is not
the one that a SUBACK answers.
-/

namespace Smqtt

/-! ### Packets that parse -/

/-- The type is one of the fourteen, and not all four length bytes announce another one. -/
def Readable (buffer : Memory) (length : Nat) : Prop :=
  (1 ≤ (buffer 0).toNat >>> 4 ∧ (buffer 0).toNat >>> 4 ≤ 14) ∧
    ¬ (4 ≤ length ∧ ∀ index < 4, 128 ≤ (buffer (1 + index)).toNat)

instance (buffer : Memory) (length : Nat) : Decidable (Readable buffer length) :=
  inferInstanceAs (Decidable ((_ ∧ _) ∧ ¬ (_ ∧ _)))

theorem isSome_ofCode (code : Nat) : (MessageType.ofCode code).isSome ↔ 1 ≤ code ∧ code ≤ 14 := by
  by_cases hcode : code ≤ 14
  · interval_cases code <;> decide
  · have hnone : MessageType.ofCode code = none := by
      unfold MessageType.ofCode
      split <;> first | rfl | omega
    simp [hnone, hcode]

theorem isSome_deserializeResponse (memory : Memory) (length : Nat) :
    ((deserializeResponse length).eval memory).isSome ↔ Readable memory length := by
  have hsize := isSome_decodeSize memory length
  have hcode := isSome_ofCode ((memory 0).toNat >>> 4)
  simp only [Readable, ← hsize, ← hcode]
  simp only [deserializeResponse, Interaction.eval_bind, eval_readByte]
  cases ((decodeSize 1 length).eval memory).1 with
  | none => simp
  | some totalSize =>
      cases MessageType.ofCode ((memory 0).toNat >>> 4) with
      | none => simp
      | some type => simp [Interaction.eval_map]

/-! ### Records of any call -/

/-- A record whose union member fits its type, or the one that `smqtt_mt_unsubscribe` leaves. -/
inductive Waiting.Shaped : Waiting → Prop
  | pingresp (serial : Nat) (callback : Callback) (context : Nat) (data : WaitingData) :
      Shaped ⟨serial, .pingresp, callback, context, data⟩
  | puback (serial : Nat) (callback : Callback) (context : Nat) (packetId : UInt16) :
      Shaped ⟨serial, .puback, callback, context, .puback packetId⟩
  | pubrec (serial : Nat) (callback : Callback) (context : Nat) (packetId : UInt16) :
      Shaped ⟨serial, .pubrec, callback, context, .pubrec packetId⟩
  | pubcomp (serial : Nat) (callback : Callback) (context : Nat) (packetId : UInt16) :
      Shaped ⟨serial, .pubcomp, callback, context, .pubcomp packetId⟩
  | pubrel (serial : Nat) (callback : Callback) (context : Nat) (topic msg : List UInt8)
      (retain : Bool) (packetId : UInt16) :
      Shaped ⟨serial, .pubrel, callback, context, .pubrel topic msg retain packetId⟩
  | suback (serial : Nat) (callback : Callback) (context : Nat) (subCallback : Callback)
      (packetId : UInt16) :
      Shaped ⟨serial, .suback, callback, context, .suback subCallback packetId⟩
  | unsubscribed (serial : Nat) (callback : Callback) (context : Nat) (packetId : UInt16) :
      Shaped ⟨serial, .suback, callback, context, .unsuback packetId⟩

theorem Request.waiting_shaped {client : Client} {serial : Nat} {request : Request}
    {waiting : Waiting} (hwaiting : request.waiting client serial = some waiting) :
    waiting.Shaped := by
  cases request with
  | ping callback context =>
      obtain rfl := Option.some.inj hwaiting
      exact .pingresp serial callback context .unset
  | publish topic msg qos retain callback context =>
      simp only [Request.waiting] at hwaiting
      split_ifs at hwaiting
      · obtain rfl := Option.some.inj hwaiting
        exact .puback serial callback context _
      · obtain rfl := Option.some.inj hwaiting
        exact .pubrec serial callback context _
  | subscribe topics subCallback context =>
      obtain rfl := Option.some.inj hwaiting
      exact .suback serial none context subCallback _
  | unsubscribe topics callback context =>
      obtain rfl := Option.some.inj hwaiting
      exact .unsubscribed serial callback context _

/-- The reply to a PUBREL delivers what the record has kept. -/
def Reply.Shaped : Reply → Prop
  | pubcomp waiting _ => waiting.Shaped ∧ waiting.type = .pubrel
  | _ => True

theorem carried_shaped : Reply.Carried Waiting.Shaped Reply.Shaped where
  puback _ := trivial
  pubrec _ := trivial
  pubrel _ _ _ _ := trivial
  pubcomp _ _ hwaiting htake := ⟨hwaiting, type_of_take htake⟩
  kept _ _ _ _ := .pubrel _ _ _ _ _ _ _
  released _ _ _ := .pubcomp _ _ _ _

/-! ### Where a search ends -/

/-- The first record of a type, whatever its id. -/
def Client.first (client : Client) (type : MessageType) : Option Waiting :=
  client.ackQueue.toList.find? fun waiting => waiting.type = type

/-- The first record of a type with an id. -/
def Client.firstWithId (client : Client) (type : MessageType) (packetId : UInt16) :
    Option Waiting :=
  client.ackQueue.toList.find? fun waiting =>
    waiting.type = type ∧ waiting.data.plainId = some packetId

/-- The record that a packet answers, if there is one, has what is used of it. -/
def Response.provided (client : Client) : Response → Bool
  | pingresp => (client.first .pingresp).all (·.callback.isSome)
  | puback packetId => (client.firstWithId .puback packetId).all (·.callback.isSome)
  | pubcomp packetId => (client.firstWithId .pubcomp packetId).all (·.callback.isSome)
  | suback packetId _ => (client.first .suback).all (·.data.subackId = some packetId)
  | _ => true

/-- A search crashes if it ends at a record it may not take, or if what follows does. -/
theorem withWaiting_crashed_iff {client : Client} {type : MessageType} {packetId : UInt16}
    {found : Waiting → SessionPc × List Event} :
    (withWaiting client type packetId found).2.1 = .crashed ↔
      ∃ waiting, client.ackQueue.toList.find? (fun waiting => inspect type packetId waiting ≠ .skip)
          = some waiting ∧
        (inspect type packetId waiting = .take → (found waiting).1 = .crashed) := by
  have hlist := searchList_find (inspect type packetId) client.ackQueue.toList
  rw [← client.ackQueue.search_toList, Option.map_map] at hlist
  unfold withWaiting dequeueByTypeAndId
  cases hfind : client.ackQueue.toList.find? (fun waiting => inspect type packetId waiting ≠ .skip)
    with
  | none =>
      rw [hfind, Option.map_eq_some_iff] at hlist
      obtain ⟨⟨result, rest⟩, hsearch, rfl⟩ := hlist
      simp [hsearch]
  | some waiting =>
      rw [hfind] at hlist
      cases hverdict : inspect type packetId waiting with
      | skip => simpa [hverdict] using List.find?_some hfind
      | unknown =>
          simp only [hverdict, Option.map_eq_none_iff] at hlist
          simp [hlist, hverdict]
      | take =>
          simp only [hverdict, Option.map_eq_some_iff] at hlist
          obtain ⟨⟨result, rest⟩, hsearch, rfl⟩ := hlist
          simp [hsearch, hverdict]
      | stop =>
          simp only [hverdict, Option.map_eq_some_iff] at hlist
          obtain ⟨⟨result, rest⟩, hsearch, rfl⟩ := hlist
          simp [hsearch, hverdict]

theorem inspect_plain {type : MessageType} {packetId : UInt16} {waiting : Waiting}
    (htype : type = .puback ∨ type = .pubcomp) (hwaiting : waiting.Shaped) :
    inspect type packetId waiting
      = if waiting.type = type ∧ waiting.data.plainId = some packetId then .take else .skip := by
  obtain rfl | rfl := htype <;>
    cases hwaiting <;> simp [inspect, compareId, WaitingData.plainId]

/-- Only a search for a SUBACK record can end at one that it does not take. -/
theorem inspect_of_shaped {type : MessageType} (packetId : UInt16) {waiting : Waiting}
    (hwaiting : waiting.Shaped) (htype : type ≠ .suback) :
    inspect type packetId waiting = .take ∨ inspect type packetId waiting = .skip := by
  by_cases hsame : waiting.type = type
  · subst hsame
    cases hwaiting with
    | pingresp => exact .inl rfl
    | suback => exact absurd rfl htype
    | unsubscribed => exact absurd rfl htype
    | _ => exact compareId_decided _ _
  · exact .inr (by simp [inspect, hsame])

section Crash

variable {client : Client} {resp : Response}

/-- The three packets whose callback is called without a check. -/
theorem withWaiting_runCallback {type : MessageType} {packetId : UInt16} {accepts : Waiting → Bool}
    (hinspect : ∀ waiting ∈ client.ackQueue.toList,
      inspect type packetId waiting = if accepts waiting then .take else .skip) :
    (withWaiting client type packetId (runCallback resp)).2.1 = .crashed ↔
      (client.ackQueue.toList.find? accepts).all (·.callback.isSome) = false := by
  have hfind : client.ackQueue.toList.find? (fun waiting => inspect type packetId waiting ≠ .skip)
      = client.ackQueue.toList.find? accepts := by
    apply List.find?_congr
    intro waiting hmem
    rw [hinspect waiting hmem]
    cases accepts waiting <;> rfl
  rw [withWaiting_crashed_iff, hfind]
  cases hfirst : client.ackQueue.toList.find? accepts with
  | none => simp
  | some waiting =>
      have htake : inspect type packetId waiting = .take := by
        rw [hinspect waiting (List.mem_of_find?_eq_some hfirst), if_pos (List.find?_some hfirst)]
      cases hcallback : waiting.callback <;> simp [htake, runCallback, hcallback]

/-- A search that takes what it stops at crashes only in what follows. -/
theorem withWaiting_not_crashed {type : MessageType} {packetId : UInt16}
    {found : Waiting → SessionPc × List Event}
    (hentries : ∀ waiting ∈ client.ackQueue.toList, waiting.Shaped) (htype : type ≠ .suback)
    (hfound : ∀ waiting, (found waiting).1 ≠ .crashed) :
    (withWaiting client type packetId found).2.1 ≠ .crashed := by
  rw [ne_eq, withWaiting_crashed_iff]
  rintro ⟨waiting, hfind, htake⟩
  have hskip : inspect type packetId waiting ≠ .skip := by simpa using List.find?_some hfind
  obtain htaken | hskipped :=
    inspect_of_shaped packetId (hentries waiting (List.mem_of_find?_eq_some hfind)) htype
  · exact hfound waiting (htake htaken)
  · exact hskip hskipped

theorem suback_crashed_iff {packetId : UInt16} {results : List SubResult}
    (hentries : ∀ waiting ∈ client.ackQueue.toList, waiting.Shaped) :
    (withWaiting client .suback packetId (runSubCallback packetId results)).2.1 = .crashed ↔
      (client.first .suback).all (·.data.subackId = some packetId) = false := by
  have hfind : client.ackQueue.toList.find?
      (fun waiting => inspect .suback packetId waiting ≠ .skip) = client.first .suback := by
    apply List.find?_congr
    intro waiting hmem
    cases hentries waiting hmem with
    | suback serial callback context subCallback stored =>
        by_cases heq : stored = packetId <;>
          simp [inspect, compareId, WaitingData.subackId, heq]
    | _ => simp [inspect, compareId, WaitingData.subackId]
  rw [withWaiting_crashed_iff, hfind]
  cases hfirst : client.first .suback with
  | none => simp
  | some waiting =>
      have htype : waiting.type = .suback := by simpa using List.find?_some hfirst
      cases hentries waiting (List.mem_of_find?_eq_some hfirst) with
      | suback serial callback context subCallback stored =>
          by_cases heq : stored = packetId
          · cases subCallback <;>
              simp [inspect, compareId, WaitingData.subackId, heq, runSubCallback]
          · simp [inspect, compareId, WaitingData.subackId, heq]
      | unsubscribed => simp [inspect, compareId, WaitingData.subackId]
      | _ => simp at htype

/-- Handling a packet crashes exactly if the record it answers lacks what is used of it. -/
theorem handleResponse_crashed_iff
    (hentries : ∀ waiting ∈ client.ackQueue.toList, waiting.Shaped) :
    (handleResponse client resp).2.1 = .crashed ↔ resp.provided client = false := by
  cases resp with
  | pingresp =>
      refine withWaiting_runCallback fun waiting _ => ?_
      simp [inspect]
  | puback packetId =>
      refine withWaiting_runCallback fun waiting hmem => ?_
      simp [inspect_plain (.inl rfl) (hentries waiting hmem)]
  | pubcomp packetId =>
      refine withWaiting_runCallback fun waiting hmem => ?_
      simp [inspect_plain (.inr rfl) (hentries waiting hmem)]
  | suback packetId results => exact suback_crashed_iff hentries
  | pubrec packetId =>
      have hsafe : (handleResponse client (.pubrec packetId)).2.1 ≠ .crashed :=
        withWaiting_not_crashed hentries (by decide) (by simp)
      simp [hsafe, Response.provided]
  | pubrel packetId =>
      have hsafe : (handleResponse client (.pubrel packetId)).2.1 ≠ .crashed :=
        withWaiting_not_crashed hentries (by decide) (by simp)
      simp [hsafe, Response.provided]
  | unsuback packetId =>
      have hsafe : (handleResponse client (.unsuback packetId)).2.1 ≠ .crashed := by
        refine withWaiting_not_crashed hentries (by decide) ?_
        intro waiting
        cases hcallback : waiting.callback <;> simp [runUnsubCallback, hcallback]
      simp [hsafe, Response.provided]
  | publish data =>
      simp only [handleResponse, Response.provided]
      split_ifs <;> simp
  | _ => simp [handleResponse, Response.provided]

end Crash

/-- Nothing that is delivered with a reply is missing. -/
theorem afterReply_not_crashed {client : Client} {reply : Reply} (sent : Bool)
    (hreply : reply.Shaped) : (afterReply client reply sent).1 ≠ .crashed := by
  cases sent with
  | false => simp [afterReply]
  | true =>
      cases reply with
      | pubcomp waiting packetId =>
          obtain ⟨hwaiting, htype⟩ := hreply
          cases hwaiting <;> simp only [reduceCtorEq] at htype
          cases hcallback : client.msgCallback <;> simp [afterReply, deliverWaiting, hcallback]
      | _ => simp [afterReply]

/-! ### Runs -/

namespace System

variable {Tid : Type} {system next : System Tid}

/-- A packet that arrives can be parsed, and the record it answers has what is used of it. -/
def provided (system : System Tid) : Label Tid → Bool
  | .sessionReceive buffer size _ => decide (0 < size → Readable buffer size.toNat)
  | .sessionHandle =>
      match system.session with
      | .handling resp => resp.provided system.client
      | _ => true
  | _ => true

/-- Every record, in the queue or in hand, is that of some call. -/
structure Shaped (system : System Tid) : Prop where
  entries : ∀ waiting ∈ system.client.ackQueue.toList, waiting.Shaped
  session : system.session.Holding Waiting.Shaped Reply.Shaped

variable [DecidableEq Tid]

theorem shaped_step {label : Label Tid} (hshaped : system.Shaped)
    (hstep : system.step label = some next) : next.Shaped := by
  by_cases hlabel : label.isSession
  · obtain ⟨hentries, hsession⟩ :=
      holding_session carried_shaped hshaped.entries hshaped.session hlabel hstep
    exact ⟨hentries, hsession⟩
  · have hframe := apiFrame_step hlabel hstep
    obtain ⟨added, hentries, hadded⟩ := hframe.entries
    refine ⟨?_, hframe.session ▸ hshaped.session⟩
    intro waiting hmem
    rw [hentries, List.mem_append] at hmem
    obtain hmem | hmem := hmem
    · exact hshaped.entries waiting hmem
    · obtain ⟨-, request, serial, hwaiting⟩ := hadded waiting hmem
      exact Request.waiting_shaped hwaiting

omit [DecidableEq Tid] in
theorem shaped_init (client : Client) (bufferCount : UInt16) (bufferSize : Nat) :
    (init client bufferCount bufferSize : System Tid).Shaped :=
  ⟨by simp [init, start, startSessionThread], trivial⟩

/-- One step: the session thread does not crash in a step that is provided for, and in no other. -/
theorem not_crashed_step {label : Label Tid} (hshaped : system.Shaped) (hdecodes : label.decodes)
    (hstep : system.step label = some next) :
    next.session ≠ .crashed ↔ system.session ≠ .crashed ∧ system.provided label = true := by
  cases label with
  | sessionTop =>
      obtain ⟨hpc, -, rfl⟩ := step_sessionTop.mp hstep
      obtain ⟨-, htop⟩ | ⟨-, -, htop⟩ | ⟨slot, rest, -, -, htop⟩ := system.sessionTop_cases
      · simp [htop, hpc, provided]
      · simp [htop, hpc, provided]
      · simp [htop, hpc, provided]
  | sessionSend sent =>
      obtain ⟨slot, hpc, rfl⟩ := step_sessionSend.mp hstep
      simp [sessionSend, log, hpc, provided]
  | sessionRequeue =>
      obtain ⟨slot, hpc, -, rfl⟩ := step_sessionRequeue.mp hstep
      simp [sessionRequeue, hpc, provided]
  | sessionReceive buffer size resp =>
      obtain ⟨hpc, rfl⟩ := step_sessionReceive.mp hstep
      have hreadable := isSome_deserializeResponse buffer size.toNat
      by_cases hsize : 0 < size
      · rw [← of_decide_eq_true hdecodes hsize] at hreadable
        cases resp with
        | none => simp_all [sessionReceive_of_null hsize, provided]
        | some resp => simp_all [sessionReceive_of_packet hsize, provided]
      · simp [sessionReceive_of_nothing hsize, hpc, provided, hsize]
  | sessionHandle =>
      obtain ⟨resp, hpc, -, rfl⟩ := step_sessionHandle.mp hstep
      have hiff : (handleResponse system.client resp).2.1 = .crashed ↔
          resp.provided system.client = false := handleResponse_crashed_iff hshaped.entries
      simp [sessionHandle, log, hiff, hpc, provided]
  | sessionReply sent =>
      obtain ⟨reply, hpc, rfl⟩ := step_sessionReply.mp hstep
      have hreply : reply.Shaped := by
        have hsession := hshaped.session
        rwa [hpc] at hsession
      have hsafe : (system.sessionReply reply sent).session ≠ .crashed :=
        afterReply_not_crashed sent hreply
      simp [hsafe, hpc, provided]
  | sessionRegister =>
      obtain ⟨waiting, hpc, -, rfl⟩ := step_sessionRegister.mp hstep
      simp [sessionRegister, hpc, provided]
  | _ =>
      rw [(apiFrame_step (by simp [Label.isSession]) hstep).session]
      simp [provided]

/-- **Session thread robustness.** The session thread has not crashed exactly if every packet could
be parsed and every record that was answered had what is used of it. -/
theorem not_crashed_iff {uninitialised : Client} {msgCallback : Callback} {msgCbContext : Nat}
    {bufferCount : UInt16} {bufferSize : Nat} {labels : List (Label Tid)}
    (hdecodes : ∀ label ∈ labels, label.decodes)
    (hrun : Run.exec step
      (init (connectedClient uninitialised msgCallback msgCbContext) bufferCount bufferSize) labels
      = some system) :
    system.session ≠ .crashed ↔
      Run.Along step (fun system label => system.provided label = true)
        (init (connectedClient uninitialised msgCallback msgCbContext) bufferCount bufferSize)
        labels := by
  have hstart : (init (connectedClient uninitialised msgCallback msgCbContext) bufferCount
      bufferSize : System Tid).session ≠ .crashed := SessionPc.noConfusion
  have hiff : system.session ≠ .crashed ↔ _ ∧ _ := Run.good_iff_along
    (fun _ _ _ hshaped hstep => shaped_step hshaped hstep)
    (fun _ label hmem _ hshaped hstep => not_crashed_step hshaped (hdecodes label hmem) hstep)
    (shaped_init _ bufferCount bufferSize) hrun
  exact hiff.trans (and_iff_right hstart)

/-- A ping with a callback is answered. -/
theorem answered_ping_not_crashed : ∃ (labels : List (Label Unit)) (system : System Unit),
    Run.exec step (init (connectedClient zeroClient none 0) 10 1024) labels = some system ∧
      system.client.ackQueue.toList = [] ∧ system.session ≠ .crashed := by
  let start : System Unit := init (connectedClient zeroClient none 0) 10 1024
  let labels : List (Label Unit) := [.call () (.ping (some 0) 0), .lockSlot (), .serialize (),
    .enqueueWaiting (), .enqueueSlot (), .sessionTop, .sessionSend true, .sessionRequeue,
    .sessionReceive (Memory.write (fun _ => 0) [0xD0, 0]) 2 (some .pingresp), .sessionHandle]
  obtain ⟨system, hrun⟩ : ∃ system, Run.exec step start labels = some system :=
    Option.isSome_iff_exists.mp (by decide)
  have hentries : (Run.exec step start labels).map (fun system => system.client.ackQueue.toList)
      = some [] := by
    decide
  rw [hrun] at hentries
  have halong : Run.Along step (fun system label => system.provided label = true) start labels := by
    decide
  exact ⟨labels, system, hrun, Option.some.inj hentries,
    (not_crashed_iff (by decide) hrun).mpr halong⟩

/-- A ping without a callback is answered. -/
theorem null_callback_crashes : ∃ (labels : List (Label Unit)) (system : System Unit),
    (∀ label ∈ labels, label.decodes) ∧
      Run.exec step (init (connectedClient zeroClient none 0) 10 1024) labels = some system ∧
      system.session = .crashed := by
  refine ⟨[.call () (.ping none 0), .lockSlot (), .serialize (), .enqueueWaiting (),
    .enqueueSlot (), .sessionTop, .sessionSend true, .sessionRequeue,
    .sessionReceive (Memory.write (fun _ => 0) [0xD0, 0]) 2 (some .pingresp), .sessionHandle], _,
    ?_, rfl, rfl⟩
  decide

end System

end Smqtt
