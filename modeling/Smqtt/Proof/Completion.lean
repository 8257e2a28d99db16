import Smqtt.Lib.Desk
import Smqtt.Proof.Calls
import Smqtt.Proof.Records
import Smqtt.Proof.SendOrder

/-!
# Requests that are answered

One thread publishes and pings, and the broker answers what has been sent to it. Seen from far
enough this is a desk that matches answers with tickets: a ticket is a record in `ack_queue`, and
the PUBREC of a publish at QoS 2 renews its ticket for the PUBCOMP.
-/

namespace Smqtt

/-! ### Answers -/

/-- The first answer of the broker to a frame. -/
def Outgoing.answer : Outgoing → Option Response
  | pingreq => some .pingresp
  | publish _ packetId qos _ _ =>
      if qos = QoS1 then some (.puback packetId)
      else if qos = QoS2 then some (.pubrec packetId)
      else none
  | _ => none

/-- The answer that a record waits for. -/
def Waiting.answer (waiting : Waiting) : Option Response :=
  match waiting.type, waiting.data with
  | .pingresp, _ => some .pingresp
  | .puback, .puback packetId => some (.puback packetId)
  | .pubrec, .pubrec packetId => some (.pubrec packetId)
  | .pubcomp, .pubcomp packetId => some (.pubcomp packetId)
  | _, _ => none

/-- The answer after an answer. -/
def renewal : Response → Option Response
  | .pubrec packetId => some (.pubcomp packetId)
  | _ => none

theorem renewal_renewal (first answer : Response) (hrenewal : renewal first = some answer) :
    renewal answer = none := by
  cases first <;> simp only [renewal, Option.some.injEq, reduceCtorEq] at hrenewal
  rw [← hrenewal]
  rfl

def Response.isAnswer : Response → Bool
  | pingresp => true
  | puback _ => true
  | pubrec _ => true
  | pubcomp _ => true
  | _ => false

/-- What the broker owes after an event: a frame or a PUBREL that it gets is to be answered, and an
answer that is received has been given. -/
def settle (owed : List Response) : Event → List Response
  | .handed (some outgoing) _ => owed ++ outgoing.answer.toList
  | .replied (.pubrel _ packetId) true => owed ++ [.pubcomp packetId]
  | .received _ resp => owed.erase resp
  | _ => owed

def owed (events : List Event) : List Response := events.foldl settle []

def Waiting.ticket (waiting : Waiting) : Option (Nat × Response) :=
  waiting.answer.map (waiting.serial, ·)

def Event.answer : Event → Option Response
  | received _ resp => some resp
  | _ => none

/-- A match: the answer runs the callback, or has been followed by a PUBREL. -/
def Event.served : Event → Option (Nat × Response)
  | callback waiting resp => some (waiting.serial, resp)
  | replied (.pubrel waiting packetId) true => some (waiting.serial, .pubrec packetId)
  | _ => none

def SessionPc.turn : SessionPc → Desk.Turn Response
  | handling resp => .arrived resp
  | replying (.pubrel waiting packetId) =>
      .holding waiting.serial (.pubrec packetId) (.pubcomp packetId)
  | registering waiting =>
      match waiting.answer with
      | none => .idle
      | some answer => .returning waiting.serial answer
  | _ => .idle

/-- The answer to a frame that is not in `send_queue` yet. -/
def ApiPc.unsent : ApiPc → List Response
  | enqueueing _ _ outgoing => outgoing.answer.toList
  | _ => []

namespace System

/-- The answers to frames that have not been handed over. -/
def unsent (system : System Unit) : List Response :=
  system.pendingSlots.filterMap (fun slot => (system.serialized slot).bind Outgoing.answer)
    ++ (system.api ()).unsent

def desk (system : System Unit) : Desk.State Response where
  issued := system.records.filterMap Waiting.ticket
  waiting := system.client.ackQueue.toList.filterMap Waiting.ticket
  unsent := system.unsent
  owed := owed system.events
  turn := system.session.turn
  received := system.events.filterMap Event.answer
  served := system.events.filterMap Event.served

end System

theorem settle_of_api {event : Event} (hevent : ¬ event.isSession) (owed : List Response) :
    settle owed event = owed ∧ event.answer = none ∧ event.served = none := by
  cases event <;> first | exact ⟨rfl, rfl, rfl⟩ | simp [Event.isSession] at hevent

theorem owed_append (events more : List Event) :
    owed (events ++ more) = more.foldl settle (owed events) := List.foldl_append

theorem foldl_settle_of_api {events : List Event} (hevents : ∀ event ∈ events, ¬ event.isSession)
    (start : List Response) : events.foldl settle start = start := by
  induction events generalizing start with
  | nil => rfl
  | cons event events ih =>
      obtain ⟨hevent, hevents⟩ := List.forall_mem_cons.mp hevents
      rw [List.foldl_cons, (settle_of_api hevent start).1, ih hevents]

theorem mem_answer_isAnswer {outgoing : Outgoing} {resp : Response}
    (hanswer : outgoing.answer = some resp) : resp.isAnswer := by
  cases outgoing with
  | publish topic packetId qos retain msg =>
      simp only [Outgoing.answer] at hanswer
      split_ifs at hanswer <;> obtain rfl := Option.some.inj hanswer <;> rfl
  | pingreq =>
      obtain rfl := Option.some.inj hanswer
      rfl
  | _ => simp [Outgoing.answer] at hanswer

theorem settle_isAnswer {start : List Response} (hstart : ∀ resp ∈ start, resp.isAnswer)
    (event : Event) : ∀ resp ∈ settle start event, resp.isAnswer := by
  unfold settle
  split
  · intro resp hmem
    obtain hmem | hmem := List.mem_append.mp hmem
    · exact hstart resp hmem
    · exact mem_answer_isAnswer (Option.mem_toList.mp hmem)
  · intro resp hmem
    obtain hmem | hmem := List.mem_append.mp hmem
    · exact hstart resp hmem
    · rw [List.mem_singleton.mp hmem]
      rfl
  · intro resp hmem
    exact hstart resp (List.mem_of_mem_erase hmem)
  · exact hstart

/-- The broker owes nothing but answers. -/
theorem isAnswer_of_owed {events : List Event} {resp : Response} (hmem : resp ∈ owed events) :
    resp.isAnswer := by
  have hall : ∀ start : List Response, (∀ resp ∈ start, resp.isAnswer) →
      ∀ resp ∈ events.foldl settle start, resp.isAnswer := by
    clear hmem
    induction events with
    | nil => exact fun start hstart => hstart
    | cons event events ih => exact fun start hstart => ih _ (settle_isAnswer hstart event)
  exact hall [] (by simp) resp hmem

theorem key_of_isAnswer {resp : Response} (hresp : resp.isAnswer) :
    ∃ type packetId, resp.key = some (type, packetId) := by
  cases resp <;> simp [Response.isAnswer, Response.key] at hresp ⊢

/-- A search for an answer takes the records that wait for it. -/
theorem take_iff_answer {resp : Response} {type : MessageType} {packetId : UInt16}
    {waiting : Waiting} (hwaiting : waiting.WellFormed) (hresp : resp.isAnswer)
    (hkey : resp.key = some (type, packetId)) :
    inspect type packetId waiting = .take ↔ waiting.answer = some resp := by
  cases resp <;> simp only [Response.isAnswer, Bool.false_eq_true] at hresp <;>
    obtain ⟨rfl, rfl⟩ := Prod.mk.inj (Option.some.inj hkey) <;>
    cases hwaiting <;> simp [inspect, compareId, WaitingData.plainId, Waiting.answer]

/-! ### What the broker and the callers do -/

/-- A publish that the broker acknowledges. -/
def Request.acknowledged : Request → Bool
  | publish _ _ qos _ _ _ => qos = QoS1 ∨ qos = QoS2
  | _ => false

/-- A frame and what its call has recorded wait for the same answer. -/
def AnswerAgrees (outgoing : Outgoing) (waiting : Option Waiting) : Prop :=
  outgoing.answer = waiting.bind Waiting.answer

theorem answerAgrees_request {request : Request} (hanswered : request.answered) (client : Client)
    (serial : Nat) : AnswerAgrees (request.outgoing client) (request.waiting client serial) := by
  cases request with
  | ping callback context => rfl
  | publish topic msg qos retain callback context =>
      simp only [AnswerAgrees, Request.outgoing, Request.waiting, Outgoing.answer]
      split_ifs <;> rfl
  | _ => simp [Request.answered] at hanswered

/-- The session thread handles nothing but answers. -/
def SessionPc.Outbound : SessionPc → Prop
  | handling resp => resp.isAnswer
  | replying (.pubrel _ _) => True
  | replying _ => False
  | registering waiting => ∃ packetId, waiting.answer = some (.pubcomp packetId)
  | _ => True

namespace System

def publishCalls (system : System Unit) : Nat :=
  system.requests.countP fun call => call.2.acknowledged

/-- Publishes and pings with a callback, at most 65535 publishes that are acknowledged, a broker that
gives only answers that it owes, successful sends. -/
def completionScope (system : System Unit) : Label Unit → Bool
  | .call _ request =>
      request.answered && (!request.acknowledged || decide (system.publishCalls < 65535))
  | .sessionReceive _ size resp =>
      decide (0 < size → ∃ answer ∈ owed system.events, resp = some answer)
  | .sessionReply sent => sent
  | _ => true

variable {system next : System Unit}

theorem answered_of_completionScope {label : Label Unit} (hscope : system.completionScope label) :
    label.answered := by
  cases label with
  | call tid request => exact (Bool.and_eq_true_iff.mp hscope).1
  | sessionReceive buffer size resp =>
      refine decide_eq_true fun hsize => ?_
      obtain ⟨answer, -, rfl⟩ := of_decide_eq_true hscope hsize
      rfl
  | _ => rfl

/-- What holds of the system apart from its tickets. -/
structure Conducted (bufferCount : UInt16) (system : System Unit) : Prop where
  sound : system.Sound
  slots : system.pool.slots = ↑(slotIndices bufferCount)
  order : system.InOrder
  tracked : system.Tracked AnswerAgrees
  session : system.session.Outbound

variable {bufferCount : UInt16}

theorem Conducted.nodup (hinv : Conducted bufferCount system) : system.pool.slots.Nodup :=
  nodup_of_slots hinv.slots

/-! ### Steps of the desk: the calling thread -/

theorem desk_of_api (hframe : ApiFrame system next) :
    next.desk = { system.desk with
      issued := next.records.filterMap Waiting.ticket
      waiting := next.client.ackQueue.toList.filterMap Waiting.ticket
      unsent := next.unsent } := by
  obtain ⟨events, hevents, hapi⟩ := hframe.events
  have hanswers : events.filterMap Event.answer = [] := List.filterMap_eq_nil_iff.mpr
    fun event hmem => (settle_of_api (hapi event hmem) []).2.1
  have hserved : events.filterMap Event.served = [] := List.filterMap_eq_nil_iff.mpr
    fun event hmem => (settle_of_api (hapi event hmem) []).2.2
  simp [desk, hframe.session, hevents, owed_append, foldl_settle_of_api hapi, hanswers, hserved]

theorem desk_stay_of_api (hframe : ApiFrame system next) (hrecords : next.records = system.records)
    (hentries : next.client.ackQueue.toList = system.client.ackQueue.toList)
    (hunsent : next.unsent = system.unsent) : Desk.Step renewal system.desk next.desk := by
  have hdesk : next.desk = system.desk := by
    rw [desk_of_api hframe, hrecords, hentries, hunsent]
    rfl
  rw [hdesk]
  exact .stay _

theorem unsent_of_quiet (hquiet : Quiet system next)
    (hpc : (next.api ()).unsent = (system.api ()).unsent) : next.unsent = system.unsent := by
  rw [unsent, hquiet.pending, hquiet.serialized, hpc, unsent]

theorem desk_call {request : Request} (hpc : system.api () = .idle)
    (hframe : ApiFrame system (system.call () request)) :
    Desk.Step renewal system.desk (system.call () request).desk := by
  refine desk_stay_of_api hframe ?_ ?_ (unsent_of_quiet (quiet_call system () request) ?_)
  · cases hrefused : request.refused system.client with
    | some status => simp [call_of_refused hrefused, records, Event.record]
    | none => simp [call_of_accepted hrefused, records, setApi, Event.record]
  · cases hrefused : request.refused system.client with
    | some status => rw [call_of_refused hrefused]
    | none =>
        rw [call_of_accepted hrefused]
        rfl
  · cases hrefused : request.refused system.client with
    | some status => rw [call_of_refused hrefused]
    | none =>
        rw [call_of_accepted hrefused, hpc]
        rfl

theorem desk_trySlot {serial : Nat} {request : Request}
    (hpc : (system.api ()).unsent = []) :
    Desk.Step renewal system.desk (system.trySlot () serial request).desk := by
  cases hfree : system.client.freeQueue.toList with
  | nil =>
      refine desk_stay_of_api apiFrame_trySlot ?_ ?_
        (unsent_of_quiet (quiet_trySlot system () serial request) ?_)
      all_goals rw [trySlot_of_nil hfree]
      · rfl
      · rfl
      · rw [hpc]
        rfl
  | cons slot rest =>
      refine desk_stay_of_api apiFrame_trySlot ?_ ?_
        (unsent_of_quiet (quiet_trySlot system () serial request) ?_)
      all_goals rw [trySlot_of_cons hfree]
      · rfl
      · rfl
      · rw [hpc]
        rfl

theorem desk_serialize {serial : Nat} {request : Request} {slot : UInt16}
    (hnodup : system.pool.slots.Nodup) (hpc : system.api () = .serializing serial request slot)
    (hframe : ApiFrame system (system.serialize () serial request slot)) :
    Desk.Step renewal system.desk (system.serialize () serial request slot).desk := by
  have hheld : system.pool.held () = some slot := by simp [pool, hpc, ApiPc.slot]
  refine desk_stay_of_api hframe rfl ?_ ?_
  · cases request <;> rfl
  · have hpending : (system.serialize () serial request slot).pendingSlots.filterMap
        (fun other => ((system.serialize () serial request slot).serialized other).bind
          Outgoing.answer)
        = system.pendingSlots.filterMap
          fun other => (system.serialized other).bind Outgoing.answer := by
      rw [pendingSlots_serialize]
      refine List.filterMap_congr fun other hmem => ?_
      have hserialized : (system.serialize () serial request slot).serialized other
          = system.serialized other :=
        Function.update_of_ne (ne_of_mem_pendingSlots hnodup hheld hmem) _ _
      rw [hserialized]
    rw [unsent, hpending, unsent, hpc]
    rfl

theorem ticket_register {serial : Nat} {request : Request} {client : Client} {outgoing : Outgoing}
    (hagree : AnswerAgrees outgoing (request.waiting client serial)) :
    (request.waiting client serial).toList.filterMap Waiting.ticket
      = (outgoing.answer.map (serial, ·)).toList := by
  rw [hagree]
  cases hwaiting : request.waiting client serial with
  | none => rfl
  | some waiting =>
      have hserial := Request.serial_of_waiting hwaiting
      cases hanswer : waiting.answer <;> simp [Waiting.ticket, hanswer, hserial]

theorem desk_register {serial : Nat} {request : Request} {slot : UInt16} {outgoing : Outgoing}
    (htracked : system.Tracked AnswerAgrees)
    (hpc : system.api () = .registering serial request slot outgoing) :
    Desk.Step renewal system.desk (system.register () serial request slot outgoing).desk := by
  obtain ⟨-, hunseen, hagree⟩ : system.CallTracked AnswerAgrees
      (.registering serial request slot outgoing) := hpc ▸ htracked.pc
  have hquiet := quiet_register hpc
  have hunsent : (system.register () serial request slot outgoing).unsent
      = system.unsent ++ outgoing.answer.toList := by
    rw [unsent, hquiet.pending, hquiet.serialized, unsent, hpc]
    simp [register_eq, setApi, ApiPc.unsent]
  have hdesk : (system.register () serial request slot outgoing).desk
      = { system.desk with
          issued := system.desk.issued ++ (outgoing.answer.map (serial, ·)).toList
          waiting := system.desk.waiting ++ (outgoing.answer.map (serial, ·)).toList
          unsent := system.desk.unsent ++ outgoing.answer.toList } := by
    have hentries : (system.register () serial request slot outgoing).client.ackQueue.toList
        = _ := toList_register system.client serial request
    rw [desk_of_api apiFrame_register, records_register, hentries, hunsent,
      List.filterMap_append, List.filterMap_append, ticket_register hagree]
    rfl
  rw [hdesk]
  cases outgoing.answer with
  | none => simpa using Desk.Step.stay system.desk
  | some answer =>
      refine .issue ?_
      intro hmem
      obtain ⟨⟨other, otherAnswer⟩, hticket, rfl⟩ := List.mem_map.mp hmem
      obtain ⟨waiting, hrecord, hticket⟩ := List.mem_filterMap.mp hticket
      obtain ⟨_, -, heq⟩ := Option.map_eq_some_iff.mp hticket
      exact hunseen.record waiting hrecord (congrArg Prod.fst heq)

theorem desk_enqueueSlot {serial : Nat} {slot : UInt16} {outgoing : Outgoing}
    (horder : system.InOrder) (hpc : system.api () = .enqueueing serial slot outgoing)
    (hframe : ApiFrame system (system.enqueueSlot () serial slot outgoing)) :
    Desk.Step renewal system.desk (system.enqueueSlot () serial slot outgoing).desk := by
  have hwritten := horder.written () slot outgoing (by simp [hpc, ApiPc.frame])
  refine desk_stay_of_api hframe ?_ rfl ?_
  · simp [enqueueSlot_eq, records, setApi, Event.record]
  · have hpending : (system.enqueueSlot () serial slot outgoing).pendingSlots
        = system.pendingSlots ++ [slot] := by
      simp [pendingSlots, enqueueSlot_eq, setApi, enqueueSlotForSend]
    rw [unsent, hpending, unsent, hpc]
    cases hanswer : outgoing.answer <;>
      simp [enqueueSlot_eq, setApi, ApiPc.unsent, hwritten, hanswer]

/-! ### Steps of the desk: the session thread -/

/-- The records of the calls are not touched by the session thread. -/
theorem records_of_session (hframe : SessionFrame system next) : next.records = system.records := by
  obtain ⟨events, hevents, hsession⟩ := hframe.events
  have hnil : events.filterMap Event.record = [] := List.filterMap_eq_nil_iff.mpr
    fun event hmem => (Event.record_of_isSession (hsession event hmem)).1
  simp [records, hevents, hnil]

theorem desk_stay_of_session (hframe : SessionFrame system next) (hquiet : Quiet system next)
    (hevents : next.events = system.events)
    (hentries : next.client.ackQueue.toList = system.client.ackQueue.toList)
    (hturn : next.session.turn = system.session.turn) :
    Desk.Step renewal system.desk next.desk := by
  have hdesk : next.desk = system.desk := by
    rw [desk, records_of_session hframe, hentries, hevents, hturn,
      unsent_of_quiet hquiet (by rw [hframe.api])]
    rfl
  rw [hdesk]
  exact .stay _

theorem desk_sessionTop (hpc : system.session = .top)
    (hframe : SessionFrame system system.sessionTop) :
    Desk.Step renewal system.desk system.sessionTop.desk := by
  obtain ⟨hevents, hentries, hturn⟩ : system.sessionTop.events = system.events ∧
      system.sessionTop.client.ackQueue = system.client.ackQueue ∧
      system.sessionTop.session.turn = .idle := by
    obtain ⟨-, htop⟩ | ⟨-, -, htop⟩ | ⟨slot, rest, -, -, htop⟩ := system.sessionTop_cases
    · rw [htop]
      exact ⟨rfl, rfl, rfl⟩
    · rw [htop]
      exact ⟨rfl, rfl, rfl⟩
    · rw [htop]
      exact ⟨rfl, rfl, rfl⟩
  exact desk_stay_of_session hframe (quiet_sessionTop hpc) hevents (by rw [hentries])
    (by rw [hturn, hpc]; rfl)

theorem settle_handed (owed : List Response) (outgoing : Option Outgoing) (bytes : List UInt8) :
    settle owed (.handed outgoing bytes) = owed ++ (outgoing.bind Outgoing.answer).toList := by
  cases outgoing <;> simp [settle]

theorem desk_sessionSend {slot : UInt16} (hpc : system.session = .sending slot) :
    Desk.Step renewal system.desk (system.sessionSend slot).desk := by
  have hpending : system.pendingSlots = slot :: (system.sessionSend slot).pendingSlots := by
    simp [pendingSlots, sessionSend, log, hpc, SessionPc.sendingSlot]
  have hunsent : system.desk.unsent = ((system.serialized slot).bind Outgoing.answer).toList
      ++ (system.sessionSend slot).unsent := by
    change system.unsent = _
    rw [unsent, hpending]
    cases hanswer : (system.serialized slot).bind Outgoing.answer with
    | none =>
        simp only [List.filterMap_cons, hanswer]
        rfl
    | some answer =>
        simp only [List.filterMap_cons, hanswer]
        rfl
  have hdesk : (system.sessionSend slot).desk
      = { system.desk with
          unsent := (system.sessionSend slot).unsent
          owed := system.desk.owed ++ ((system.serialized slot).bind Outgoing.answer).toList } := by
    simp [desk, sessionSend, log, records, owed_append, settle_handed, hpc, SessionPc.turn,
      Event.record, Event.answer, Event.served]
  rw [hdesk]
  cases hanswer : (system.serialized slot).bind Outgoing.answer with
  | none =>
      rw [hanswer, Option.toList_none, List.nil_append] at hunsent
      rw [Option.toList_none, List.append_nil, ← hunsent]
      exact .stay _
  | some answer =>
      rw [hanswer] at hunsent
      exact .send hunsent

theorem desk_sessionReceive {buffer : Memory} {size : Int} {resp : Option Response}
    (hpc : system.session = .receiving)
    (hresp : 0 < size → ∃ answer ∈ owed system.events, resp = some answer)
    (hframe : SessionFrame system (system.sessionReceive buffer size resp)) :
    Desk.Step renewal system.desk (system.sessionReceive buffer size resp).desk := by
  have hquiet : Quiet system (system.sessionReceive buffer size resp) := quiet_sessionReceive hpc
  by_cases hsize : 0 < size
  · obtain ⟨answer, howed, rfl⟩ := hresp hsize
    have hdesk : (system.sessionReceive buffer size (some answer)).desk
        = { system.desk with
            owed := system.desk.owed.erase answer
            turn := .arrived answer
            received := system.desk.received ++ [answer] } := by
      rw [desk, records_of_session hframe, unsent_of_quiet hquiet (by rw [hframe.api]),
        sessionReceive_of_packet hsize]
      simp [desk, owed_append, settle, SessionPc.turn, Event.answer, Event.served]
    rw [hdesk]
    exact .receive (by simp [desk, hpc, SessionPc.turn]) howed
  · refine desk_stay_of_session hframe hquiet ?_ ?_ ?_
    all_goals rw [sessionReceive_of_nothing hsize]
    rw [hpc]
    rfl

/-- The ticket that an answer is matched with, among those that the queue holds. -/
theorem waiting_of_split {resp : Response} {type : MessageType} {packetId : UInt16}
    {left right : List Waiting} {waiting : Waiting}
    (hentries : ∀ other ∈ left ++ waiting :: right, other.WellFormed) (hresp : resp.isAnswer)
    (hkey : resp.key = some (type, packetId))
    (hleft : ∀ other ∈ left, inspect type packetId other = .skip)
    (htake : inspect type packetId waiting = .take) :
    (left ++ waiting :: right).filterMap Waiting.ticket
        = left.filterMap Waiting.ticket ++ (waiting.serial, resp)
          :: right.filterMap Waiting.ticket ∧
      ∀ ticket ∈ left.filterMap Waiting.ticket, ticket.2 ≠ resp := by
  have hanswer := (take_iff_answer (hentries waiting (by simp)) hresp hkey).mp htake
  refine ⟨?_, ?_⟩
  · rw [List.filterMap_append, List.filterMap_cons_some (by rw [Waiting.ticket, hanswer]; rfl)]
  · rintro ticket hmem rfl
    obtain ⟨other, hother, hticket⟩ := List.mem_filterMap.mp hmem
    obtain ⟨answer, hawaits, rfl⟩ := Option.map_eq_some_iff.mp hticket
    have htake := (take_iff_answer (hentries other (by simp [hother])) hresp hkey).mpr hawaits
    rw [hleft other hother] at htake
    cases htake

/-- What handling a packet makes of the desk, when it leaves the frames alone. -/
theorem desk_sessionHandle_eq {resp : Response} {ackQueue : LinkedQueue true Waiting}
    {session : SessionPc} {events : List Event} (hpc : system.session = .handling resp)
    (hhandle : handleResponse system.client resp
      = ({ system.client with ackQueue }, session, events))
    (hevents : events.foldl settle (owed system.events) = owed system.events)
    (hanswers : events.filterMap Event.answer = [])
    (hframe : SessionFrame system (system.sessionHandle resp)) :
    (system.sessionHandle resp).desk
      = { system.desk with
          waiting := ackQueue.toList.filterMap Waiting.ticket
          turn := session.turn
          served := system.desk.served ++ events.filterMap Event.served } := by
  have hquiet : Quiet system (system.sessionHandle resp) := quiet_sessionHandle hpc
  rw [desk, records_of_session hframe, unsent_of_quiet hquiet (by rw [hframe.api])]
  simp [desk, sessionHandle, log, hhandle, owed_append, hevents, hanswers]

theorem desk_sessionHandle {resp : Response} (hsound : system.Sound) (hresp : resp.isAnswer)
    (hpc : system.session = .handling resp)
    (hframe : SessionFrame system (system.sessionHandle resp)) :
    Desk.Step renewal system.desk (system.sessionHandle resp).desk := by
  have hturn : system.desk.turn = .arrived resp := by simp [desk, hpc, SessionPc.turn]
  obtain ⟨ackQueue, hqueue, -, hskip, hhandle⟩ |
    ⟨type, packetId, ackQueue, left, waiting, right, hkey, hsplit, hqueue, hleft, htake, hhandle⟩ |
    ⟨data, rfl⟩ := handleResponse_cases resp hsound.entries
  · rw [desk_sessionHandle_eq hpc hhandle rfl rfl hframe, hqueue, List.filterMap_nil,
      List.append_nil]
    obtain ⟨type, packetId, hkey⟩ := key_of_isAnswer hresp
    refine .miss hturn ?_
    rintro ticket hmem rfl
    obtain ⟨waiting, hwaiting, hticket⟩ := List.mem_filterMap.mp hmem
    obtain ⟨answer, hawaits, rfl⟩ := Option.map_eq_some_iff.mp hticket
    have htake := (take_iff_answer (hsound.entries waiting hwaiting) hresp hkey).mpr hawaits
    rw [hskip type packetId hkey waiting hwaiting] at htake
    cases htake
  · have hentries := hsound.entries
    rw [hsplit] at hentries
    obtain ⟨hwaiting, hfirst⟩ := waiting_of_split hentries hresp hkey hleft htake
    have hdesk : system.desk.waiting = _ := (congrArg _ hsplit).trans hwaiting
    obtain ⟨hkind, hfound⟩ | ⟨rfl, hfound⟩ | ⟨rfl, hfound⟩ :=
      onFound_cases (hentries waiting (by simp)) hkey htake
    · rw [hfound] at hhandle
      rw [desk_sessionHandle_eq hpc hhandle rfl rfl hframe, hqueue, List.filterMap_append]
      refine .finish hturn hdesk hfirst ?_
      obtain rfl | rfl | rfl := hkind <;> rfl
    · rw [hfound] at hhandle
      rw [desk_sessionHandle_eq hpc hhandle rfl rfl hframe, hqueue, List.filterMap_append,
        List.filterMap_nil, List.append_nil]
      exact .hold hturn hdesk hfirst rfl
    · simp [Response.isAnswer] at hresp
  · simp [Response.isAnswer] at hresp

theorem desk_sessionReply {waiting : Waiting} {packetId : UInt16}
    (hpc : system.session = .replying (.pubrel waiting packetId)) :
    Desk.Step renewal system.desk (system.sessionReply (.pubrel waiting packetId) true).desk := by
  have hturn : system.desk.turn
      = .holding waiting.serial (.pubrec packetId) (.pubcomp packetId) := by
    simp [desk, hpc, SessionPc.turn]
  have hquiet : Quiet system (system.sessionReply (.pubrel waiting packetId) true) :=
    quiet_sessionReply hpc
  have hdesk : (system.sessionReply (.pubrel waiting packetId) true).desk
      = { system.desk with
          owed := system.desk.owed ++ [.pubcomp packetId]
          turn := .returning waiting.serial (.pubcomp packetId)
          served := system.desk.served ++ [(waiting.serial, .pubrec packetId)] } := by
    rw [desk, unsent_of_quiet hquiet rfl]
    simp [desk, sessionReply, log, records, afterReply, owed_append, settle, SessionPc.turn,
      Waiting.answer, Event.record, Event.answer, Event.served]
  rw [hdesk]
  exact .release hturn

theorem desk_sessionRegister {waiting : Waiting} {answer : Response}
    (hpc : system.session = .registering waiting) (hanswer : waiting.answer = some answer) :
    Desk.Step renewal system.desk (system.sessionRegister waiting).desk := by
  have hturn : system.desk.turn = .returning waiting.serial answer := by
    simp [desk, hpc, SessionPc.turn, hanswer]
  have hpending : (system.sessionRegister waiting).pendingSlots = system.pendingSlots := by
    simp [pendingSlots, sessionRegister, enqueueWaiting, hpc, SessionPc.sendingSlot]
  have hdesk : (system.sessionRegister waiting).desk
      = { system.desk with
          waiting := system.desk.waiting ++ [(waiting.serial, answer)]
          turn := .idle } := by
    rw [desk, unsent, hpending]
    simp [desk, unsent, sessionRegister, enqueueWaiting, records, SessionPc.turn, Waiting.ticket,
      hanswer]
  rw [hdesk]
  exact .return hturn

/-- **Refinement.** Every step of the system is a step of the desk. -/
theorem desk_step {label : Label Unit} (hinv : Conducted bufferCount system)
    (hscope : system.completionScope label) (hstep : system.step label = some next) :
    Desk.Step renewal system.desk next.desk := by
  have hsession := hinv.session
  cases label with
  | call tid request =>
      have hframe := apiFrame_step (by simp [Label.isSession]) hstep
      obtain ⟨hpc, rfl⟩ := step_call.mp hstep
      exact desk_call hpc hframe
  | lockSlot tid =>
      obtain ⟨serial, request, hpc, -, rfl⟩ := step_lockSlot.mp hstep
      exact desk_trySlot (hpc ▸ rfl)
  | spin tid =>
      obtain ⟨serial, request, hpc, rfl⟩ := step_spin.mp hstep
      exact desk_trySlot (hpc ▸ rfl)
  | serialize tid =>
      have hframe := apiFrame_step (by simp [Label.isSession]) hstep
      obtain ⟨serial, request, slot, hpc, rfl⟩ := step_serialize.mp hstep
      exact desk_serialize hinv.nodup hpc hframe
  | enqueueWaiting tid =>
      obtain ⟨serial, request, slot, outgoing, hpc, -, rfl⟩ := step_enqueueWaiting.mp hstep
      exact desk_register hinv.tracked hpc
  | enqueueSlot tid =>
      have hframe := apiFrame_step (by simp [Label.isSession]) hstep
      obtain ⟨serial, slot, outgoing, hpc, -, rfl⟩ := step_enqueueSlot.mp hstep
      exact desk_enqueueSlot hinv.order hpc hframe
  | signalDisconnect =>
      obtain ⟨-, rfl⟩ := step_signalDisconnect.mp hstep
      exact .stay _
  | sessionTop =>
      have hframe := sessionFrame_step rfl hstep
      obtain ⟨hpc, -, rfl⟩ := step_sessionTop.mp hstep
      exact desk_sessionTop hpc hframe
  | sessionSend sent =>
      obtain ⟨slot, hpc, rfl⟩ := step_sessionSend.mp hstep
      exact desk_sessionSend hpc
  | sessionRequeue =>
      have hframe := sessionFrame_step rfl hstep
      obtain ⟨slot, hpc, -, rfl⟩ := step_sessionRequeue.mp hstep
      refine desk_stay_of_session hframe ?_ rfl rfl (by rw [hpc]; rfl)
      refine ⟨rfl, rfl, ?_, rfl, rfl, fun _ => .inl rfl⟩
      simp [pendingSlots, sessionRequeue, hpc, SessionPc.sendingSlot]
  | sessionReceive buffer size resp =>
      have hframe := sessionFrame_step rfl hstep
      obtain ⟨hpc, rfl⟩ := step_sessionReceive.mp hstep
      exact desk_sessionReceive hpc (of_decide_eq_true hscope) hframe
  | sessionHandle =>
      have hframe := sessionFrame_step rfl hstep
      obtain ⟨resp, hpc, -, rfl⟩ := step_sessionHandle.mp hstep
      rw [hpc] at hsession
      exact desk_sessionHandle hinv.sound hsession hpc hframe
  | sessionReply sent =>
      obtain ⟨reply, hpc, rfl⟩ := step_sessionReply.mp hstep
      obtain rfl : sent = true := hscope
      rw [hpc] at hsession
      cases reply with
      | pubrel waiting packetId => exact desk_sessionReply hpc
      | _ => exact hsession.elim
  | sessionRegister =>
      obtain ⟨waiting, hpc, -, rfl⟩ := step_sessionRegister.mp hstep
      rw [hpc] at hsession
      obtain ⟨packetId, hanswer⟩ := hsession
      exact desk_sessionRegister hpc hanswer

end System

end Smqtt
