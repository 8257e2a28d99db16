import Smqtt.Proof.Steps

/-!
# Records and the searches for them

As long as only `smqtt_mt_publish` and `smqtt_mt_ping` are called, and with a callback, every record
in `ack_queue` has the union member that its type reads. A search then comes to the first record of
its type and id or to the end of the queue, and the session thread does not crash.
-/

namespace Smqtt

/-- A record whose type, callback and union member fit together. -/
inductive Waiting.WellFormed : Waiting → Prop
  | pingresp (serial callback context : Nat) (data : WaitingData) :
      WellFormed ⟨serial, .pingresp, some callback, context, data⟩
  | puback (serial callback context : Nat) (packetId : UInt16) :
      WellFormed ⟨serial, .puback, some callback, context, .puback packetId⟩
  | pubrec (serial callback context : Nat) (packetId : UInt16) :
      WellFormed ⟨serial, .pubrec, some callback, context, .pubrec packetId⟩
  | pubcomp (serial callback context : Nat) (packetId : UInt16) :
      WellFormed ⟨serial, .pubcomp, some callback, context, .pubcomp packetId⟩
  | pubrel (serial : Nat) (callback : Callback) (context : Nat) (topic msg : List UInt8)
      (retain : Bool) (packetId : UInt16) :
      WellFormed ⟨serial, .pubrel, callback, context, .pubrel topic msg retain packetId⟩

/-- A publish or a ping with a callback. -/
def Request.answered : Request → Bool
  | ping callback _ => callback.isSome
  | publish _ _ _ _ callback _ => callback.isSome
  | _ => false

theorem Request.waiting_wellFormed {client : Client} {serial : Nat} {request : Request}
    {waiting : Waiting} (hanswered : request.answered)
    (hwaiting : request.waiting client serial = some waiting) : waiting.WellFormed := by
  cases request with
  | ping callback context =>
      obtain ⟨callback, rfl⟩ := Option.isSome_iff_exists.mp hanswered
      obtain rfl := Option.some.inj hwaiting
      exact .pingresp serial callback context .unset
  | publish topic msg qos retain callback context =>
      obtain ⟨callback, rfl⟩ := Option.isSome_iff_exists.mp hanswered
      simp only [Request.waiting] at hwaiting
      split_ifs at hwaiting
      · obtain rfl := Option.some.inj hwaiting
        exact .puback serial callback context _
      · obtain rfl := Option.some.inj hwaiting
        exact .pubrec serial callback context _
  | _ => simp [Request.answered] at hanswered

theorem compareId_decided (stored packetId : UInt16) :
    compareId (some stored) packetId .skip = .take ∨
      compareId (some stored) packetId .skip = .skip := by
  simp only [compareId]
  split <;> simp

theorem inspect_decided {waiting : Waiting} (hwaiting : waiting.WellFormed) (type : MessageType)
    (packetId : UInt16) :
    inspect type packetId waiting = .take ∨ inspect type packetId waiting = .skip := by
  by_cases htype : waiting.type = type
  · subst htype
    cases hwaiting with
    | pingresp => exact .inl rfl
    | _ => exact compareId_decided _ _
  · exact .inr (by simp [inspect, htype])

theorem type_of_take {type : MessageType} {packetId : UInt16} {waiting : Waiting}
    (htake : inspect type packetId waiting = .take) : waiting.type = type := by
  by_contra htype
  simp [inspect, htype] at htake

/-! ### What handling a packet does -/

/-- The type and id under which a packet is looked up. -/
def Response.key : Response → Option (MessageType × UInt16)
  | pingresp => some (.pingresp, 0)
  | puback packetId => some (.puback, packetId)
  | pubrec packetId => some (.pubrec, packetId)
  | pubcomp packetId => some (.pubcomp, packetId)
  | suback packetId _ => some (.suback, packetId)
  | unsuback packetId => some (.unsuback, packetId)
  | pubrel packetId => some (.pubrel, packetId)
  | _ => none

/-- What follows when a record is found. -/
def Response.onFound (resp : Response) (waiting : Waiting) : SessionPc × List Event :=
  match resp with
  | pubrec packetId => (.replying (.pubrel waiting packetId), [])
  | pubrel packetId => (.replying (.pubcomp waiting packetId), [])
  | suback packetId results => runSubCallback packetId results waiting
  | unsuback _ => runUnsubCallback resp waiting
  | _ => runCallback resp waiting

theorem handleResponse_of_key {client : Client} {resp : Response} {type : MessageType}
    {packetId : UInt16} (hkey : resp.key = some (type, packetId)) :
    handleResponse client resp = withWaiting client type packetId resp.onFound := by
  cases resp <;> simp only [Response.key, Option.some.injEq, Prod.mk.injEq, reduceCtorEq] at hkey <;>
    obtain ⟨rfl, rfl⟩ := hkey <;> rfl

/-- A search takes records out of the queue, and what follows sees only a record that it took. -/
theorem withWaiting_cases (client : Client) (type : MessageType) (packetId : UInt16)
    (found : Waiting → SessionPc × List Event) :
    (withWaiting client type packetId found).1.ackQueue.toList ⊆ client.ackQueue.toList ∧
      ((withWaiting client type packetId found).2 = (.top, []) ∨
        (withWaiting client type packetId found).2 = (.crashed, []) ∨
        ∃ waiting ∈ client.ackQueue.toList, inspect type packetId waiting = .take ∧
          (withWaiting client type packetId found).2 = found waiting) := by
  have hlist := client.ackQueue.search_toList (inspect type packetId)
  have hfind := searchList_find (inspect type packetId) client.ackQueue.toList
  unfold withWaiting dequeueByTypeAndId
  cases hsearch : client.ackQueue.search (inspect type packetId) with
  | none => exact ⟨List.Subset.refl _, .inr (.inl rfl)⟩
  | some answer =>
      obtain ⟨result, rest⟩ := answer
      rw [hsearch] at hlist
      rw [← hlist] at hfind
      have hsubset := searchList_subset hlist.symm
      cases result with
      | notFound => exact ⟨hsubset, .inl rfl⟩
      | unassigned => exact ⟨hsubset, .inr (.inl rfl)⟩
      | found waiting =>
          refine ⟨hsubset, .inr (.inr ⟨waiting, ?_⟩)⟩
          simp only [Option.map_some] at hfind
          split at hfind
          · simp at hfind
          · rename_i first hfirst
            split at hfind
            · rename_i htake
              obtain rfl : waiting = first := by simpa using hfind
              exact ⟨List.mem_of_find?_eq_some hfirst, htake, rfl⟩
            · simp at hfind
            · simp at hfind

/-- Where the session thread stands when it has handled a packet: it holds a record only if it has
taken it out of the queue. -/
inductive Handled (entries : List Waiting) : SessionPc → Prop
  | top : Handled entries .top
  | crashed : Handled entries .crashed
  | puback (data : PublishData) : Handled entries (.replying (.puback data))
  | pubrec (data : PublishData) : Handled entries (.replying (.pubrec data))
  | pubrel {waiting : Waiting} {packetId : UInt16} (hmem : waiting ∈ entries)
      (htake : inspect .pubrec packetId waiting = .take) :
      Handled entries (.replying (.pubrel waiting packetId))
  | pubcomp {waiting : Waiting} {packetId : UInt16} (hmem : waiting ∈ entries)
      (htake : inspect .pubrel packetId waiting = .take) :
      Handled entries (.replying (.pubcomp waiting packetId))

theorem onFound_handled {entries : List Waiting} {resp : Response} {type : MessageType}
    {packetId : UInt16} {waiting : Waiting} (hmem : waiting ∈ entries)
    (hkey : resp.key = some (type, packetId)) (htake : inspect type packetId waiting = .take) :
    Handled entries (resp.onFound waiting).1 := by
  cases resp with
  | pubrec =>
      obtain ⟨rfl, rfl⟩ := Prod.mk.inj (Option.some.inj hkey)
      exact .pubrel hmem htake
  | pubrel =>
      obtain ⟨rfl, rfl⟩ := Prod.mk.inj (Option.some.inj hkey)
      exact .pubcomp hmem htake
  | suback packetId results =>
      simp only [Response.onFound, runSubCallback]
      split <;> constructor
  | unsuback packetId =>
      simp only [Response.onFound, runUnsubCallback]
      split <;> constructor
  | _ =>
      simp only [Response.onFound, runCallback]
      split <;> constructor

/-- Whatever the records look like, handling a packet only takes records out of the queue. -/
theorem handleResponse_handled (client : Client) (resp : Response) :
    (handleResponse client resp).1.ackQueue.toList ⊆ client.ackQueue.toList ∧
      Handled client.ackQueue.toList (handleResponse client resp).2.1 := by
  cases hkey : resp.key with
  | none =>
      cases resp with
      | publish data =>
          simp only [handleResponse]
          split_ifs <;> exact ⟨List.Subset.refl _, by constructor⟩
      | connect | connack | subscribe | unsubscribe | pingreq | disconnect =>
          exact ⟨List.Subset.refl _, .top⟩
      | _ => simp [Response.key] at hkey
  | some key =>
      obtain ⟨type, packetId⟩ := key
      rw [handleResponse_of_key hkey]
      obtain ⟨hsubset, hcases⟩ := withWaiting_cases client type packetId resp.onFound
      refine ⟨hsubset, ?_⟩
      obtain hdone | hcrashed | ⟨waiting, hmem, htake, hfound⟩ := hcases
      · rw [hdone]
        exact .top
      · rw [hcrashed]
        exact .crashed
      · rw [hfound]
        exact onFound_handled hmem hkey htake

/-- A search among well-formed records either comes to the end or takes the first that matches. -/
theorem dequeueByTypeAndId_cases {queue : LinkedQueue true Waiting} (type : MessageType)
    (packetId : UInt16) (hentries : ∀ waiting ∈ queue.toList, waiting.WellFormed) :
    (∃ rest, rest.toList = queue.toList ∧
        (∀ waiting ∈ queue.toList, inspect type packetId waiting = .skip) ∧
        dequeueByTypeAndId queue type packetId = some (.notFound, rest)) ∨
      ∃ rest left waiting right, queue.toList = left ++ waiting :: right ∧
        rest.toList = left ++ right ∧ (∀ other ∈ left, inspect type packetId other = .skip) ∧
        inspect type packetId waiting = .take ∧
        dequeueByTypeAndId queue type packetId = some (.found waiting, rest) := by
  have hsearch := queue.search_toList (inspect type packetId)
  obtain ⟨hlist, hskip⟩ | ⟨left, waiting, right, hsplit, hleft, htake, hlist⟩ :=
    searchList_cases fun waiting hmem => inspect_decided (hentries waiting hmem) type packetId
  · rw [hlist, Option.map_eq_some_iff] at hsearch
    obtain ⟨⟨result, rest⟩, hresult, hpair⟩ := hsearch
    obtain ⟨rfl, hqueue⟩ := Prod.mk.inj hpair
    exact .inl ⟨rest, hqueue, hskip, hresult⟩
  · rw [hlist, Option.map_eq_some_iff] at hsearch
    obtain ⟨⟨result, rest⟩, hresult, hpair⟩ := hsearch
    obtain ⟨rfl, hqueue⟩ := Prod.mk.inj hpair
    exact .inr ⟨rest, left, waiting, right, hsplit, hqueue, hleft, htake, hresult⟩

/-- Nothing is found and nothing happens; or a record is found; or the packet is a PUBLISH. -/
theorem handleResponse_cases {client : Client} (resp : Response)
    (hentries : ∀ waiting ∈ client.ackQueue.toList, waiting.WellFormed) :
    (∃ ackQueue, ackQueue.toList = client.ackQueue.toList ∧ (∀ data, resp ≠ .publish data) ∧
        (∀ type packetId, resp.key = some (type, packetId) →
          ∀ waiting ∈ client.ackQueue.toList, inspect type packetId waiting = .skip) ∧
        handleResponse client resp = ({ client with ackQueue }, .top, [])) ∨
      (∃ type packetId ackQueue left waiting right, resp.key = some (type, packetId) ∧
        client.ackQueue.toList = left ++ waiting :: right ∧ ackQueue.toList = left ++ right ∧
        (∀ other ∈ left, inspect type packetId other = .skip) ∧
        inspect type packetId waiting = .take ∧
        handleResponse client resp = ({ client with ackQueue }, resp.onFound waiting)) ∨
      ∃ data, resp = .publish data := by
  cases hkey : resp.key with
  | none =>
      cases resp with
      | publish data => exact .inr (.inr ⟨data, rfl⟩)
      | connect | connack | subscribe | unsubscribe | pingreq | disconnect =>
          exact .inl ⟨client.ackQueue, rfl, by simp, by simp, rfl⟩
      | _ => simp [Response.key] at hkey
  | some key =>
      obtain ⟨type, packetId⟩ := key
      have hpublish : ∀ data, resp ≠ .publish data := by
        rintro data rfl
        simp [Response.key] at hkey
      rw [handleResponse_of_key hkey]
      obtain ⟨ackQueue, hqueue, hskip, hsearch⟩ |
        ⟨ackQueue, left, waiting, right, hsplit, hqueue, hleft, htake, hsearch⟩ :=
          dequeueByTypeAndId_cases type packetId hentries
      · refine .inl ⟨ackQueue, hqueue, hpublish, ?_, by simp [withWaiting, hsearch]⟩
        rintro _ _ heq
        obtain ⟨rfl, rfl⟩ := Prod.mk.inj (Option.some.inj heq)
        exact hskip
      · exact .inr (.inl ⟨type, packetId, ackQueue, left, waiting, right, rfl, hsplit, hqueue,
          hleft, htake, by simp [withWaiting, hsearch]⟩)

theorem onFound_cases {resp : Response} {type : MessageType} {packetId : UInt16} {waiting : Waiting}
    (hwaiting : waiting.WellFormed) (hkey : resp.key = some (type, packetId))
    (htake : inspect type packetId waiting = .take) :
    (resp = .pingresp ∨ resp = .puback packetId ∨ resp = .pubcomp packetId) ∧
        resp.onFound waiting = (.top, [.callback waiting resp]) ∨
      resp = .pubrec packetId ∧
        resp.onFound waiting = (.replying (.pubrel waiting packetId), []) ∨
      resp = .pubrel packetId ∧
        resp.onFound waiting = (.replying (.pubcomp waiting packetId), []) := by
  have htype := type_of_take htake
  cases resp <;> simp only [Response.key, Option.some.injEq, Prod.mk.injEq, reduceCtorEq] at hkey <;>
    obtain ⟨rfl, rfl⟩ := hkey
  case pubrec => exact .inr (.inl ⟨rfl, rfl⟩)
  case pubrel => exact .inr (.inr ⟨rfl, rfl⟩)
  case suback | unsuback => cases hwaiting <;> simp at htype
  all_goals
    cases hwaiting <;> simp only [reduceCtorEq] at htype
    simp [Response.onFound, runCallback]

/-! ### What holds of every record -/

/-- A property of records, and of what the session thread holds while it replies. -/
def SessionPc.Holding (Record : Waiting → Prop) (Held : Reply → Prop) : SessionPc → Prop
  | replying reply => Held reply
  | registering waiting => Record waiting
  | _ => True

theorem holding_of_handsFree {Record : Waiting → Prop} {Held : Reply → Prop} {pc : SessionPc}
    (hfree : pc.handsFree) : pc.Holding Record Held := by
  cases pc with
  | replying reply => simp [SessionPc.handsFree] at hfree
  | registering waiting => simp [SessionPc.handsFree] at hfree
  | _ => trivial

/-- A record keeps the property on its way through the hands of the session thread. -/
structure Reply.Carried (Record : Waiting → Prop) (Held : Reply → Prop) : Prop where
  puback : ∀ data, Held (.puback data)
  pubrec : ∀ data, Held (.pubrec data)
  pubrel : ∀ waiting packetId, Record waiting → inspect .pubrec packetId waiting = .take →
    Held (.pubrel waiting packetId)
  pubcomp : ∀ waiting packetId, Record waiting → inspect .pubrel packetId waiting = .take →
    Held (.pubcomp waiting packetId)
  kept : ∀ topic msg retain packetId,
    Record ⟨0, .pubrel, none, 0, .pubrel topic msg retain packetId⟩
  released : ∀ waiting packetId, Held (.pubrel waiting packetId) →
    Record { waiting with type := .pubcomp, data := .pubcomp packetId }

namespace System

variable {Tid : Type} [DecidableEq Tid] {system next : System Tid} {Record : Waiting → Prop}
  {Held : Reply → Prop}

theorem holding_afterReply {client : Client} {reply : Reply} (sent : Bool)
    (hcarried : Reply.Carried Record Held) (hheld : Held reply) :
    (afterReply client reply sent).1.Holding Record Held := by
  cases sent with
  | false => trivial
  | true =>
      cases reply with
      | puback data => trivial
      | pubrec data => exact hcarried.kept _ _ _ _
      | pubrel waiting packetId => exact hcarried.released waiting packetId hheld
      | pubcomp waiting packetId =>
          simp only [afterReply, deliverWaiting, if_true]
          split <;> trivial

/-- A step of the session thread keeps the property, of the records in the queue and of the one in
hand. -/
theorem holding_session {label : Label Tid} (hcarried : Reply.Carried Record Held)
    (hentries : ∀ waiting ∈ system.client.ackQueue.toList, Record waiting)
    (hsession : system.session.Holding Record Held) (hlabel : label.isSession)
    (hstep : system.step label = some next) :
    (∀ waiting ∈ next.client.ackQueue.toList, Record waiting) ∧
      next.session.Holding Record Held := by
  cases label with
  | sessionHandle =>
      obtain ⟨resp, -, -, rfl⟩ := step_sessionHandle.mp hstep
      obtain ⟨hsubset, hhandled⟩ := handleResponse_handled system.client resp
      refine ⟨fun waiting hmem => hentries waiting (hsubset hmem), ?_⟩
      change (handleResponse system.client resp).2.1.Holding Record Held
      generalize (handleResponse system.client resp).2.1 = pc at hhandled
      cases hhandled with
      | top => trivial
      | crashed => trivial
      | puback data => exact hcarried.puback data
      | pubrec data => exact hcarried.pubrec data
      | pubrel hmem htake => exact hcarried.pubrel _ _ (hentries _ hmem) htake
      | pubcomp hmem htake => exact hcarried.pubcomp _ _ (hentries _ hmem) htake
  | sessionReply sent =>
      obtain ⟨reply, hpc, rfl⟩ := step_sessionReply.mp hstep
      rw [hpc] at hsession
      exact ⟨hentries, holding_afterReply sent hcarried hsession⟩
  | sessionRegister =>
      obtain ⟨waiting, hpc, -, rfl⟩ := step_sessionRegister.mp hstep
      rw [hpc] at hsession
      refine ⟨?_, trivial⟩
      intro other hmem
      obtain hmem | rfl := mem_sessionRegister.mp hmem
      · exact hentries other hmem
      · exact hsession
  | call | lockSlot | spin | serialize | enqueueWaiting | enqueueSlot | signalDisconnect =>
      simp [Label.isSession] at hlabel
  | _ =>
      have hframe := transferFrame_step rfl hstep
      exact ⟨hframe.ackQueue ▸ hentries, holding_of_handsFree hframe.session⟩

end System

/-! ### Runs that keep the records well formed -/

/-- What the session thread has in hand is a well-formed record of the right type. -/
def SessionPc.Sound : SessionPc → Prop
  | replying (.pubrel waiting packetId) =>
      waiting.WellFormed ∧ inspect .pubrec packetId waiting = .take
  | replying (.pubcomp waiting packetId) =>
      waiting.WellFormed ∧ inspect .pubrel packetId waiting = .take
  | registering waiting => waiting.WellFormed
  | crashed => False
  | _ => True

/-- Calls with a callback, and packets that can be parsed. -/
def Label.answered {Tid : Type} : Label Tid → Bool
  | call _ request => request.answered
  | sessionReceive _ size resp => decide (0 < size → resp.isSome)
  | _ => true

namespace System

variable {Tid : Type} {system next : System Tid} {tid : Tid}

structure Sound (system : System Tid) : Prop where
  requests : ∀ tid request, (system.api tid).request = some request → request.answered
  entries : ∀ waiting ∈ system.client.ackQueue.toList, waiting.WellFormed
  session : system.session.Sound

theorem Sound.onFound {resp : Response} {type : MessageType} {packetId : UInt16} {waiting : Waiting}
    (hwaiting : waiting.WellFormed) (hkey : resp.key = some (type, packetId))
    (htake : inspect type packetId waiting = .take) : (resp.onFound waiting).1.Sound := by
  obtain ⟨-, hfound⟩ | ⟨rfl, hfound⟩ | ⟨rfl, hfound⟩ := onFound_cases hwaiting hkey htake
  · rw [hfound]
    trivial
  · obtain ⟨rfl, -⟩ := Prod.mk.inj (Option.some.inj hkey)
    exact ⟨hwaiting, htake⟩
  · obtain ⟨rfl, -⟩ := Prod.mk.inj (Option.some.inj hkey)
    exact ⟨hwaiting, htake⟩

theorem Sound.sessionHandle (hsound : system.Sound) (resp : Response) :
    (system.sessionHandle resp).Sound := by
  obtain ⟨ackQueue, hqueue, -, -, hhandle⟩ |
    ⟨type, packetId, ackQueue, left, waiting, right, hkey, hsplit, hqueue, -, htake, hhandle⟩ |
    ⟨data, rfl⟩ := handleResponse_cases resp hsound.entries
  · refine ⟨hsound.requests, ?_, ?_⟩
    · simpa [System.sessionHandle, log, hhandle, hqueue] using hsound.entries
    · simp [System.sessionHandle, log, hhandle, SessionPc.Sound]
  · have hentries := hsound.entries
    rw [hsplit] at hentries
    refine ⟨hsound.requests, ?_, ?_⟩
    · intro other hmem
      refine hentries other ?_
      have hmem' : other ∈ left ++ right := by
        simpa [System.sessionHandle, log, hhandle, hqueue] using hmem
      simp only [List.mem_append, List.mem_cons] at hmem' ⊢
      tauto
    · have hfound := Sound.onFound (hentries waiting (by simp)) hkey htake
      simpa [System.sessionHandle, log, hhandle] using hfound
  · refine ⟨hsound.requests, ?_, ?_⟩
    · have hentries := hsound.entries
      simp only [System.sessionHandle, log, handleResponse]
      split_ifs <;> exact hentries
    · simp only [System.sessionHandle, log, handleResponse]
      split_ifs <;> trivial

theorem Sound.sessionReply {reply : Reply} (hsound : system.Sound)
    (hpc : system.session = .replying reply) (sent : Bool) :
    (system.sessionReply reply sent).Sound := by
  refine ⟨hsound.requests, hsound.entries, ?_⟩
  have hsession := hsound.session
  rw [hpc] at hsession
  cases sent with
  | false => exact trivial
  | true =>
      cases reply with
      | puback data => exact trivial
      | pubrec data => exact .pubrel _ _ _ _ _ _ _
      | pubrel waiting packetId =>
          obtain ⟨hwaiting, htake⟩ := hsession
          have htype := type_of_take htake
          cases hwaiting <;> simp only [reduceCtorEq] at htype
          exact .pubcomp _ _ _ _
      | pubcomp waiting packetId =>
          obtain ⟨hwaiting, htake⟩ := hsession
          have htype := type_of_take htake
          cases hwaiting <;> simp only [reduceCtorEq] at htype
          simp only [System.sessionReply, log, afterReply, deliverWaiting, if_true]
          split <;> trivial

theorem Sound.sessionReceive (hsound : system.Sound) {buffer : Memory} {size : Int}
    {resp : Option Response} (hresp : 0 < size → resp.isSome) :
    (system.sessionReceive buffer size resp).Sound := by
  by_cases hsize : 0 < size
  · obtain ⟨resp, rfl⟩ := Option.isSome_iff_exists.mp (hresp hsize)
    rw [sessionReceive_of_packet hsize]
    exact ⟨hsound.requests, hsound.entries, trivial⟩
  · rw [sessionReceive_of_nothing hsize]
    exact ⟨hsound.requests, hsound.entries, trivial⟩

theorem Sound.sessionTop (hsound : system.Sound) : system.sessionTop.Sound := by
  obtain ⟨-, htop⟩ | ⟨-, -, htop⟩ | ⟨slot, rest, -, -, htop⟩ := system.sessionTop_cases
  · rw [htop]
    exact ⟨hsound.requests, hsound.entries, trivial⟩
  · rw [htop]
    exact ⟨hsound.requests, hsound.entries, trivial⟩
  · rw [htop]
    exact ⟨hsound.requests, hsound.entries, trivial⟩

variable [DecidableEq Tid]

theorem Sound.setApi {client : Client} {mutex : Option Tid} {serialized : UInt16 → Option Outgoing}
    {calls : Nat} {events : List Event} {pc : ApiPc} (hsound : system.Sound)
    (hpc : ∀ request, pc.request = some request → request.answered)
    (hentries : ∀ waiting ∈ client.ackQueue.toList, waiting.WellFormed) :
    ({ system with client, mutex, serialized, calls, events }.setApi tid pc).Sound := by
  refine ⟨?_, hentries, hsound.session⟩
  intro other request hrequest
  by_cases heq : other = tid
  · subst heq
    exact hpc request (by simpa [System.setApi] using hrequest)
  · exact hsound.requests other request (by simpa [System.setApi, heq] using hrequest)

theorem Sound.call {request : Request} (hsound : system.Sound) (hanswered : request.answered) :
    (system.call tid request).Sound := by
  cases hrefused : request.refused system.client with
  | some status =>
      rw [call_of_refused hrefused]
      exact ⟨hsound.requests, hsound.entries, hsound.session⟩
  | none =>
      rw [call_of_accepted hrefused]
      refine hsound.setApi ?_ hsound.entries
      rintro _ ⟨⟩
      exact hanswered

theorem Sound.trySlot {serial : Nat} {request : Request} (hsound : system.Sound)
    (hrequest : (system.api tid).request = some request) :
    (system.trySlot tid serial request).Sound := by
  have hanswered := hsound.requests tid request hrequest
  cases hfree : system.client.freeQueue.toList with
  | nil =>
      rw [trySlot_of_nil hfree]
      refine hsound.setApi ?_ hsound.entries
      rintro _ ⟨⟩
      exact hanswered
  | cons slot rest =>
      rw [trySlot_of_cons hfree]
      refine hsound.setApi ?_ hsound.entries
      rintro _ ⟨⟩
      exact hanswered

theorem sound_step {label : Label Tid} (hsound : system.Sound) (hlabel : label.answered)
    (hstep : system.step label = some next) : next.Sound := by
  cases label with
  | call tid request =>
      obtain ⟨-, rfl⟩ := step_call.mp hstep
      exact hsound.call hlabel
  | lockSlot tid =>
      obtain ⟨serial, request, hpc, -, rfl⟩ := step_lockSlot.mp hstep
      exact hsound.trySlot (by rw [hpc]; rfl)
  | spin tid =>
      obtain ⟨serial, request, hpc, rfl⟩ := step_spin.mp hstep
      exact hsound.trySlot (by rw [hpc]; rfl)
  | serialize tid =>
      obtain ⟨serial, request, slot, hpc, rfl⟩ := step_serialize.mp hstep
      have hanswered := hsound.requests tid request (by rw [hpc]; rfl)
      apply hsound.setApi
      · rintro _ ⟨⟩
        exact hanswered
      · cases request <;> exact hsound.entries
  | enqueueWaiting tid =>
      obtain ⟨serial, request, slot, outgoing, hpc, -, rfl⟩ := step_enqueueWaiting.mp hstep
      have hanswered := hsound.requests tid request (by rw [hpc]; rfl)
      rw [register_eq]
      refine hsound.setApi (by simp [ApiPc.request]) ?_
      intro waiting hmem
      rw [toList_register, List.mem_append, Option.mem_toList] at hmem
      obtain hmem | hnew := hmem
      · exact hsound.entries waiting hmem
      · exact Request.waiting_wellFormed hanswered hnew
  | enqueueSlot tid =>
      obtain ⟨serial, slot, outgoing, hpc, -, rfl⟩ := step_enqueueSlot.mp hstep
      rw [enqueueSlot_eq]
      exact hsound.setApi (by simp [ApiPc.request]) hsound.entries
  | signalDisconnect =>
      obtain ⟨-, rfl⟩ := step_signalDisconnect.mp hstep
      exact ⟨hsound.requests, hsound.entries, hsound.session⟩
  | sessionTop =>
      obtain ⟨-, -, rfl⟩ := step_sessionTop.mp hstep
      exact hsound.sessionTop
  | sessionSend sent =>
      obtain ⟨slot, -, rfl⟩ := step_sessionSend.mp hstep
      exact ⟨hsound.requests, hsound.entries, trivial⟩
  | sessionRequeue =>
      obtain ⟨slot, -, -, rfl⟩ := step_sessionRequeue.mp hstep
      exact ⟨hsound.requests, hsound.entries, trivial⟩
  | sessionReceive buffer size resp =>
      obtain ⟨-, rfl⟩ := step_sessionReceive.mp hstep
      exact hsound.sessionReceive (of_decide_eq_true hlabel)
  | sessionHandle =>
      obtain ⟨resp, -, -, rfl⟩ := step_sessionHandle.mp hstep
      exact hsound.sessionHandle resp
  | sessionReply sent =>
      obtain ⟨reply, hpc, rfl⟩ := step_sessionReply.mp hstep
      exact hsound.sessionReply hpc sent
  | sessionRegister =>
      obtain ⟨waiting, hpc, -, rfl⟩ := step_sessionRegister.mp hstep
      have hsession := hsound.session
      rw [hpc] at hsession
      refine ⟨hsound.requests, ?_, trivial⟩
      intro other hmem
      obtain hmem | rfl := mem_sessionRegister.mp hmem
      · exact hsound.entries other hmem
      · exact hsession

omit [DecidableEq Tid] in
theorem sound_init (client : Client) (bufferCount : UInt16) (bufferSize : Nat) :
    (init client bufferCount bufferSize : System Tid).Sound :=
  ⟨by simp [init, start, ApiPc.request], by simp [init, start, startSessionThread], trivial⟩

end System

end Smqtt
