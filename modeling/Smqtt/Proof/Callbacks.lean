import Smqtt.Proof.Completion

/-!
# The callbacks of publishes and pings

What the desk guarantees, read off the system: every answer finds the record of its request, and a
callback runs once, for its own request, on the last answer to it. Packet ids tell the requests apart
as long as the counter does not come round.
-/

namespace Smqtt

/-- The id that a publish has taken. -/
def Waiting.publishId (waiting : Waiting) : Option UInt16 :=
  match waiting.type, waiting.data with
  | .puback, .puback packetId => some packetId
  | .pubrec, .pubrec packetId => some packetId
  | _, _ => none

def Request.isPing : Request → Bool
  | ping _ _ => true
  | _ => false

def Request.callback : Request → Callback
  | ping callback _ => callback
  | publish _ _ _ _ callback _ => callback
  | subscribe _ subCallback _ => subCallback
  | unsubscribe _ callback _ => callback

def Request.context : Request → Nat
  | ping _ context => context
  | publish _ _ _ _ _ context => context
  | subscribe _ _ context => context
  | unsubscribe _ _ context => context

/-- The ping whose record is still to be left. -/
def ApiPc.pingSerial : ApiPc → List Nat
  | wanting serial (.ping _ _) => [serial]
  | spinning serial (.ping _ _) => [serial]
  | serializing serial (.ping _ _) _ => [serial]
  | registering serial (.ping _ _) _ _ => [serial]
  | _ => []

/-- The first answer in the exchange that an answer belongs to. -/
def Response.first : Response → Response
  | pubcomp packetId => .pubrec packetId
  | resp => resp

def Event.callbackRun : Event → Option (Waiting × Response)
  | callback waiting resp => some (waiting, resp)
  | _ => none

/-- The record that the session thread has taken off the queue. -/
def SessionPc.inHand : SessionPc → Option Waiting
  | replying (.pubrel waiting _) => some waiting
  | registering waiting => some waiting
  | _ => none

namespace System

def publishIds (system : System Unit) : List UInt16 := system.records.filterMap Waiting.publishId

def pingCalls (system : System Unit) : List Nat :=
  (system.requests.filter (·.2.isPing)).map Prod.fst

def pingRecords (system : System Unit) : List Nat :=
  (system.records.filter (·.type = .pingresp)).map Waiting.serial

/-- Ids are handed out in order, and pings are recorded in order. -/
structure Counted (system : System Unit) : Prop where
  connected : system.client.connected
  bound : system.publishCalls ≤ 65535
  ids : system.publishIds
    = (List.range system.publishIds.length).map fun index => UInt16.ofNat (index + 1)
  nextId : system.client.publishPacketId = UInt16.ofNat (system.publishIds.length + 1)
  pings : system.pingCalls = system.pingRecords ++ (system.api ()).pingSerial

variable {system next : System Unit} {bufferCount : UInt16}

theorem Counted.of_eq (hcounted : system.Counted) (hrequests : next.requests = system.requests)
    (hrecords : next.records = system.records)
    (hconnected : next.client.connected = system.client.connected)
    (hid : next.client.publishPacketId = system.client.publishPacketId)
    (hpc : (next.api ()).pingSerial = (system.api ()).pingSerial) : next.Counted := by
  obtain ⟨hc, hb, hi, hn, hp⟩ := hcounted
  refine ⟨hconnected ▸ hc, ?_, ?_, ?_, ?_⟩
  · rwa [publishCalls, hrequests]
  · rwa [publishIds, hrecords]
  · rwa [publishIds, hrecords, hid]
  · rwa [pingCalls, pingRecords, hrequests, hrecords, hpc]

theorem counted_call {request : Request} (hcounted : system.Counted)
    (hpc : system.api () = .idle)
    (hbound : request.acknowledged = false ∨ system.publishCalls < 65535) :
    (system.call () request).Counted := by
  have hpings := hcounted.pings
  simp only [hpc, ApiPc.pingSerial, List.append_nil] at hpings
  have hrequests : (system.call () request).requests
      = system.requests ++ [(system.calls, request)] := by
    cases hrefused : request.refused system.client with
    | some status => simp [call_of_refused hrefused, requests, Event.calledRequest]
    | none => simp [call_of_accepted hrefused, requests, setApi, Event.calledRequest]
  have hrecords : (system.call () request).records = system.records := by
    cases hrefused : request.refused system.client with
    | some status => simp [call_of_refused hrefused, records, Event.record]
    | none => simp [call_of_accepted hrefused, records, setApi, Event.record]
  have hclient : (system.call () request).client = system.client := by
    cases hrefused : request.refused system.client with
    | some status => rw [call_of_refused hrefused]
    | none =>
        rw [call_of_accepted hrefused]
        rfl
  have hserial : ((system.call () request).api ()).pingSerial
      = ([(system.calls, request)].filter (·.2.isPing)).map Prod.fst := by
    cases hrefused : request.refused system.client with
    | some status =>
        have hping : request.isPing = false := by
          cases request <;> simp [Request.refused, hcounted.connected] at hrefused
          rfl
        simp [call_of_refused hrefused, hpc, ApiPc.pingSerial, hping]
    | none =>
        rw [call_of_accepted hrefused]
        cases request <;> simp [setApi, ApiPc.pingSerial, Request.isPing]
  refine ⟨hclient ▸ hcounted.connected, ?_, ?_, ?_, ?_⟩
  · have hcalls := hcounted.bound
    rw [publishCalls] at hcalls hbound ⊢
    rw [hrequests, List.countP_append, List.countP_singleton]
    split
    · obtain hnot | hlt := hbound
      · simp_all
      · omega
    · omega
  · rw [publishIds, hrecords]
    exact hcounted.ids
  · rw [publishIds, hrecords, hclient]
    exact hcounted.nextId
  · rw [pingCalls, pingRecords, hrequests, hrecords, hserial, List.filter_append, List.map_append,
      ← pingCalls, hpings, pingRecords]

/-- A publish that is acknowledged takes the next id; nothing else does. -/
theorem Request.register_id {client : Client} {serial : Nat} {request : Request}
    (hanswered : request.answered) :
    (request.waiting client serial).toList.filterMap Waiting.publishId = [] ∧
        (request.register client serial).publishPacketId = client.publishPacketId ∨
      (request.waiting client serial).toList.filterMap Waiting.publishId
          = [client.publishPacketId] ∧
        (request.register client serial).publishPacketId = client.publishPacketId + 1 := by
  cases request with
  | ping callback context => exact .inl ⟨rfl, rfl⟩
  | publish topic msg qos retain callback context =>
      simp only [Request.register, Request.waiting]
      split_ifs
      · exact .inr ⟨rfl, rfl⟩
      · exact .inr ⟨rfl, rfl⟩
      · exact .inl ⟨rfl, rfl⟩
  | _ => simp [Request.answered] at hanswered

theorem Request.register_ping {client : Client} {serial : Nat} {request : Request} {slot : UInt16}
    {outgoing : Outgoing} :
    ((request.waiting client serial).toList.filter (·.type = .pingresp)).map Waiting.serial
      = (ApiPc.registering serial request slot outgoing).pingSerial := by
  cases request with
  | publish topic msg qos retain callback context =>
      simp only [Request.waiting]
      split_ifs <;> rfl
  | _ => rfl

theorem counted_register {serial : Nat} {request : Request} {slot : UInt16} {outgoing : Outgoing}
    (hcounted : system.Counted) (hanswered : request.answered)
    (hpc : system.api () = .registering serial request slot outgoing)
    (hframe : ApiFrame system (system.register () serial request slot outgoing)) :
    (system.register () serial request slot outgoing).Counted := by
  have hrequests : (system.register () serial request slot outgoing).requests
      = system.requests := by
    cases hnew : request.waiting system.client serial <;>
      simp [register_eq, requests, setApi, hnew, Event.calledRequest]
  have hids : (system.register () serial request slot outgoing).publishIds = system.publishIds
      ++ (request.waiting system.client serial).toList.filterMap Waiting.publishId := by
    rw [publishIds, records_register, List.filterMap_append, publishIds]
  have hnext : (system.register () serial request slot outgoing).client.publishPacketId
      = (request.register system.client serial).publishPacketId := rfl
  refine ⟨hframe.connected ▸ hcounted.connected, ?_, ?_, ?_, ?_⟩
  · rw [publishCalls, hrequests]
    exact hcounted.bound
  · rw [hids]
    obtain ⟨hnone, -⟩ | ⟨hone, -⟩ := Request.register_id hanswered
    · rw [hnone, List.append_nil]
      exact hcounted.ids
    · rw [hone, List.length_append, List.length_singleton]
      calc system.publishIds ++ [system.client.publishPacketId]
          = (List.range system.publishIds.length).map (fun index => UInt16.ofNat (index + 1))
              ++ [UInt16.ofNat (system.publishIds.length + 1)] := by
            rw [← hcounted.ids, hcounted.nextId]
        _ = (List.range (system.publishIds.length + 1)).map
              fun index => UInt16.ofNat (index + 1) := by
            rw [List.range_succ, List.map_append]
            rfl
  · rw [hnext, hids]
    obtain ⟨hnone, hsame⟩ | ⟨hone, hmoved⟩ := Request.register_id hanswered
    · rw [hsame, hnone, List.append_nil]
      exact hcounted.nextId
    · rw [hmoved, hone, List.length_append, List.length_singleton, hcounted.nextId,
        UInt16.ofNat_add (system.publishIds.length + 1) 1]
      rfl
  · have hpings := hcounted.pings
    rw [hpc] at hpings
    have hrecords : (system.register () serial request slot outgoing).pingRecords
        = system.pingRecords ++ (ApiPc.registering serial request slot outgoing).pingSerial := by
      rw [pingRecords, records_register, List.filter_append, List.map_append,
        Request.register_ping, pingRecords]
    rw [pingCalls, hrequests, ← pingCalls, hpings, hrecords]
    simp [register_eq, setApi, ApiPc.pingSerial]

theorem counted_trySlot {serial : Nat} {request : Request} (hcounted : system.Counted)
    (hpc : (system.api ()).pingSerial = (ApiPc.wanting serial request).pingSerial) :
    (system.trySlot () serial request).Counted := by
  cases hfree : system.client.freeQueue.toList with
  | nil =>
      rw [trySlot_of_nil hfree]
      refine hcounted.of_eq rfl rfl rfl rfl ?_
      rw [hpc]
      cases request <;> rfl
  | cons slot rest =>
      rw [trySlot_of_cons hfree]
      refine hcounted.of_eq rfl rfl rfl rfl ?_
      rw [hpc]
      cases request <;> rfl

theorem counted_session (hcounted : system.Counted) (hframe : SessionFrame system next) :
    next.Counted := by
  obtain ⟨_, _, _, _, hclient⟩ := hframe.client
  obtain ⟨events, hevents, hsession⟩ := hframe.events
  have hrequests : events.filterMap Event.calledRequest = [] := List.filterMap_eq_nil_iff.mpr
    fun event hmem => (Event.record_of_isSession (hsession event hmem)).2.2
  refine hcounted.of_eq ?_ (records_of_session hframe) (by rw [hclient]) (by rw [hclient])
    (by rw [hframe.api])
  simp [requests, hevents, hrequests]

theorem counted_step {label : Label Unit} (hcounted : system.Counted) (hsound : system.Sound)
    (hscope : system.completionScope label) (hstep : system.step label = some next) :
    next.Counted := by
  cases label with
  | call tid request =>
      obtain ⟨hpc, rfl⟩ := step_call.mp hstep
      have hbound := (Bool.and_eq_true_iff.mp hscope).2
      exact counted_call hcounted hpc (by simpa using hbound)
  | lockSlot tid =>
      obtain ⟨serial, request, hpc, -, rfl⟩ := step_lockSlot.mp hstep
      exact counted_trySlot hcounted (by rw [hpc])
  | spin tid =>
      obtain ⟨serial, request, hpc, rfl⟩ := step_spin.mp hstep
      refine counted_trySlot hcounted ?_
      rw [hpc]
      cases request <;> rfl
  | serialize tid =>
      obtain ⟨serial, request, slot, hpc, rfl⟩ := step_serialize.mp hstep
      refine hcounted.of_eq rfl rfl ?_ ?_ ?_
      · cases request <;> rfl
      · cases request <;> rfl
      · rw [hpc]
        cases request <;> rfl
  | enqueueWaiting tid =>
      have hframe := apiFrame_step (by simp [Label.isSession]) hstep
      obtain ⟨serial, request, slot, outgoing, hpc, -, rfl⟩ := step_enqueueWaiting.mp hstep
      exact counted_register hcounted (hsound.requests () request (hpc ▸ rfl)) hpc hframe
  | enqueueSlot tid =>
      obtain ⟨serial, slot, outgoing, hpc, -, rfl⟩ := step_enqueueSlot.mp hstep
      refine hcounted.of_eq ?_ ?_ rfl rfl ?_
      · simp [enqueueSlot_eq, requests, setApi, Event.calledRequest]
      · simp [enqueueSlot_eq, records, setApi, Event.record]
      · rw [hpc]
        rfl
  | signalDisconnect =>
      obtain ⟨-, rfl⟩ := step_signalDisconnect.mp hstep
      exact hcounted.of_eq rfl rfl rfl rfl rfl
  | _ => exact counted_session hcounted (sessionFrame_step rfl hstep)

/-! ### What the session thread handles -/

theorem outbound_sessionHandle {resp : Response} (hsound : system.Sound) (hresp : resp.isAnswer) :
    (system.sessionHandle resp).session.Outbound := by
  obtain ⟨ackQueue, -, -, -, hhandle⟩ |
    ⟨type, packetId, ackQueue, left, waiting, right, hkey, hsplit, -, -, htake, hhandle⟩ |
    ⟨data, rfl⟩ := handleResponse_cases resp hsound.entries
  · simp [sessionHandle, log, hhandle, SessionPc.Outbound]
  · have hwaiting := hsound.entries waiting (by simp [hsplit])
    obtain ⟨-, hfound⟩ | ⟨-, hfound⟩ | ⟨rfl, -⟩ := onFound_cases hwaiting hkey htake
    · simp [sessionHandle, log, hhandle, hfound, SessionPc.Outbound]
    · simp [sessionHandle, log, hhandle, hfound, SessionPc.Outbound]
    · simp [Response.isAnswer] at hresp
  · simp [Response.isAnswer] at hresp

theorem outbound_step {label : Label Unit} (hinv : Conducted bufferCount system)
    (hscope : system.completionScope label) (hstep : system.step label = some next) :
    next.session.Outbound := by
  have hsession := hinv.session
  cases label with
  | sessionTop =>
      obtain ⟨hpc, -, rfl⟩ := step_sessionTop.mp hstep
      obtain ⟨-, htop⟩ | ⟨-, -, htop⟩ | ⟨slot, rest, -, -, htop⟩ := system.sessionTop_cases
      · rw [htop]
        trivial
      · rw [htop]
        trivial
      · rw [htop]
        trivial
  | sessionSend sent =>
      obtain ⟨slot, -, rfl⟩ := step_sessionSend.mp hstep
      trivial
  | sessionRequeue =>
      obtain ⟨slot, -, -, rfl⟩ := step_sessionRequeue.mp hstep
      trivial
  | sessionReceive buffer size resp =>
      obtain ⟨hpc, rfl⟩ := step_sessionReceive.mp hstep
      by_cases hsize : 0 < size
      · obtain ⟨answer, howed, rfl⟩ := of_decide_eq_true hscope hsize
        rw [sessionReceive_of_packet hsize]
        exact isAnswer_of_owed howed
      · rw [sessionReceive_of_nothing hsize]
        trivial
  | sessionHandle =>
      obtain ⟨resp, hpc, -, rfl⟩ := step_sessionHandle.mp hstep
      rw [hpc] at hsession
      exact outbound_sessionHandle hinv.sound hsession
  | sessionReply sent =>
      obtain ⟨reply, hpc, rfl⟩ := step_sessionReply.mp hstep
      obtain rfl : sent = true := hscope
      rw [hpc] at hsession
      cases reply with
      | pubrel waiting packetId => exact ⟨packetId, rfl⟩
      | _ => exact hsession.elim
  | sessionRegister =>
      obtain ⟨waiting, -, -, rfl⟩ := step_sessionRegister.mp hstep
      trivial
  | _ =>
      rw [(apiFrame_step (by simp [Label.isSession]) hstep).session]
      exact hsession

theorem conducted_step {label : Label Unit} (hinv : Conducted bufferCount system)
    (hscope : system.completionScope label) (hstep : system.step label = some next) :
    Conducted bufferCount next where
  sound := sound_step hinv.sound (answered_of_completionScope hscope) hstep
  slots := (pool_step hstep).slots_eq.trans hinv.slots
  order := inOrder_step hinv.order hinv.nodup hstep
  tracked := by
    refine tracked_step hinv.tracked ?_ hstep
    rintro serial request slot rfl hpc
    exact answerAgrees_request (hinv.sound.requests () request (hpc ▸ rfl)) _ _
  session := outbound_step hinv hscope hstep

/-! ### Whose callback it is -/

/-- A record with the callback and context that a call has recorded. -/
def Owner (system : System Unit) (waiting : Waiting) : Prop :=
  ∃ record ∈ system.records, record.serial = waiting.serial ∧
    record.callback = waiting.callback ∧ record.context = waiting.context

structure Owned (system : System Unit) : Prop where
  entries : ∀ waiting ∈ system.client.ackQueue.toList, system.Owner waiting
  inHand : ∀ waiting ∈ system.session.inHand, system.Owner waiting
  callbacks : ∀ waiting resp, .callback waiting resp ∈ system.events →
    system.Owner waiting ∧ renewal resp = none

theorem Owner.mono {waiting : Waiting} (howner : system.Owner waiting)
    (hrecords : system.records ⊆ next.records) : next.Owner waiting := by
  obtain ⟨record, hmem, hfields⟩ := howner
  exact ⟨record, hrecords hmem, hfields⟩

theorem owned_api (howned : system.Owned) (hframe : ApiFrame system next) : next.Owned := by
  obtain ⟨added, hentries, hadded⟩ := hframe.entries
  obtain ⟨events, hevents, hapi⟩ := hframe.events
  have hrecords : system.records ⊆ next.records := by
    rw [records, records, hevents, List.filterMap_append]
    exact List.subset_append_left _ _
  refine ⟨?_, ?_, ?_⟩
  · intro waiting hmem
    obtain hmem | hmem := List.mem_append.mp (hentries ▸ hmem)
    · exact (howned.entries waiting hmem).mono hrecords
    · exact ⟨waiting, List.mem_filterMap.mpr ⟨_, (hadded waiting hmem).1, rfl⟩, rfl, rfl, rfl⟩
  · intro waiting hmem
    exact (howned.inHand waiting (hframe.session ▸ hmem)).mono hrecords
  · intro waiting resp hmem
    obtain hmem | hmem := List.mem_append.mp (hevents ▸ hmem)
    · exact ⟨(howned.callbacks waiting resp hmem).1.mono hrecords,
        (howned.callbacks waiting resp hmem).2⟩
    · exact absurd rfl (hapi _ hmem)

/-- A step of the session thread that runs no callback. -/
theorem owned_session (howned : system.Owned) (hframe : SessionFrame system next)
    (hentries : ∀ waiting ∈ next.client.ackQueue.toList, system.Owner waiting)
    (hinHand : ∀ waiting ∈ next.session.inHand, system.Owner waiting)
    (hcallbacks : ∀ waiting resp, .callback waiting resp ∈ next.events →
      .callback waiting resp ∈ system.events ∨ system.Owner waiting ∧ renewal resp = none) :
    next.Owned := by
  have hrecords : system.records ⊆ next.records := fun _ => (records_of_session hframe ▸ ·)
  refine ⟨?_, ?_, ?_⟩
  · exact fun waiting hmem => (hentries waiting hmem).mono hrecords
  · exact fun waiting hmem => (hinHand waiting hmem).mono hrecords
  · intro waiting resp hmem
    obtain hmem | ⟨howner, hrenewal⟩ := hcallbacks waiting resp hmem
    · exact ⟨(howned.callbacks waiting resp hmem).1.mono hrecords,
        (howned.callbacks waiting resp hmem).2⟩
    · exact ⟨howner.mono hrecords, hrenewal⟩

theorem owned_transfer (howned : system.Owned) (hframe : SessionFrame system next)
    (htransfer : TransferFrame system next) : next.Owned := by
  refine owned_session howned hframe (htransfer.ackQueue ▸ howned.entries) ?_
    fun waiting resp hmem => .inl (htransfer.callbacks waiting resp hmem)
  have hfree := htransfer.session
  cases hpc : next.session <;> simp_all [SessionPc.handsFree, SessionPc.inHand]

theorem owned_sessionHandle {resp : Response} (howned : system.Owned) (hsound : system.Sound)
    (hresp : resp.isAnswer) (hframe : SessionFrame system (system.sessionHandle resp)) :
    (system.sessionHandle resp).Owned := by
  obtain ⟨ackQueue, hqueue, -, -, hhandle⟩ |
    ⟨type, packetId, ackQueue, left, waiting, right, hkey, hsplit, hqueue, -, htake, hhandle⟩ |
    ⟨data, rfl⟩ := handleResponse_cases resp hsound.entries
  · refine owned_session howned hframe ?_ ?_ ?_
    · simpa [sessionHandle, log, hhandle, hqueue] using howned.entries
    · simp [sessionHandle, log, hhandle, SessionPc.inHand]
    · intro other otherResp hmem
      exact .inl (by simpa [sessionHandle, log, hhandle] using hmem)
  · have hwaiting := hsound.entries waiting (by simp [hsplit])
    have howner := howned.entries waiting (by simp [hsplit])
    have hrest : ∀ other ∈ (system.sessionHandle resp).client.ackQueue.toList,
        system.Owner other := by
      intro other hmem
      refine howned.entries other ?_
      have hmem' : other ∈ left ++ right := by
        simpa [sessionHandle, log, hhandle, hqueue] using hmem
      rw [hsplit]
      exact List.mem_append.mpr ((List.mem_append.mp hmem').imp id (List.mem_cons_of_mem _))
    obtain ⟨hkind, hfound⟩ | ⟨-, hfound⟩ | ⟨rfl, -⟩ := onFound_cases hwaiting hkey htake
    · refine owned_session howned hframe hrest ?_ ?_
      · simp [sessionHandle, log, hhandle, hfound, SessionPc.inHand]
      · intro other otherResp hmem
        have hmem' : .callback other otherResp ∈ system.events ∨
            other = waiting ∧ otherResp = resp := by
          simpa [sessionHandle, log, hhandle, hfound] using hmem
        obtain hmem' | ⟨rfl, rfl⟩ := hmem'
        · exact .inl hmem'
        · refine .inr ⟨howner, ?_⟩
          obtain rfl | rfl | rfl := hkind <;> rfl
    · refine owned_session howned hframe hrest ?_ ?_
      · intro other hmem
        obtain rfl : other = waiting := by
          simpa [sessionHandle, log, hhandle, hfound, SessionPc.inHand, eq_comm] using hmem
        exact howner
      · intro other otherResp hmem
        exact .inl (by simpa [sessionHandle, log, hhandle, hfound] using hmem)
    · simp [Response.isAnswer] at hresp
  · simp [Response.isAnswer] at hresp

theorem owned_step {label : Label Unit} (howned : system.Owned) (hinv : Conducted bufferCount system)
    (hscope : system.completionScope label) (hstep : system.step label = some next) :
    next.Owned := by
  have hsession := hinv.session
  cases label with
  | sessionHandle =>
      have hframe := sessionFrame_step rfl hstep
      obtain ⟨resp, hpc, -, rfl⟩ := step_sessionHandle.mp hstep
      rw [hpc] at hsession
      exact owned_sessionHandle howned hinv.sound hsession hframe
  | sessionReply sent =>
      have hframe := sessionFrame_step rfl hstep
      obtain ⟨reply, hpc, rfl⟩ := step_sessionReply.mp hstep
      obtain rfl : sent = true := hscope
      rw [hpc] at hsession
      cases reply with
      | pubrel waiting packetId =>
          have howner := howned.inHand waiting (by rw [hpc]; rfl)
          refine owned_session howned hframe howned.entries ?_ fun other resp hmem => .inl ?_
          · intro other hmem
            obtain rfl : { waiting with type := .pubcomp, data := .pubcomp packetId } = other := by
              simpa [sessionReply, log, afterReply, SessionPc.inHand] using hmem
            exact howner
          · simpa [sessionReply, log, afterReply] using hmem
      | _ => exact hsession.elim
  | sessionRegister =>
      have hframe := sessionFrame_step rfl hstep
      obtain ⟨waiting, hpc, -, rfl⟩ := step_sessionRegister.mp hstep
      refine owned_session howned hframe ?_ (by simp [sessionRegister, SessionPc.inHand])
        fun _ _ => .inl
      intro other hmem
      obtain hmem | rfl := mem_sessionRegister.mp hmem
      · exact howned.entries other hmem
      · exact howned.inHand other (by rw [hpc]; rfl)
  | sessionTop | sessionSend | sessionRequeue | sessionReceive =>
      exact owned_transfer howned (sessionFrame_step rfl hstep) (transferFrame_step rfl hstep)
  | _ => exact owned_api howned (apiFrame_step (by simp [Label.isSession]) hstep)

/-! ### The invariant of a run -/

structure Answering (bufferCount : UInt16) (system : System Unit) : Prop where
  conducted : Conducted bufferCount system
  counted : system.Counted
  owned : system.Owned
  balanced : system.desk.Balanced
  numbered : system.desk.Numbered renewal
  traced : system.desk.Traced renewal

theorem answering_step {label : Label Unit} (hinv : Answering bufferCount system)
    (hscope : system.completionScope label) (hstep : system.step label = some next) :
    Answering bufferCount next := by
  have hdesk := desk_step hinv.conducted hscope hstep
  exact ⟨conducted_step hinv.conducted hscope hstep,
    counted_step hinv.counted hinv.conducted.sound hscope hstep,
    owned_step hinv.owned hinv.conducted hscope hstep, hdesk.balanced hinv.balanced,
    hdesk.numbered hinv.balanced hinv.numbered,
    hdesk.traced renewal_renewal hinv.balanced hinv.traced⟩

theorem answering_init (uninitialised : Client) (msgCallback : Callback) (msgCbContext : Nat)
    (bufferCount : UInt16) (bufferSize : Nat) :
    Answering bufferCount
      (init (connectedClient uninitialised msgCallback msgCbContext) bufferCount bufferSize) where
  conducted :=
    { sound := sound_init _ bufferCount bufferSize
      slots := slots_init _ bufferCount bufferSize
      order := inOrder_init _ bufferCount bufferSize
      tracked := tracked_init _ bufferCount bufferSize
      session := trivial }
  counted := ⟨rfl, by simp [publishCalls, requests, init, start], rfl, rfl, rfl⟩
  owned := ⟨by simp [init, start, startSessionThread], by simp [init, start, SessionPc.inHand],
    by simp [init, start]⟩
  balanced := Desk.State.balanced_empty
  numbered := Desk.State.numbered_empty
  traced := Desk.State.traced_empty

/-! ### Ids tell requests apart -/

/-- A record of a publish or a ping. -/
theorem Tracked.record_answer {waiting : Waiting} {answer : Response}
    (htracked : system.Tracked AnswerAgrees) (hmem : waiting ∈ system.records)
    (hanswer : waiting.answer = some answer) :
    answer = .pingresp ∨ ∃ packetId, waiting.publishId = some packetId ∧
      (answer = .puback packetId ∨ answer = .pubrec packetId) := by
  obtain ⟨request, client, -, hwaiting⟩ := htracked.requested waiting hmem
  cases request with
  | ping callback context =>
      rw [← Option.some.inj hwaiting] at hanswer
      exact .inl (Option.some.inj hanswer).symm
  | publish topic msg qos retain callback context =>
      simp only [Request.waiting] at hwaiting
      split_ifs at hwaiting
      · rw [← Option.some.inj hwaiting] at hanswer ⊢
        exact .inr ⟨_, rfl, .inl (Option.some.inj hanswer).symm⟩
      · rw [← Option.some.inj hwaiting] at hanswer ⊢
        exact .inr ⟨_, rfl, .inr (Option.some.inj hanswer).symm⟩
  | subscribe topics subCallback context =>
      rw [← Option.some.inj hwaiting] at hanswer
      simp [Waiting.answer] at hanswer
  | unsubscribe topics callback context =>
      rw [← Option.some.inj hwaiting] at hanswer
      simp [Waiting.answer] at hanswer

theorem acknowledged_of_publishId {request : Request} {client : Client} {serial : Nat}
    {waiting : Waiting} (hwaiting : request.waiting client serial = some waiting)
    (hid : waiting.publishId.isSome) : request.acknowledged := by
  cases request with
  | publish topic msg qos retain callback context =>
      simp only [Request.waiting] at hwaiting
      split_ifs at hwaiting with hone htwo
      · simp [Request.acknowledged, hone]
      · simp [Request.acknowledged, htwo]
  | _ =>
      rw [← Option.some.inj hwaiting] at hid
      simp [Waiting.publishId] at hid

/-- No more ids have been taken than publishes called. -/
theorem length_publishIds_le (htracked : system.Tracked AnswerAgrees) :
    system.publishIds.length ≤ system.publishCalls := by
  have hids : system.publishIds.length
      = ((system.records.filter (·.publishId.isSome)).map Waiting.serial).length := by
    rw [publishIds, List.length_map, List.length_filterMap_eq_countP, List.countP_eq_length_filter]
  have hcalls : system.publishCalls
      = ((system.requests.filter (·.2.acknowledged)).map Prod.fst).length := by
    rw [publishCalls, List.length_map, List.countP_eq_length_filter]
  rw [hids, hcalls]
  refine List.Subperm.length_le (List.Nodup.subperm ?_ ?_)
  · exact htracked.distinct.sublist (List.filter_sublist.map _)
  · intro serial hserial
    obtain ⟨waiting, hmem, rfl⟩ := List.mem_map.mp hserial
    obtain ⟨hrecord, hid⟩ := List.mem_filter.mp hmem
    obtain ⟨request, client, hrequest, hwaiting⟩ := htracked.requested waiting hrecord
    refine List.mem_map.mpr ⟨(waiting.serial, request), List.mem_filter.mpr ⟨hrequest, ?_⟩, rfl⟩
    exact acknowledged_of_publishId hwaiting hid

theorem Counted.publishIds_nodup (hcounted : system.Counted)
    (htracked : system.Tracked AnswerAgrees) : system.publishIds.Nodup := by
  have hlength := (length_publishIds_le htracked).trans hcounted.bound
  rw [hcounted.ids]
  refine List.Nodup.map_on ?_ List.nodup_range
  intro left hleft right hright heq
  rw [List.mem_range] at hleft hright
  have hsize : UInt16.size = 65536 := rfl
  have hvalue := congrArg UInt16.toNat heq
  rw [UInt16.toNat_ofNat_of_lt' (by omega), UInt16.toNat_ofNat_of_lt' (by omega)] at hvalue
  omega

/-- Two records that wait for the same answer, other than a PINGRESP, are the same. -/
theorem record_unique {left right : Waiting} {answer : Response} (hcounted : system.Counted)
    (htracked : system.Tracked AnswerAgrees) (hleft : left ∈ system.records)
    (hright : right ∈ system.records) (hanswerLeft : left.answer = some answer)
    (hanswerRight : right.answer = some answer) (hping : answer ≠ .pingresp) : left = right := by
  have hpairwise := List.pairwise_filterMap.mp (hcounted.publishIds_nodup htracked)
  obtain rfl | ⟨packetId, hid, hanswer⟩ := htracked.record_answer hleft hanswerLeft
  · exact absurd rfl hping
  obtain rfl | ⟨otherId, hother, hotherAnswer⟩ := htracked.record_answer hright hanswerRight
  · exact absurd rfl hping
  have hsymm : Std.Symm fun first second : Waiting =>
      ∀ id, first.publishId = some id → ∀ other, second.publishId = some other → id ≠ other :=
    ⟨fun first second hdistinct id hid other hother => (hdistinct other hother id hid).symm⟩
  have hsame : otherId = packetId := by
    obtain rfl | rfl := hanswer <;> simpa [eq_comm] using hotherAnswer
  by_contra hne
  exact hpairwise.forall hleft hright hne packetId hid otherId hother hsame.symm

/-! ### What has been answered -/

/-- The callbacks that have run. -/
def callbacks (system : System Unit) : List (Waiting × Response) :=
  system.events.filterMap Event.callbackRun

/-- The answers that have been dealt with, by the request they were matched with. -/
def served (system : System Unit) : List (Nat × Response) := system.events.filterMap Event.served

def answers (system : System Unit) : List Response := system.events.filterMap Event.answer

/-- The last answer to a request: for a publish at QoS 2 the PUBCOMP, with the PUBREC dealt with
before. -/
def Concludes (system : System Unit) (serial : Nat) (outgoing : Outgoing) (resp : Response) :
    Request → Prop
  | .ping _ _ => outgoing.answer = some .pingresp ∧ resp = .pingresp
  | .publish _ _ qos _ _ _ => ∃ packetId,
      qos = QoS1 ∧ outgoing.answer = some (.puback packetId) ∧ resp = .puback packetId ∨
      qos = QoS2 ∧ outgoing.answer = some (.pubrec packetId) ∧ resp = .pubcomp packetId ∧
        [(serial, .pubrec packetId), (serial, .pubcomp packetId)].Sublist system.served
  | _ => False

/-- The pings whose callbacks have run, in that order. -/
def pingCallbacks (system : System Unit) : List Nat :=
  (system.callbacks.filter (·.2 = .pingresp)).map fun run => run.1.serial

structure Completes (system : System Unit) : Prop where
  numbered : system.requests.map Prod.fst = List.range system.calls
  found : ∀ resp, system.session = .handling resp → ∃ type packetId waiting ackQueue,
    resp.key = some (type, packetId) ∧
    dequeueByTypeAndId system.client.ackQueue type packetId = some (.found waiting, ackQueue) ∧
    ∀ serial outgoing, (serial, outgoing) ∈ system.enqueuedCalls →
      outgoing.answer = some resp.first → resp ≠ .pingresp → waiting.serial = serial
  once : (system.callbacks.map fun run => run.1.serial).Nodup
  own : ∀ waiting resp, (waiting, resp) ∈ system.callbacks → ∃ request outgoing,
    (waiting.serial, request) ∈ system.requests ∧ request.callback = waiting.callback ∧
    request.context = waiting.context ∧ (waiting.serial, outgoing) ∈ system.enqueuedCalls ∧
    system.Concludes waiting.serial outgoing resp request
  pings : system.pingCallbacks <+: system.pingCalls
  pingCount : system.answers.count .pingresp
    = system.pingCallbacks.length + system.session.turn.pending.count .pingresp

theorem mem_issued {serial : Nat} {answer : Response} :
    (serial, answer) ∈ system.desk.issued ↔
      ∃ record ∈ system.records, record.serial = serial ∧ record.answer = some answer := by
  change (serial, answer) ∈ system.records.filterMap Waiting.ticket ↔ _
  rw [List.mem_filterMap]
  refine exists_congr fun record => and_congr_right fun _ => ?_
  rw [Waiting.ticket, Option.map_eq_some_iff]
  constructor
  · rintro ⟨other, hother, heq⟩
    obtain ⟨rfl, rfl⟩ := Prod.mk.inj heq
    exact ⟨rfl, hother⟩
  · rintro ⟨rfl, hanswer⟩
    exact ⟨answer, hanswer, rfl⟩

/-- A request is matched with answers of one exchange, whose first answer it was recorded with. -/
theorem first_of_origin {serial : Nat} {resp : Response} (htracked : system.Tracked AnswerAgrees)
    (horigin : (serial, resp) ∈ system.desk.issued ∨
      ∃ first, (serial, first) ∈ system.desk.issued ∧ renewal first = some resp) :
    (serial, resp.first) ∈ system.desk.issued := by
  obtain hissued | ⟨first, hissued, hrenewal⟩ := horigin
  · obtain ⟨record, hmem, -, hanswer⟩ := mem_issued.mp hissued
    obtain rfl | ⟨packetId, -, rfl | rfl⟩ := htracked.record_answer hmem hanswer <;> exact hissued
  · cases first <;> simp only [renewal, Option.some.injEq, reduceCtorEq] at hrenewal
    rw [← hrenewal]
    exact hissued

theorem Answering.found {resp : Response} (hinv : Answering bufferCount system)
    (hpc : system.session = .handling resp) :
    ∃ type packetId waiting ackQueue, resp.key = some (type, packetId) ∧
      dequeueByTypeAndId system.client.ackQueue type packetId = some (.found waiting, ackQueue) ∧
      (waiting.serial, resp) ∈ system.desk.waiting := by
  have hresp : resp.isAnswer := by
    have hsession := hinv.conducted.session
    rwa [hpc] at hsession
  have hentries := hinv.conducted.sound.entries
  obtain ⟨type, packetId, hkey⟩ := key_of_isAnswer hresp
  obtain ⟨serial, hticket⟩ := hinv.balanced.exists_ticket (by rw [desk, hpc]; rfl)
  obtain ⟨rest, -, hskip, -⟩ | ⟨rest, left, waiting, right, hsplit, -, -, htake, hsearch⟩ :=
    dequeueByTypeAndId_cases type packetId hentries
  · obtain ⟨waiting, hmem, hwaiting⟩ := List.mem_filterMap.mp hticket
    obtain ⟨answer, hanswer, heq⟩ := Option.map_eq_some_iff.mp hwaiting
    obtain ⟨-, rfl⟩ := Prod.mk.inj heq
    have htake := (take_iff_answer (hentries waiting hmem) hresp hkey).mpr hanswer
    rw [hskip waiting hmem] at htake
    cases htake
  · have hmem : waiting ∈ system.client.ackQueue.toList := by simp [hsplit]
    have hanswer := (take_iff_answer (hentries waiting hmem) hresp hkey).mp htake
    refine ⟨type, packetId, waiting, rest, hkey, hsearch, List.mem_filterMap.mpr ⟨waiting, hmem, ?_⟩⟩
    rw [Waiting.ticket, hanswer]
    rfl

/-- The record that is found is that of the call whose frame the broker has answered. -/
theorem Answering.serial_eq {resp : Response} {serial other : Nat} {outgoing : Outgoing}
    (hinv : Answering bufferCount system) (hticket : (serial, resp) ∈ system.desk.waiting)
    (hframe : (other, outgoing) ∈ system.enqueuedCalls)
    (hanswer : outgoing.answer = some resp.first) (hping : resp ≠ .pingresp) : serial = other := by
  have htracked := hinv.conducted.tracked
  have hissued : (serial, resp.first) ∈ system.desk.issued := by
    refine first_of_origin htracked ?_
    obtain hissued | ⟨first, hissued, hrenewal, -⟩ := hinv.traced.waiting serial resp hticket
    · exact .inl hissued
    · exact .inr ⟨first, hissued, hrenewal⟩
  obtain ⟨record, hrecord, rfl, hrecordAnswer⟩ := mem_issued.mp hissued
  obtain ⟨waiting, hrecords, hagree⟩ := htracked.agree other outgoing hframe
  rw [AnswerAgrees, hanswer] at hagree
  obtain ⟨otherRecord, rfl, hotherAnswer⟩ := Option.bind_eq_some_iff.mp hagree.symm
  have hother : otherRecord ∈ system.recordsOf other := by simp [hrecords]
  obtain ⟨hmem, hserial⟩ := List.mem_filter.mp hother
  have hfirst : resp.first ≠ .pingresp := by
    cases resp <;> simp_all [Response.first]
  rw [record_unique hinv.counted htracked hrecord hmem hrecordAnswer hotherAnswer hfirst]
  exact of_decide_eq_true hserial

/-! ### The callbacks that have run -/

/-- A match runs a callback or is followed by a PUBREL. -/
theorem Event.served_cases (event : Event) :
    event.served = event.callbackRun.map (fun run => (run.1.serial, run.2)) ∨
      event.callbackRun = none ∧
        ∃ serial packetId, event.served = some (serial, .pubrec packetId) := by
  unfold Event.served
  split
  · exact .inl rfl
  · exact .inr ⟨rfl, _, _, rfl⟩
  · rename_i hcallback hreplied
    cases event with
    | callback waiting resp => exact absurd rfl (hcallback waiting resp)
    | _ => exact .inl rfl

theorem filter_served (keep : Response → Bool)
    (hkeep : ∀ packetId, keep (.pubrec packetId) = false) :
    system.served.filter (fun ticket => keep ticket.2)
      = (system.callbacks.filter fun run => keep run.2).map fun run => (run.1.serial, run.2) := by
  rw [served, callbacks]
  induction system.events with
  | nil => rfl
  | cons event events ih =>
      obtain hserved | ⟨hnone, serial, packetId, hserved⟩ := Event.served_cases event
      · cases hrun : event.callbackRun with
        | none =>
            rw [hrun] at hserved
            rw [List.filterMap_cons_none hserved, List.filterMap_cons_none hrun, ih]
        | some run =>
            rw [hrun] at hserved
            rw [List.filterMap_cons_some hserved, List.filterMap_cons_some hrun]
            cases hkeeps : keep run.2 <;> simp [hkeeps, ih]
      · rw [List.filterMap_cons_some hserved, List.filterMap_cons_none hnone,
          List.filter_cons_of_neg (by simp [hkeep]), ih]

theorem mem_callbacks {waiting : Waiting} {resp : Response} :
    (waiting, resp) ∈ system.callbacks ↔ .callback waiting resp ∈ system.events := by
  rw [callbacks, List.mem_filterMap]
  constructor
  · rintro ⟨event, hmem, hrun⟩
    cases event <;> simp only [Event.callbackRun, Option.some.injEq, reduceCtorEq] at hrun
    obtain ⟨rfl, rfl⟩ := Prod.mk.inj hrun
    exact hmem
  · exact fun hmem => ⟨_, hmem, rfl⟩

theorem Answering.once (hinv : Answering bufferCount system) :
    (system.callbacks.map fun run => run.1.serial).Nodup := by
  have hnodup := hinv.numbered.finished_nodup
  change (Desk.finished renewal system.served).Nodup at hnodup
  have hall : system.callbacks.filter (fun run => (renewal run.2).isNone) = system.callbacks := by
    apply List.filter_eq_self.mpr
    rintro ⟨waiting, resp⟩ hmem
    rw [(hinv.owned.callbacks waiting resp (mem_callbacks.mp hmem)).2]
    rfl
  rw [Desk.finished, filter_served (fun resp => (renewal resp).isNone) fun _ => rfl, hall,
    List.map_map] at hnodup
  exact hnodup

theorem answer_eq_pingresp {waiting : Waiting} :
    waiting.answer = some .pingresp ↔ waiting.type = .pingresp := by
  unfold Waiting.answer
  split <;> simp_all

theorem pingRecords_eq :
    (system.desk.issued.filter (·.2 = .pingresp)).map Prod.fst = system.pingRecords := by
  change ((system.records.filterMap Waiting.ticket).filter _).map _ = _
  rw [pingRecords]
  induction system.records with
  | nil => rfl
  | cons waiting records ih =>
      cases hanswer : waiting.answer with
      | none =>
          have htype : waiting.type ≠ .pingresp := by simp [← answer_eq_pingresp, hanswer]
          rw [List.filterMap_cons_none (by rw [Waiting.ticket, hanswer]; rfl), ih,
            List.filter_cons_of_neg (by simpa using htype)]
      | some answer =>
          rw [List.filterMap_cons_some (by rw [Waiting.ticket, hanswer]; rfl)]
          by_cases hping : answer = .pingresp
          · have htype := answer_eq_pingresp.mp (hping ▸ hanswer)
            simp [hping, htype, ih]
          · have htype : waiting.type ≠ .pingresp := by
              simpa [← answer_eq_pingresp, hanswer] using hping
            simp [hping, htype, ih]

theorem pingCallbacks_eq :
    system.pingCallbacks = (system.served.filter (·.2 = .pingresp)).map Prod.fst := by
  rw [filter_served (fun resp => decide (resp = .pingresp)) fun _ => rfl, List.map_map]
  rfl

theorem Answering.pings (hinv : Answering bufferCount system) :
    system.pingCallbacks <+: system.pingCalls := by
  have horder := hinv.traced.order .pingresp (by intro first; cases first <;> simp [renewal])
  have hissued := congrArg (List.map Prod.fst) horder
  rw [pingRecords_eq, List.filter_append, List.map_append, List.map_append] at hissued
  change system.pingRecords = (system.served.filter (·.2 = .pingresp)).map Prod.fst ++ _ ++ _
    at hissued
  rw [← pingCallbacks_eq] at hissued
  rw [hinv.counted.pings, hissued, List.append_assoc, List.append_assoc]
  exact List.prefix_append _ _

theorem Answering.pingCount (hinv : Answering bufferCount system) :
    system.answers.count .pingresp
      = system.pingCallbacks.length + system.session.turn.pending.count .pingresp := by
  have hreceived : system.answers = system.served.map Prod.snd ++ system.session.turn.pending
      ++ system.session.turn.held.map Prod.snd := hinv.traced.received
  have hheld : (system.session.turn.held.map Prod.snd).count .pingresp = 0 := by
    cases hturn : system.session.turn with
    | holding serial answer next =>
        have hrenewal := hinv.numbered.held serial answer next hturn
        cases answer <;> simp_all [renewal, Desk.Turn.held]
    | _ => rfl
  have hserved : (system.served.map Prod.snd).count .pingresp = system.pingCallbacks.length := by
    rw [pingCallbacks_eq, List.length_map, ← List.countP_eq_length_filter, List.count,
      List.countP_map]
    congr 1
  calc system.answers.count .pingresp
      = (system.served.map Prod.snd).count .pingresp + system.session.turn.pending.count .pingresp
          + (system.session.turn.held.map Prod.snd).count .pingresp := by
        rw [hreceived, List.count_append, List.count_append]
    _ = system.pingCallbacks.length + system.session.turn.pending.count .pingresp := by
        rw [hheld, hserved, Nat.add_zero]

theorem mem_served_of_callback {waiting : Waiting} {resp : Response}
    (hmem : .callback waiting resp ∈ system.events) : (waiting.serial, resp) ∈ system.served :=
  List.mem_filterMap.mpr ⟨_, hmem, rfl⟩

/-- A request whose first answer has been dealt with has left its critical sections. -/
theorem Answering.enqueued {record : Waiting} {answer : Response}
    (hinv : Answering bufferCount system) (hrecord : record ∈ system.records)
    (hanswer : record.answer = some answer) (hserved : (record.serial, answer) ∈ system.served) :
    ∃ outgoing, (record.serial, outgoing) ∈ system.enqueuedCalls ∧
      outgoing.answer = some answer := by
  have htracked := hinv.conducted.tracked
  have hrecords : ∀ waiting : Option Waiting,
      system.recordsOf record.serial = waiting.toList → waiting = some record := by
    intro waiting hwaiting
    have hmem : record ∈ system.recordsOf record.serial := List.mem_filter.mpr ⟨hrecord, by simp⟩
    rw [hwaiting] at hmem
    exact Option.mem_toList.mp hmem
  obtain ⟨outgoing, henqueued⟩ | ⟨slot, outgoing, hpc⟩ := htracked.queued record hrecord
  · obtain ⟨waiting, hwaiting, hagree⟩ := htracked.agree _ _ henqueued
    rw [AnswerAgrees, hrecords waiting hwaiting] at hagree
    exact ⟨outgoing, henqueued, hagree.trans hanswer⟩
  · -- The frame is not in `send_queue` yet, so no answer to it can have come.
    have hpcTracked := htracked.pc
    rw [hpc] at hpcTracked
    obtain ⟨-, -, waiting, hwaiting, ⟨before, hlast⟩, hagree⟩ := hpcTracked
    obtain rfl := hrecords waiting hwaiting
    have hissued : system.desk.issued
        = before.filterMap Waiting.ticket ++ [(record.serial, answer)] := by
      change system.records.filterMap Waiting.ticket = _
      rw [← hlast, List.filterMap_append]
      simp [Waiting.ticket, hanswer]
    have hunsent : answer ∈ system.desk.unsent := by
      refine List.mem_append_right _ ?_
      rw [hpc, ApiPc.unsent, hagree.trans hanswer]
      exact List.mem_cons_self
    have hfirst : ∀ first, renewal first ≠ some answer := by
      intro first hrenewal
      cases first <;> simp only [renewal, Option.some.injEq, reduceCtorEq] at hrenewal
      obtain rfl | ⟨packetId, -, rfl | rfl⟩ := htracked.record_answer hrecord hanswer <;>
        cases hrenewal
    exact absurd hserved
      (hinv.traced.notMem_served hinv.numbered hinv.balanced hissued hunsent hfirst)

/-- What the record of a publish or a ping has from its request. -/
theorem Request.callback_of_waiting {request : Request} {client : Client} {serial : Nat}
    {waiting : Waiting} {answer : Response}
    (hwaiting : request.waiting client serial = some waiting)
    (hanswer : waiting.answer = some answer) :
    request.callback = waiting.callback ∧ request.context = waiting.context := by
  cases request with
  | publish topic msg qos retain callback context =>
      simp only [Request.waiting] at hwaiting
      split_ifs at hwaiting <;> rw [← Option.some.inj hwaiting] <;> exact ⟨rfl, rfl⟩
  | ping callback context =>
      rw [← Option.some.inj hwaiting]
      exact ⟨rfl, rfl⟩
  | _ =>
      rw [← Option.some.inj hwaiting] at hanswer
      simp [Waiting.answer] at hanswer

/-- An answer that is not followed by another concludes the request that is recorded for it. -/
theorem concludes_of_first {request : Request} {client : Client} {serial : Nat} {waiting : Waiting}
    {outgoing : Outgoing} {resp : Response}
    (hwaiting : request.waiting client serial = some waiting) (hanswer : waiting.answer = some resp)
    (houtgoing : outgoing.answer = some resp) (hrenewal : renewal resp = none) :
    system.Concludes serial outgoing resp request := by
  cases request with
  | ping callback context =>
      rw [← Option.some.inj hwaiting] at hanswer
      obtain rfl := Option.some.inj hanswer
      exact ⟨houtgoing, rfl⟩
  | publish topic msg qos retain callback context =>
      simp only [Request.waiting] at hwaiting
      split_ifs at hwaiting with hone htwo
      · rw [← Option.some.inj hwaiting] at hanswer
        obtain rfl := Option.some.inj hanswer
        exact ⟨_, .inl ⟨hone, houtgoing, rfl⟩⟩
      · rw [← Option.some.inj hwaiting] at hanswer
        obtain rfl := Option.some.inj hanswer
        simp [renewal] at hrenewal
  | _ =>
      rw [← Option.some.inj hwaiting] at hanswer
      simp [Waiting.answer] at hanswer

theorem concludes_of_second {request : Request} {client : Client} {serial : Nat}
    {waiting : Waiting} {outgoing : Outgoing} {first resp : Response}
    (hwaiting : request.waiting client serial = some waiting)
    (hanswer : waiting.answer = some first) (houtgoing : outgoing.answer = some first)
    (hrenewal : renewal first = some resp)
    (hserved : [(serial, first), (serial, resp)].Sublist system.served) :
    system.Concludes serial outgoing resp request := by
  cases first <;> simp only [renewal, Option.some.injEq, reduceCtorEq] at hrenewal
  obtain rfl := hrenewal
  cases request with
  | publish topic msg qos retain callback context =>
      simp only [Request.waiting] at hwaiting
      split_ifs at hwaiting with hone htwo
      · rw [← Option.some.inj hwaiting] at hanswer
        simp [Waiting.answer] at hanswer
      · exact ⟨_, .inr ⟨htwo, houtgoing, rfl, hserved⟩⟩
  | _ =>
      rw [← Option.some.inj hwaiting] at hanswer
      simp [Waiting.answer] at hanswer

theorem Answering.own {waiting : Waiting} {resp : Response} (hinv : Answering bufferCount system)
    (hmem : (waiting, resp) ∈ system.callbacks) : ∃ request outgoing,
      (waiting.serial, request) ∈ system.requests ∧ request.callback = waiting.callback ∧
      request.context = waiting.context ∧ (waiting.serial, outgoing) ∈ system.enqueuedCalls ∧
      system.Concludes waiting.serial outgoing resp request := by
  have htracked := hinv.conducted.tracked
  have hevent := mem_callbacks.mp hmem
  obtain ⟨⟨record, hrecord, hserial, hcallback, hcontext⟩, hrenewal⟩ :=
    hinv.owned.callbacks waiting resp hevent
  obtain ⟨request, client, hrequest, hwaiting⟩ := htracked.requested record hrecord
  have hissued : ∀ first, (waiting.serial, first) ∈ system.desk.issued →
      record.answer = some first := by
    intro first hmem
    obtain ⟨other, hother, hsame, hanswer⟩ := mem_issued.mp hmem
    rwa [← List.inj_on_of_nodup_map htracked.distinct hother hrecord (hsame.trans hserial.symm)]
  have hserved := mem_served_of_callback hevent
  rw [← hserial, ← hcallback, ← hcontext]
  rw [← hserial] at hissued hserved
  obtain hfirst | ⟨first, hfirst, hrenewed, hsublist⟩ := hinv.traced.served _ _ hserved
  · obtain ⟨hownCallback, hownContext⟩ := Request.callback_of_waiting hwaiting (hissued resp hfirst)
    obtain ⟨outgoing, henqueued, houtgoing⟩ :=
      hinv.enqueued hrecord (hissued resp hfirst) hserved
    exact ⟨request, outgoing, hrequest, hownCallback, hownContext, henqueued,
      concludes_of_first hwaiting (hissued resp hfirst) houtgoing hrenewal⟩
  · obtain ⟨hownCallback, hownContext⟩ := Request.callback_of_waiting hwaiting (hissued first hfirst)
    have hbefore : (record.serial, first) ∈ system.served := hsublist.subset List.mem_cons_self
    obtain ⟨outgoing, henqueued, houtgoing⟩ :=
      hinv.enqueued hrecord (hissued first hfirst) hbefore
    exact ⟨request, outgoing, hrequest, hownCallback, hownContext, henqueued,
      concludes_of_second hwaiting (hissued first hfirst) houtgoing hrenewed hsublist⟩

theorem Answering.completes (hinv : Answering bufferCount system) : system.Completes where
  numbered := hinv.conducted.tracked.numbered
  found resp hpc := by
    obtain ⟨type, packetId, waiting, ackQueue, hkey, hsearch, hticket⟩ := hinv.found hpc
    exact ⟨type, packetId, waiting, ackQueue, hkey, hsearch, fun serial outgoing hframe hanswer
      hping => hinv.serial_eq hticket hframe hanswer hping⟩
  once := hinv.once
  own _ _ := hinv.own
  pings := hinv.pings
  pingCount := hinv.pingCount

/-- **Outbound completion.** In every run of publishes and pings with callbacks, against a broker
that answers what it has been sent, each answer finds the record of its request, and callbacks run
once, for their own request, on the answer that concludes it. -/
theorem requests_complete {uninitialised : Client} {msgCallback : Callback} {msgCbContext : Nat}
    {bufferSize : Nat} {labels : List (Label Unit)}
    (hscope : Run.Along step (fun system label => system.completionScope label = true)
      (init (connectedClient uninitialised msgCallback msgCbContext) bufferCount bufferSize) labels)
    (hrun : Run.exec step
      (init (connectedClient uninitialised msgCallback msgCbContext) bufferCount bufferSize) labels
      = some system) : system.Completes := by
  have hinv : Answering bufferCount system := Run.invariant_along (Answering bufferCount)
    (fun _ _ _ hinv hscope hstep => answering_step hinv hscope hstep)
    (answering_init uninitialised msgCallback msgCbContext bufferCount bufferSize) hscope hrun
  exact hinv.completes

/-- A publish at QoS 1, one at QoS 2 and a ping, answered in another order than they were sent. -/
theorem three_requests_complete : ∃ (labels : List (Label Unit)) (system : System Unit),
    Run.exec step (init (connectedClient zeroClient none 0) 10 1024) labels = some system ∧
      (system.callbacks.map fun run => (run.1.serial, run.1.context, run.2))
        = [(2, 7, .pingresp), (1, 6, .pubcomp 2), (0, 5, .puback 1)] ∧ system.Completes := by
  let start : System Unit := init (connectedClient zeroClient none 0) 10 1024
  let topic : CString := ⟨[116], by decide⟩
  let send (request : Request) : List (Label Unit) := [.call () request, .lockSlot (),
    .serialize (), .enqueueWaiting (), .enqueueSlot (), .sessionTop, .sessionSend true,
    .sessionRequeue, .sessionReceive (fun _ => 0) 0 none]
  let receive (resp : Response) : List (Label Unit) :=
    [.sessionTop, .sessionReceive (fun _ => 0) 1 (some resp), .sessionHandle]
  let labels : List (Label Unit) := send (.publish topic (some topic) QoS1 false (some 0) 5)
    ++ send (.publish topic (some topic) QoS2 false (some 0) 6) ++ send (.ping (some 0) 7)
    ++ receive .pingresp ++ receive (.pubrec 2) ++ [.sessionReply true, .sessionRegister]
    ++ receive (.pubcomp 2) ++ receive (.puback 1)
  obtain ⟨system, hrun⟩ : ∃ system, Run.exec step start labels = some system :=
    Option.isSome_iff_exists.mp (by decide)
  have hseen : (Run.exec step start labels).map (fun system =>
      system.callbacks.map fun run => (run.1.serial, run.1.context, run.2))
        = some [(2, 7, .pingresp), (1, 6, .pubcomp 2), (0, 5, .puback 1)] := by
    decide
  rw [hrun] at hseen
  have hscope :
      Run.Along step (fun system label => system.completionScope label = true) start labels := by
    decide
  exact ⟨labels, system, hrun, Option.some.inj hseen, requests_complete hscope hrun⟩

end System

end Smqtt
