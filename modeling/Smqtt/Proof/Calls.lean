import Smqtt.Proof.Steps

/-!
# What a call leaves behind

One thread makes calls. Each call has a number, leaves at most one record and queues one frame. What
holds between the two when the frame is serialized holds between them for good, whatever the session
thread does: only the calling thread moves the counter for packet ids.
-/

namespace Smqtt

def Event.record : Event → Option Waiting
  | registered waiting => some waiting
  | _ => none

/-- The frame a call has queued, with the number of the call. -/
def Event.enqueuedCall : Event → Option (Nat × Outgoing)
  | enqueued serial outgoing => some (serial, outgoing)
  | _ => none

def Event.calledRequest : Event → Option (Nat × Request)
  | called serial request => some (serial, request)
  | _ => none

theorem Event.record_of_isSession {event : Event} (hsession : event.isSession) :
    event.record = none ∧ event.enqueuedCall = none ∧ event.calledRequest = none := by
  cases event <;> first | exact ⟨rfl, rfl, rfl⟩ | simp [Event.isSession] at hsession

theorem Request.waiting_congr {client other : Client}
    (hid : other.publishPacketId = client.publishPacketId) (serial : Nat) (request : Request) :
    request.waiting other serial = request.waiting client serial := by
  cases request <;> simp [Request.waiting, hid]

theorem Request.serial_of_waiting {client : Client} {serial : Nat} {request : Request}
    {waiting : Waiting} (hwaiting : request.waiting client serial = some waiting) :
    waiting.serial = serial := by
  cases request with
  | publish topic msg qos retain callback context =>
      simp only [Request.waiting] at hwaiting
      split_ifs at hwaiting <;> exact Option.some.inj hwaiting ▸ rfl
  | _ => exact Option.some.inj hwaiting ▸ rfl

namespace System

section History

variable {Tid : Type}

def records (system : System Tid) : List Waiting := system.events.filterMap Event.record

def enqueuedCalls (system : System Tid) : List (Nat × Outgoing) :=
  system.events.filterMap Event.enqueuedCall

def requests (system : System Tid) : List (Nat × Request) :=
  system.events.filterMap Event.calledRequest

/-- What the call with this number has recorded. -/
def recordsOf (system : System Tid) (serial : Nat) : List Waiting :=
  system.records.filter (·.serial = serial)

end History

/-- Nothing is known of a call by its number. -/
structure Unseen (system : System Unit) (serial : Nat) : Prop where
  record : ∀ waiting ∈ system.records, waiting.serial ≠ serial
  frame : ∀ outgoing, (serial, outgoing) ∉ system.enqueuedCalls

variable (Agree : Outgoing → Option Waiting → Prop)

/-- What the thread's position says about the call that it is in. -/
def CallTracked (system : System Unit) : ApiPc → Prop
  | .idle => True
  | .wanting serial request => (serial, request) ∈ system.requests ∧ system.Unseen serial
  | .spinning serial request => (serial, request) ∈ system.requests ∧ system.Unseen serial
  | .serializing serial request _ => (serial, request) ∈ system.requests ∧ system.Unseen serial
  | .registering serial request _ outgoing => (serial, request) ∈ system.requests ∧
      system.Unseen serial ∧ Agree outgoing (request.waiting system.client serial)
  | .enqueueing serial _ outgoing => serial < system.calls ∧
      (∀ other, (serial, other) ∉ system.enqueuedCalls) ∧
      ∃ waiting, system.recordsOf serial = waiting.toList ∧ waiting.toList <:+ system.records ∧
        Agree outgoing waiting

/-- Calls are numbered, every record is that of a call, and what a call has recorded agrees with
what it has queued. -/
structure Tracked (system : System Unit) : Prop where
  numbered : system.requests.map Prod.fst = List.range system.calls
  fresh : ∀ serial, system.calls ≤ serial → system.Unseen serial
  pc : system.CallTracked Agree (system.api ())
  distinct : (system.records.map Waiting.serial).Nodup
  requested : ∀ waiting ∈ system.records, ∃ request client,
    (waiting.serial, request) ∈ system.requests ∧
      request.waiting client waiting.serial = some waiting
  queued : ∀ waiting ∈ system.records,
    (∃ outgoing, (waiting.serial, outgoing) ∈ system.enqueuedCalls) ∨
      ∃ slot outgoing, system.api () = .enqueueing waiting.serial slot outgoing
  agree : ∀ serial outgoing, (serial, outgoing) ∈ system.enqueuedCalls →
    ∃ waiting, system.recordsOf serial = waiting.toList ∧ Agree outgoing waiting

variable {Agree} {system next : System Unit}

theorem Unseen.of_eq {serial : Nat} (hunseen : system.Unseen serial)
    (hrecords : next.records = system.records)
    (henqueued : next.enqueuedCalls = system.enqueuedCalls) : next.Unseen serial :=
  ⟨hrecords ▸ hunseen.record, henqueued ▸ hunseen.frame⟩

theorem recordsOf_of_unseen {serial : Nat} (hunseen : system.Unseen serial) :
    system.recordsOf serial = [] :=
  List.filter_eq_nil_iff.mpr fun waiting hmem => by simpa using hunseen.record waiting hmem

theorem Tracked.lt_calls {serial : Nat} {request : Request} (htracked : system.Tracked Agree)
    (hmem : (serial, request) ∈ system.requests) : serial < system.calls := by
  have hserial : serial ∈ system.requests.map Prod.fst := List.mem_map_of_mem hmem
  rw [htracked.numbered] at hserial
  exact List.mem_range.mp hserial

theorem CallTracked.of_eq {pc : ApiPc} (htracked : system.CallTracked Agree pc)
    (hrequests : system.requests ⊆ next.requests) (hrecords : next.records = system.records)
    (henqueued : next.enqueuedCalls = system.enqueuedCalls) (hcalls : system.calls ≤ next.calls)
    (hid : next.client.publishPacketId = system.client.publishPacketId) :
    next.CallTracked Agree pc := by
  cases pc with
  | idle => trivial
  | wanting serial request =>
      exact ⟨hrequests htracked.1, htracked.2.of_eq hrecords henqueued⟩
  | spinning serial request =>
      exact ⟨hrequests htracked.1, htracked.2.of_eq hrecords henqueued⟩
  | serializing serial request slot =>
      exact ⟨hrequests htracked.1, htracked.2.of_eq hrecords henqueued⟩
  | registering serial request slot outgoing =>
      obtain ⟨hrequest, hunseen, hagree⟩ := htracked
      refine ⟨hrequests hrequest, hunseen.of_eq hrecords henqueued, ?_⟩
      rwa [Request.waiting_congr hid]
  | enqueueing serial slot outgoing =>
      obtain ⟨hserial, hframe, waiting, hwaiting, hlast, hagree⟩ := htracked
      refine ⟨hserial.trans_le hcalls, henqueued ▸ hframe, waiting, ?_, hrecords ▸ hlast, hagree⟩
      rwa [recordsOf, hrecords]

/-- A step of the thread that neither records nor queues. -/
theorem Tracked.of_eq (htracked : system.Tracked Agree)
    (hrequests : next.requests = system.requests) (hrecords : next.records = system.records)
    (henqueued : next.enqueuedCalls = system.enqueuedCalls) (hcalls : next.calls = system.calls)
    (hid : next.client.publishPacketId = system.client.publishPacketId)
    (hpc : system.CallTracked Agree (next.api ()))
    (hqueueing : ∀ serial slot outgoing, system.api () = .enqueueing serial slot outgoing →
      next.api () = .enqueueing serial slot outgoing) : next.Tracked Agree := by
  refine ⟨?_, ?_, hpc.of_eq (fun _ => (hrequests ▸ ·)) hrecords henqueued hcalls.ge hid, ?_, ?_, ?_,
    ?_⟩
  · rw [hrequests, hcalls]
    exact htracked.numbered
  · intro serial hserial
    exact (htracked.fresh serial (hcalls ▸ hserial)).of_eq hrecords henqueued
  · rw [hrecords]
    exact htracked.distinct
  · rw [hrecords, hrequests]
    exact htracked.requested
  · rw [hrecords, henqueued]
    intro waiting hmem
    obtain hframe | ⟨slot, outgoing, hapi⟩ := htracked.queued waiting hmem
    · exact .inl hframe
    · exact .inr ⟨slot, outgoing, hqueueing _ _ _ hapi⟩
  · rw [henqueued]
    simp only [recordsOf, hrecords]
    exact htracked.agree

/-- A call that has just been made. -/
theorem Tracked.of_call {request : Request} (htracked : system.Tracked Agree)
    (hrequests : next.requests = system.requests ++ [(system.calls, request)])
    (hrecords : next.records = system.records)
    (henqueued : next.enqueuedCalls = system.enqueuedCalls)
    (hcalls : next.calls = system.calls + 1) (hidle : system.api () = .idle)
    (hpc : next.CallTracked Agree (next.api ())) : next.Tracked Agree := by
  refine ⟨?_, ?_, hpc, ?_, ?_, ?_, ?_⟩
  · rw [hrequests, hcalls, List.map_append, htracked.numbered, List.range_succ]
    rfl
  · intro serial hserial
    exact (htracked.fresh serial (by omega)).of_eq hrecords henqueued
  · rw [hrecords]
    exact htracked.distinct
  · rw [hrecords, hrequests]
    intro waiting hmem
    obtain ⟨request, client, hrequest, hwaiting⟩ := htracked.requested waiting hmem
    exact ⟨request, client, List.mem_append_left _ hrequest, hwaiting⟩
  · rw [hrecords, henqueued]
    intro waiting hmem
    obtain hframe | ⟨slot, outgoing, hapi⟩ := htracked.queued waiting hmem
    · exact .inl hframe
    · simp [hidle] at hapi
  · rw [henqueued]
    simp only [recordsOf, hrecords]
    exact htracked.agree

theorem tracked_call {request : Request} (htracked : system.Tracked Agree)
    (hpc : system.api () = .idle) : (system.call () request).Tracked Agree := by
  cases hrefused : request.refused system.client with
  | some status =>
      rw [call_of_refused hrefused]
      have hrequests : { system with calls := system.calls + 1, events := system.events
          ++ [Event.called system.calls request, Event.refused system.calls status] }.requests
          = system.requests ++ [(system.calls, request)] := by
        simp [requests, Event.calledRequest]
      refine htracked.of_call hrequests ?_ ?_ rfl hpc (by simp [hpc, CallTracked])
      · simp [records, Event.record]
      · simp [enqueuedCalls, Event.enqueuedCall]
  | none =>
      rw [call_of_accepted hrefused]
      have hrequests : ({ system with calls := system.calls + 1, events := system.events
          ++ [Event.called system.calls request] }.setApi () (.wanting system.calls request)).requests
          = system.requests ++ [(system.calls, request)] := by
        simp [requests, setApi, Event.calledRequest]
      refine htracked.of_call hrequests ?_ ?_ rfl hpc ⟨?_, ?_⟩
      · simp [records, setApi, Event.record]
      · simp [enqueuedCalls, setApi, Event.enqueuedCall]
      · rw [hrequests]
        exact List.mem_append_right _ List.mem_cons_self
      · refine (htracked.fresh _ le_rfl).of_eq ?_ ?_
        · simp [records, setApi, Event.record]
        · simp [enqueuedCalls, setApi, Event.enqueuedCall]

theorem tracked_session {label : Label Unit} (htracked : system.Tracked Agree)
    (hlabel : label.isSession) (hstep : system.step label = some next) : next.Tracked Agree := by
  obtain ⟨⟨_, _, _, _, hclient⟩, hapi, -, -, hcalls, events, hevents, hsession⟩ :=
    sessionFrame_step hlabel hstep
  have hrecords : events.filterMap Event.record = [] := List.filterMap_eq_nil_iff.mpr
    fun event hmem => (Event.record_of_isSession (hsession event hmem)).1
  have henqueued : events.filterMap Event.enqueuedCall = [] := List.filterMap_eq_nil_iff.mpr
    fun event hmem => (Event.record_of_isSession (hsession event hmem)).2.1
  have hrequests : events.filterMap Event.calledRequest = [] := List.filterMap_eq_nil_iff.mpr
    fun event hmem => (Event.record_of_isSession (hsession event hmem)).2.2
  refine htracked.of_eq ?_ ?_ ?_ hcalls (by rw [hclient]) (hapi ▸ htracked.pc)
    (fun _ _ _ => (hapi ▸ ·))
  · simp [requests, hevents, hrequests]
  · simp [records, hevents, hrecords]
  · simp [enqueuedCalls, hevents, henqueued]

theorem tracked_trySlot {serial : Nat} {request : Request} (htracked : system.Tracked Agree)
    (hrequest : (serial, request) ∈ system.requests) (hunseen : system.Unseen serial)
    (hqueueing : ∀ serial slot outgoing, system.api () ≠ .enqueueing serial slot outgoing) :
    (system.trySlot () serial request).Tracked Agree := by
  cases hfree : system.client.freeQueue.toList with
  | nil =>
      rw [trySlot_of_nil hfree]
      exact htracked.of_eq rfl rfl rfl rfl rfl ⟨hrequest, hunseen⟩
        fun _ _ _ hapi => absurd hapi (hqueueing _ _ _)
  | cons slot rest =>
      rw [trySlot_of_cons hfree]
      exact htracked.of_eq rfl rfl rfl rfl rfl ⟨hrequest, hunseen⟩
        fun _ _ _ hapi => absurd hapi (hqueueing _ _ _)

theorem tracked_serialize {serial : Nat} {request : Request} {slot : UInt16}
    (htracked : system.Tracked Agree) (hpc : system.api () = .serializing serial request slot)
    (hagree : Agree (request.outgoing system.client) (request.waiting system.client serial)) :
    (system.serialize () serial request slot).Tracked Agree := by
  obtain ⟨hrequest, hunseen⟩ : system.CallTracked Agree (.serializing serial request slot) :=
    hpc ▸ htracked.pc
  have hid : (system.serialize () serial request slot).client.publishPacketId
      = system.client.publishPacketId := by
    cases request <;> rfl
  exact htracked.of_eq rfl rfl rfl rfl hid ⟨hrequest, hunseen, hagree⟩ (by simp [hpc])

theorem records_register {serial : Nat} {request : Request} {slot : UInt16} {outgoing : Outgoing} :
    (system.register () serial request slot outgoing).records
      = system.records ++ (request.waiting system.client serial).toList := by
  cases hnew : request.waiting system.client serial <;>
    simp [register_eq, records, setApi, hnew, Event.record]

theorem tracked_register {serial : Nat} {request : Request} {slot : UInt16} {outgoing : Outgoing}
    (htracked : system.Tracked Agree)
    (hpc : system.api () = .registering serial request slot outgoing) :
    (system.register () serial request slot outgoing).Tracked Agree := by
  obtain ⟨hrequest, hunseen, hagree⟩ : system.CallTracked Agree
      (.registering serial request slot outgoing) := hpc ▸ htracked.pc
  have hserial := htracked.lt_calls hrequest
  have hrecords : (system.register () serial request slot outgoing).records
      = system.records ++ (request.waiting system.client serial).toList := records_register
  have henqueued : (system.register () serial request slot outgoing).enqueuedCalls
      = system.enqueuedCalls := by
    cases hnew : request.waiting system.client serial <;>
      simp [register_eq, enqueuedCalls, setApi, hnew, Event.enqueuedCall]
  have hrequests : (system.register () serial request slot outgoing).requests
      = system.requests := by
    cases hnew : request.waiting system.client serial <;>
      simp [register_eq, requests, setApi, hnew, Event.calledRequest]
  have hnew : ∀ waiting ∈ (request.waiting system.client serial).toList,
      waiting.serial = serial := by
    intro waiting hmem
    exact Request.serial_of_waiting (Option.mem_toList.mp hmem)
  have hothers : ∀ other ≠ serial, (system.register () serial request slot outgoing).recordsOf other
      = system.recordsOf other := by
    intro other hother
    have hnil : (request.waiting system.client serial).toList.filter (·.serial = other) = [] :=
      List.filter_eq_nil_iff.mpr fun waiting hmem => by simp [hnew waiting hmem, hother.symm]
    rw [recordsOf, hrecords, List.filter_append, hnil, List.append_nil, recordsOf]
  refine ⟨?_, ?_, ?_, ?_, ?_, ?_, ?_⟩
  · rw [hrequests]
    exact htracked.numbered
  · intro other hother
    have hother : system.calls ≤ other := hother
    obtain ⟨hrecord, hframe⟩ := htracked.fresh other hother
    refine ⟨?_, by rwa [henqueued]⟩
    intro waiting hmem
    obtain hmem | hmem := List.mem_append.mp (hrecords ▸ hmem)
    · exact hrecord waiting hmem
    · rw [hnew waiting hmem]
      omega
  · refine ⟨hserial, henqueued ▸ hunseen.frame, _, ?_, ⟨system.records, hrecords.symm⟩, hagree⟩
    have hall : (request.waiting system.client serial).toList.filter (·.serial = serial)
        = (request.waiting system.client serial).toList :=
      List.filter_eq_self.mpr fun waiting hmem => by simpa using hnew waiting hmem
    calc (system.register () serial request slot outgoing).recordsOf serial
        = system.recordsOf serial ++ (request.waiting system.client serial).toList := by
          rw [recordsOf, hrecords, List.filter_append, hall, recordsOf]
      _ = (request.waiting system.client serial).toList := by
          rw [recordsOf_of_unseen hunseen, List.nil_append]
  · rw [hrecords, List.map_append, List.nodup_append']
    refine ⟨htracked.distinct, ?_, ?_⟩
    · cases request.waiting system.client serial <;> simp
    · rw [List.disjoint_left]
      intro other hold hadded
      obtain ⟨waiting, hmem, rfl⟩ := List.mem_map.mp hold
      obtain ⟨added, hadded, heq⟩ := List.mem_map.mp hadded
      exact hunseen.record waiting hmem (heq ▸ hnew added hadded)
  · rw [hrecords, hrequests]
    intro waiting hmem
    obtain hmem | hmem := List.mem_append.mp hmem
    · exact htracked.requested waiting hmem
    · rw [hnew waiting hmem]
      exact ⟨request, system.client, hrequest, Option.mem_toList.mp hmem⟩
  · rw [hrecords, henqueued]
    intro waiting hmem
    obtain hmem | hmem := List.mem_append.mp hmem
    · obtain hframe | ⟨otherSlot, other, hapi⟩ := htracked.queued waiting hmem
      · exact .inl hframe
      · simp [hpc] at hapi
    · rw [hnew waiting hmem]
      exact .inr ⟨slot, outgoing, rfl⟩
  · intro other frame hmem
    rw [henqueued] at hmem
    have hother : other ≠ serial := by
      rintro rfl
      exact hunseen.frame frame hmem
    rw [hothers other hother]
    exact htracked.agree other frame hmem

theorem tracked_enqueueSlot {serial : Nat} {slot : UInt16} {outgoing : Outgoing}
    (htracked : system.Tracked Agree) (hpc : system.api () = .enqueueing serial slot outgoing) :
    (system.enqueueSlot () serial slot outgoing).Tracked Agree := by
  obtain ⟨hserial, hunseen, hagree⟩ : system.CallTracked Agree
      (.enqueueing serial slot outgoing) := hpc ▸ htracked.pc
  have hrecords : (system.enqueueSlot () serial slot outgoing).records = system.records := by
    simp [enqueueSlot_eq, records, setApi, Event.record]
  have hrequests : (system.enqueueSlot () serial slot outgoing).requests = system.requests := by
    simp [enqueueSlot_eq, requests, setApi, Event.calledRequest]
  have henqueued : (system.enqueueSlot () serial slot outgoing).enqueuedCalls
      = system.enqueuedCalls ++ [(serial, outgoing)] := by
    simp [enqueueSlot_eq, enqueuedCalls, setApi, Event.enqueuedCall]
  refine ⟨?_, ?_, trivial, ?_, ?_, ?_, ?_⟩
  · rw [hrequests]
    exact htracked.numbered
  · intro other hother
    obtain ⟨hrecord, hframe⟩ := htracked.fresh other hother
    have hother : system.calls ≤ other := hother
    refine ⟨by rwa [hrecords], ?_⟩
    intro frame hmem
    rw [henqueued, List.mem_append, List.mem_singleton] at hmem
    obtain hmem | heq := hmem
    · exact hframe frame hmem
    · obtain rfl : other = serial := congrArg Prod.fst heq
      omega
  · rw [hrecords]
    exact htracked.distinct
  · rw [hrecords, hrequests]
    exact htracked.requested
  · rw [hrecords, henqueued]
    intro waiting hmem
    obtain ⟨frame, hframe⟩ | ⟨otherSlot, other, hapi⟩ := htracked.queued waiting hmem
    · exact .inl ⟨frame, List.mem_append_left _ hframe⟩
    · obtain ⟨heq, -, -⟩ : serial = waiting.serial ∧ slot = otherSlot ∧ outgoing = other := by
        simpa [hpc] using hapi
      exact .inl ⟨outgoing, List.mem_append_right _ (by simp [heq])⟩
  · intro other frame hmem
    rw [henqueued, List.mem_append, List.mem_singleton] at hmem
    simp only [recordsOf, hrecords]
    obtain hmem | heq := hmem
    · exact htracked.agree other frame hmem
    · obtain ⟨rfl, rfl⟩ := Prod.mk.inj heq
      obtain ⟨waiting, hwaiting, -, hagree⟩ := hagree
      exact ⟨waiting, hwaiting, hagree⟩

/-- The frame and the record of a call agree if they do when the frame is serialized. -/
theorem tracked_step {label : Label Unit} (htracked : system.Tracked Agree)
    (hagree : ∀ serial request slot, label = .serialize () →
      system.api () = .serializing serial request slot →
        Agree (request.outgoing system.client) (request.waiting system.client serial))
    (hstep : system.step label = some next) : next.Tracked Agree := by
  cases label with
  | call tid request =>
      obtain ⟨hpc, rfl⟩ := step_call.mp hstep
      exact tracked_call htracked hpc
  | lockSlot tid =>
      obtain ⟨serial, request, hpc, -, rfl⟩ := step_lockSlot.mp hstep
      obtain ⟨hrequest, hunseen⟩ : system.CallTracked Agree (.wanting serial request) :=
        hpc ▸ htracked.pc
      exact tracked_trySlot htracked hrequest hunseen (by simp [hpc])
  | spin tid =>
      obtain ⟨serial, request, hpc, rfl⟩ := step_spin.mp hstep
      obtain ⟨hrequest, hunseen⟩ : system.CallTracked Agree (.spinning serial request) :=
        hpc ▸ htracked.pc
      exact tracked_trySlot htracked hrequest hunseen (by simp [hpc])
  | serialize tid =>
      obtain ⟨serial, request, slot, hpc, rfl⟩ := step_serialize.mp hstep
      exact tracked_serialize htracked hpc (hagree serial request slot rfl hpc)
  | enqueueWaiting tid =>
      obtain ⟨serial, request, slot, outgoing, hpc, -, rfl⟩ := step_enqueueWaiting.mp hstep
      exact tracked_register htracked hpc
  | enqueueSlot tid =>
      obtain ⟨serial, slot, outgoing, hpc, -, rfl⟩ := step_enqueueSlot.mp hstep
      exact tracked_enqueueSlot htracked hpc
  | signalDisconnect =>
      obtain ⟨-, rfl⟩ := step_signalDisconnect.mp hstep
      exact htracked.of_eq rfl rfl rfl rfl rfl htracked.pc fun _ _ _ => id
  | _ => exact tracked_session htracked rfl hstep

theorem tracked_init (client : Client) (bufferCount : UInt16) (bufferSize : Nat) :
    (init client bufferCount bufferSize : System Unit).Tracked Agree where
  numbered := rfl
  fresh _ _ := ⟨by simp [records, init, start], by simp [enqueuedCalls, init, start]⟩
  pc := trivial
  distinct := by simp [records, init, start]
  requested := by simp [records, init, start]
  queued := by simp [records, init, start]
  agree := by simp [enqueuedCalls, init, start]

end System

end Smqtt
