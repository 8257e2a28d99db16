import Smqtt.Lib.SlotPool
import Smqtt.Proof.Records

/-!
# A callback answers one call, once

The number of a call goes with it: it is in the hands of its thread, then in a record of
`ack_queue`, then with the session thread, and last in the callback. Every step hands it on or drops
it. So however packets come, lost, repeated or made up, no call is answered twice.
-/

namespace Smqtt

open SlotPool

/-- The number of a call whose record is still to be made. -/
def ApiPc.unregistered : ApiPc → Option Nat
  | wanting serial _ => some serial
  | spinning serial _ => some serial
  | serializing serial _ _ => some serial
  | registering serial _ _ _ => some serial
  | _ => none

/-- The call that a record belongs to; a message that is kept belongs to none. -/
def Waiting.call (waiting : Waiting) : Option Nat :=
  if waiting.type = .pubrel then none else some waiting.serial

/-- The call whose record the session thread has in hand. -/
def SessionPc.call : SessionPc → Option Nat
  | replying (.pubrel waiting _) => some waiting.serial
  | registering waiting => waiting.call
  | _ => none

/-- The call that is answered. -/
def Event.answered : Event → Option Nat
  | callback waiting _ => some waiting.serial
  | subCallback waiting _ _ => some waiting.serial
  | _ => none

/-- The call that is refused. -/
def Event.refusedCall : Event → Option Nat
  | refused serial _ => some serial
  | _ => none

/-- The call that is made. -/
def Event.calledSerial : Event → Option Nat
  | called serial _ => some serial
  | _ => none

theorem filterMap_append_none {α β : Type} {read : α → Option β} {left right : List α}
    (hnone : ∀ item ∈ right, read item = none) :
    (left ++ right).filterMap read = left.filterMap read := by
  rw [List.filterMap_append, List.filterMap_eq_nil_iff.mpr hnone, List.append_nil]

theorem Event.refusedCall_of_isSession {event : Event} (hevent : event.isSession) :
    event.refusedCall = none := by
  cases event <;> simp_all [Event.isSession, Event.refusedCall]

theorem Event.calledSerial_of_isSession {event : Event} (hevent : event.isSession) :
    event.calledSerial = none := by
  cases event <;> simp_all [Event.isSession, Event.calledSerial]

theorem Request.call_of_waiting {client : Client} {serial : Nat} {request : Request}
    {waiting : Waiting} (hwaiting : request.waiting client serial = some waiting) :
    waiting.call = some serial := by
  cases request with
  | publish topic msg qos retain callback context =>
      simp only [Request.waiting] at hwaiting
      split_ifs at hwaiting <;> exact Option.some.inj hwaiting ▸ rfl
  | _ => exact Option.some.inj hwaiting ▸ rfl

/-! ### Searches -/

/-- A search leaves the entries alone, or takes one of them out. -/
theorem searchList_split {α : Type} {inspect : α → Verdict} {entries rest : List α}
    {result : Search α} (hsearch : searchList inspect entries = some (result, rest)) :
    (rest = entries ∧ ∀ payload, result ≠ .found payload) ∨
      ∃ left payload right, entries = left ++ payload :: right ∧ rest = left ++ right ∧
        inspect payload = .take ∧ result = .found payload := by
  induction entries generalizing rest with
  | nil =>
      obtain ⟨rfl, rfl⟩ : .notFound = result ∧ [] = rest := by simpa [searchList] using hsearch
      exact .inl ⟨rfl, by simp⟩
  | cons payload entries ih =>
      cases hverdict : inspect payload with
      | take =>
          obtain ⟨rfl, rfl⟩ : .found payload = result ∧ entries = rest := by
            simpa [searchList, hverdict] using hsearch
          exact .inr ⟨[], payload, entries, rfl, rfl, hverdict, rfl⟩
      | stop =>
          obtain ⟨rfl, rfl⟩ : .unassigned = result ∧ payload :: entries = rest := by
            simpa [searchList, hverdict] using hsearch
          exact .inl ⟨rfl, by simp⟩
      | unknown => simp [searchList, hverdict] at hsearch
      | skip =>
          simp only [searchList, hverdict, Option.map_eq_some_iff] at hsearch
          obtain ⟨⟨result', others⟩, hothers, hpair⟩ := hsearch
          obtain ⟨rfl, rfl⟩ := Prod.mk.inj hpair
          obtain ⟨rfl, hnone⟩ | ⟨left, found, right, rfl, rfl, htake, rfl⟩ := ih hothers
          · exact .inl ⟨rfl, hnone⟩
          · exact .inr ⟨payload :: left, found, right, rfl, rfl, htake, rfl⟩

theorem withWaiting_split (client : Client) (type : MessageType) (packetId : UInt16)
    (found : Waiting → SessionPc × List Event) :
    ((withWaiting client type packetId found).1.ackQueue.toList = client.ackQueue.toList ∧
        ((withWaiting client type packetId found).2 = (.top, []) ∨
          (withWaiting client type packetId found).2 = (.crashed, []))) ∨
      ∃ left waiting right, client.ackQueue.toList = left ++ waiting :: right ∧
        (withWaiting client type packetId found).1.ackQueue.toList = left ++ right ∧
        inspect type packetId waiting = .take ∧
        (withWaiting client type packetId found).2 = found waiting := by
  have hlist := client.ackQueue.search_toList (inspect type packetId)
  unfold withWaiting dequeueByTypeAndId
  cases hsearch : client.ackQueue.search (inspect type packetId) with
  | none => exact .inl ⟨rfl, .inr rfl⟩
  | some answer =>
      obtain ⟨result, rest⟩ := answer
      rw [hsearch, Option.map_some] at hlist
      obtain ⟨hsame, hnone⟩ | ⟨left, waiting, right, hsplit, hrest, htake, hfound⟩ :=
        searchList_split hlist.symm
      · cases result with
        | found waiting => exact absurd rfl (hnone waiting)
        | notFound => exact .inl ⟨hsame, .inl rfl⟩
        | unassigned => exact .inl ⟨hsame, .inr rfl⟩
      · obtain rfl : result = .found waiting := hfound
        exact .inr ⟨left, waiting, right, hsplit, hrest, htake, rfl⟩

/-! ### The calls -/

namespace System

variable {Tid : Type}

/-- The calls that have been answered, in order. -/
def answeredCalls (system : System Tid) : List Nat := system.events.filterMap Event.answered

/-- The calls that there are records for. -/
def recordedCalls (client : Client) : List Nat := client.ackQueue.toList.filterMap Waiting.call

/-- The calls that are recorded, in hand or answered. -/
def registeredCalls (system : System Tid) : Multiset Nat :=
  (recordedCalls system.client : Multiset Nat) + slotsOf system.session.call + system.answeredCalls

/-- The calls that have been refused. -/
def refusedCalls (system : System Tid) : List Nat := system.events.filterMap Event.refusedCall

/-- The calls that are open, refused or answered. -/
def openCalls [Fintype Tid] (system : System Tid) : Multiset Nat :=
  (∑ tid, slotsOf (system.api tid).unregistered) + system.registeredCalls + system.refusedCalls

section Outcome

variable {client : Client}

/-- A record that is found is kept in hand, or its call is answered. -/
theorem onFound_calls {resp : Response} {type : MessageType} {packetId : UInt16} {waiting : Waiting}
    (hkey : resp.key = some (type, packetId)) (htake : inspect type packetId waiting = .take) :
    slotsOf (resp.onFound waiting).1.call + ↑((resp.onFound waiting).2.filterMap Event.answered)
      ≤ slotsOf waiting.call := by
  have htype := type_of_take htake
  have hcall (hne : type ≠ .pubrel) : waiting.call = some waiting.serial := by
    rw [Waiting.call, htype, if_neg hne]
  cases resp <;>
    simp only [Response.key, Option.some.injEq, Prod.mk.injEq, reduceCtorEq] at hkey <;>
    obtain ⟨rfl, rfl⟩ := hkey
  case pubrel =>
    simp [Response.onFound, SessionPc.call]
  all_goals
    rw [hcall (by simp)]
    simp only [Response.onFound, runCallback, runSubCallback, runUnsubCallback]
    first
    | (split <;> simp [SessionPc.call, Event.answered])
    | simp [SessionPc.call]

theorem handleResponse_calls (client : Client) (resp : Response) :
    (recordedCalls (handleResponse client resp).1 : Multiset Nat)
        + (slotsOf (handleResponse client resp).2.1.call
          + ↑((handleResponse client resp).2.2.filterMap Event.answered))
      ≤ recordedCalls client := by
  cases hkey : resp.key with
  | none =>
      cases resp with
      | publish data =>
          have hdeliver : (maybeDeliverMessage client data).filterMap Event.answered = [] := by
            unfold maybeDeliverMessage
            split <;> simp [Event.answered]
          simp only [handleResponse]
          split_ifs <;> simp [SessionPc.call, hdeliver]
      | connect | connack | subscribe | unsubscribe | pingreq | disconnect =>
          simp [handleResponse, SessionPc.call]
      | _ => simp [Response.key] at hkey
  | some key =>
      obtain ⟨type, packetId⟩ := key
      rw [handleResponse_of_key hkey]
      obtain ⟨hsame, hdone | hcrashed⟩ | ⟨left, waiting, right, hsplit, hrest, htake, hfound⟩ :=
        withWaiting_split client type packetId resp.onFound
      · rw [hdone, recordedCalls, hsame]
        simp [SessionPc.call, recordedCalls]
      · rw [hcrashed, recordedCalls, hsame]
        simp [SessionPc.call, recordedCalls]
      · have hfirst : (recordedCalls client : Multiset Nat)
            = ↑((left ++ right).filterMap Waiting.call) + slotsOf waiting.call := by
          rw [recordedCalls, hsplit, List.filterMap_append, List.filterMap_append,
            List.filterMap_cons]
          cases waiting.call with
          | none => simp
          | some serial =>
              rw [slotsOf_some, ← Multiset.coe_singleton, Multiset.coe_add, Multiset.coe_eq_coe]
              exact List.perm_middle.trans (List.perm_append_singleton serial _).symm
        rw [hfound, hfirst, recordedCalls, hrest]
        exact add_le_add_right (onFound_calls hkey htake) _

theorem afterReply_calls (client : Client) (reply : Reply) (sent : Bool) :
    slotsOf (afterReply client reply sent).1.call
        + ↑((afterReply client reply sent).2.filterMap Event.answered)
      ≤ slotsOf (SessionPc.replying reply).call := by
  cases sent with
  | false => simp [afterReply, SessionPc.call]
  | true =>
      cases reply with
      | puback data =>
          simp only [afterReply, maybeDeliverMessage, if_true]
          split <;> simp [SessionPc.call, Event.answered]
      | pubrec data => simp [afterReply, SessionPc.call, Waiting.call]
      | pubrel waiting packetId => simp [afterReply, SessionPc.call, Waiting.call]
      | pubcomp waiting packetId =>
          simp only [afterReply, deliverWaiting, if_true]
          split <;> simp [SessionPc.call, Event.answered]

end Outcome

variable [DecidableEq Tid] {system next : System Tid} {tid : Tid}

omit [DecidableEq Tid] in
/-- An action that takes nothing in hand and answers nothing. -/
theorem registeredCalls_le_of_eq
    (hrecorded : recordedCalls next.client = recordedCalls system.client)
    (hcall : next.session.call = none) (hanswered : next.answeredCalls = system.answeredCalls) :
    next.registeredCalls ≤ system.registeredCalls := by
  rw [registeredCalls, registeredCalls, hrecorded, hcall, hanswered]
  apply add_le_add_left
  apply add_le_add_right
  exact Multiset.zero_le _

/-- What the session thread does with the calls. -/
theorem registeredCalls_session {label : Label Tid} (hlabel : label.isSession)
    (hstep : system.step label = some next) :
    next.registeredCalls ≤ system.registeredCalls := by
  cases label with
  | sessionTop =>
      obtain ⟨hpc, -, rfl⟩ := step_sessionTop.mp hstep
      obtain ⟨-, htop⟩ | ⟨-, -, htop⟩ | ⟨slot, rest, -, -, htop⟩ := system.sessionTop_cases <;>
        rw [htop] <;> exact registeredCalls_le_of_eq rfl rfl rfl
  | sessionSend sent =>
      obtain ⟨slot, hpc, rfl⟩ := step_sessionSend.mp hstep
      refine registeredCalls_le_of_eq rfl rfl ?_
      simp [answeredCalls, sessionSend, log, Event.answered]
  | sessionRequeue =>
      obtain ⟨slot, hpc, -, rfl⟩ := step_sessionRequeue.mp hstep
      exact registeredCalls_le_of_eq rfl rfl rfl
  | sessionReceive buffer size resp =>
      obtain ⟨hpc, rfl⟩ := step_sessionReceive.mp hstep
      obtain ⟨-, hreceive⟩ | ⟨-, -, hreceive⟩ | ⟨packet, -, -, hreceive⟩ :=
        system.sessionReceive_cases buffer size resp <;>
        rw [hreceive]
      · exact registeredCalls_le_of_eq rfl rfl rfl
      · exact registeredCalls_le_of_eq rfl rfl rfl
      · refine registeredCalls_le_of_eq rfl rfl ?_
        simp [answeredCalls, Event.answered]
  | sessionHandle =>
      obtain ⟨resp, hpc, -, rfl⟩ := step_sessionHandle.mp hstep
      have hanswered : (system.sessionHandle resp).answeredCalls = system.answeredCalls
          ++ (handleResponse system.client resp).2.2.filterMap Event.answered :=
        List.filterMap_append
      calc (system.sessionHandle resp).registeredCalls
          = (recordedCalls (handleResponse system.client resp).1 : Multiset Nat)
              + (slotsOf (handleResponse system.client resp).2.1.call
                + ↑((handleResponse system.client resp).2.2.filterMap Event.answered))
              + system.answeredCalls := by
            rw [registeredCalls, hanswered, ← Multiset.coe_add]
            change (recordedCalls (handleResponse system.client resp).1 : Multiset Nat)
              + slotsOf (handleResponse system.client resp).2.1.call + _ = _
            abel
        _ ≤ recordedCalls system.client + system.answeredCalls :=
            add_le_add_left (handleResponse_calls system.client resp) _
        _ ≤ system.registeredCalls := add_le_add_left (Multiset.le_add_right _ _) _
  | sessionReply sent =>
      obtain ⟨reply, hpc, rfl⟩ := step_sessionReply.mp hstep
      generalize hclient : { system.client with
        receiveBuffer := system.client.receiveBuffer.write reply.frame } = client
      have hanswered : (system.sessionReply reply sent).answeredCalls = system.answeredCalls
          ++ (afterReply client reply sent).2.filterMap Event.answered := by
        rw [← hclient]
        exact List.filterMap_append
      have hsession : (system.sessionReply reply sent).session
          = (afterReply client reply sent).1 := by
        rw [← hclient]
        rfl
      calc (system.sessionReply reply sent).registeredCalls
          = (recordedCalls system.client : Multiset Nat)
              + (slotsOf (afterReply client reply sent).1.call
                + ↑((afterReply client reply sent).2.filterMap Event.answered))
              + system.answeredCalls := by
            rw [registeredCalls, hanswered, hsession, ← Multiset.coe_add]
            change (recordedCalls system.client : Multiset Nat) + _ + _ = _
            abel
        _ ≤ recordedCalls system.client + slotsOf (SessionPc.replying reply).call
              + system.answeredCalls :=
            add_le_add_left (add_le_add_right (afterReply_calls client reply sent) _) _
        _ = system.registeredCalls := by rw [registeredCalls, hpc]
  | sessionRegister =>
      obtain ⟨waiting, hpc, -, rfl⟩ := step_sessionRegister.mp hstep
      have hrecorded : (recordedCalls (system.sessionRegister waiting).client : Multiset Nat)
          = recordedCalls system.client + slotsOf waiting.call := by
        cases hcall : waiting.call <;>
          simp [recordedCalls, sessionRegister, enqueueWaiting, hcall, ← Multiset.coe_add]
      rw [registeredCalls, registeredCalls, hrecorded, hpc]
      change _ + slotsOf waiting.call + slotsOf none + _ ≤ _ + slotsOf waiting.call + _
      rw [slotsOf_none, add_zero]
      rfl
  | _ => simp [Label.isSession] at hlabel

/-- Registering a request records its call. -/
theorem recordedCalls_register (client : Client) (serial : Nat) (request : Request) :
    (recordedCalls (request.register client serial) : Multiset Nat)
      ≤ recordedCalls client + {serial} := by
  rw [recordedCalls, toList_register, List.filterMap_append, ← Multiset.coe_add]
  apply add_le_add_right
  cases hwaiting : request.waiting client serial with
  | none => simp
  | some waiting => simp [Request.call_of_waiting hwaiting]

/-! ### A run -/

section Threads

variable [Fintype Tid]

omit system next in
theorem sum_unregistered_update (api : Tid → ApiPc) (tid : Tid) (pc : ApiPc) :
    (∑ other, slotsOf (Function.update api tid pc other).unregistered)
        + slotsOf (api tid).unregistered
      = (∑ other, slotsOf (api other).unregistered) + slotsOf pc.unregistered := by
  have hsum := sum_update_held (fun other => (api other).unregistered) tid pc.unregistered
  simpa only [← Function.apply_update (fun _ => ApiPc.unregistered)] using hsum

/-- A thread goes on to its next action, and its call with it. -/
theorem openCalls_api {pc : ApiPc} {fresh : Multiset Nat}
    (hapi : next.api = Function.update system.api tid pc)
    (hregistered : next.registeredCalls + slotsOf pc.unregistered
      ≤ system.registeredCalls + slotsOf (system.api tid).unregistered + fresh)
    (hrefused : next.refusedCalls = system.refusedCalls) :
    next.openCalls ≤ system.openCalls + fresh := by
  apply le_of_add_le_add_right (a := slotsOf (system.api tid).unregistered)
  rw [openCalls, openCalls, hapi, hrefused]
  have hsum := sum_unregistered_update system.api tid pc
  calc _ = ((∑ other, slotsOf (Function.update system.api tid pc other).unregistered)
            + slotsOf (system.api tid).unregistered) + next.registeredCalls
            + system.refusedCalls := by abel
    _ = (∑ other, slotsOf (system.api other).unregistered)
          + (next.registeredCalls + slotsOf pc.unregistered) + system.refusedCalls := by
        rw [hsum]
        abel
    _ ≤ (∑ other, slotsOf (system.api other).unregistered)
          + (system.registeredCalls + slotsOf (system.api tid).unregistered + fresh)
          + system.refusedCalls := add_le_add_left (add_le_add_right hregistered _) _
    _ = _ := by abel

/-- A thread keeps its call in hand. -/
theorem openCalls_api_keep {pc : ApiPc} (hapi : next.api = Function.update system.api tid pc)
    (hpc : pc.unregistered = (system.api tid).unregistered)
    (hregistered : next.registeredCalls = system.registeredCalls)
    (hrefused : next.refusedCalls = system.refusedCalls) : next.openCalls ≤ system.openCalls := by
  have hopen : next.openCalls ≤ system.openCalls + 0 :=
    openCalls_api hapi (by rw [hregistered, hpc, add_zero]) hrefused
  rwa [add_zero] at hopen

theorem openCalls_trySlot {serial : Nat} {request : Request}
    (hpc : (system.api tid).unregistered = some serial) :
    (system.trySlot tid serial request).calls = system.calls ∧
      (system.trySlot tid serial request).openCalls ≤ system.openCalls := by
  unfold trySlot
  cases system.client.freeQueue.dequeue with
  | mk result freeQueue =>
      cases result <;> exact ⟨rfl, openCalls_api_keep rfl hpc.symm rfl rfl⟩

theorem openCalls_call {request : Request} (hpc : system.api tid = .idle) :
    (system.call tid request).calls = system.calls + 1 ∧
      (system.call tid request).openCalls ≤ system.openCalls + {system.calls} := by
  cases hrefused : request.refused system.client with
  | some status =>
      rw [call_of_refused hrefused]
      refine ⟨rfl, le_of_eq ?_⟩
      have hanswered : (system.events ++ [Event.called system.calls request,
          .refused system.calls status]).filterMap Event.answered = system.answeredCalls :=
        filterMap_append_none (by simp [Event.answered])
      have hcalls : (system.events ++ [Event.called system.calls request,
          .refused system.calls status]).filterMap Event.refusedCall
          = system.refusedCalls ++ [system.calls] :=
        List.filterMap_append
      rw [openCalls, openCalls, registeredCalls, answeredCalls, refusedCalls, hanswered, hcalls,
        ← Multiset.coe_add, ← add_assoc]
      rfl
  | none =>
      rw [call_of_accepted hrefused]
      have hanswered : (system.events
          ++ [Event.called system.calls request]).filterMap Event.answered
            = system.answeredCalls :=
        filterMap_append_none (by simp [Event.answered])
      refine ⟨rfl, openCalls_api rfl (le_of_eq ?_)
        (filterMap_append_none (by simp [Event.refusedCall]))⟩
      rw [hpc]
      change recordedCalls system.client + slotsOf system.session.call
        + ↑((system.events ++ [Event.called system.calls request]).filterMap Event.answered)
        + {system.calls} = _
      rw [hanswered]
      change _ = system.registeredCalls + 0 + _
      rw [add_zero]
      rfl

theorem openCalls_register {serial : Nat} {request : Request} {slot : UInt16} {outgoing : Outgoing}
    (hpc : system.api tid = .registering serial request slot outgoing) :
    (system.register tid serial request slot outgoing).openCalls ≤ system.openCalls := by
  have hanswered : (system.register tid serial request slot outgoing).answeredCalls
      = system.answeredCalls := filterMap_append_none (by simp [Event.answered])
  have hrefused : (system.register tid serial request slot outgoing).refusedCalls
      = system.refusedCalls := filterMap_append_none (by simp [Event.refusedCall])
  have hapi : (system.register tid serial request slot outgoing).api
      = Function.update system.api tid (.enqueueing serial slot outgoing) := rfl
  rw [← add_zero system.openCalls]
  refine openCalls_api hapi ?_ hrefused
  rw [registeredCalls, hanswered, hpc]
  calc _ = (recordedCalls (request.register system.client serial) : Multiset Nat)
          + slotsOf system.session.call + system.answeredCalls := add_zero _
    _ ≤ recordedCalls system.client + {serial} + slotsOf system.session.call
          + system.answeredCalls :=
        add_le_add_left (add_le_add_left (recordedCalls_register system.client serial request) _) _
    _ = system.registeredCalls + {serial} + 0 := by
        rw [registeredCalls]
        abel

/-- **One step.** A step makes a new call, or lets no call be answered more often than before. -/
theorem openCalls_step {label : Label Tid} (hstep : system.step label = some next) :
    (next.calls = system.calls + 1 ∧ next.openCalls ≤ system.openCalls + {system.calls}) ∨
      (next.calls = system.calls ∧ next.openCalls ≤ system.openCalls) := by
  by_cases hlabel : label.isSession
  · right
    have hframe := sessionFrame_step hlabel hstep
    have hrefused : next.refusedCalls = system.refusedCalls := by
      obtain ⟨events, hevents, hsession⟩ := hframe.events
      rw [refusedCalls, hevents]
      exact filterMap_append_none fun event hmem =>
        Event.refusedCall_of_isSession (hsession event hmem)
    refine ⟨hframe.calls, ?_⟩
    rw [openCalls, openCalls, hframe.api, hrefused]
    exact add_le_add_left (add_le_add_right (registeredCalls_session hlabel hstep) _) _
  · cases label with
    | call tid request =>
        obtain ⟨hpc, rfl⟩ := step_call.mp hstep
        exact .inl (openCalls_call hpc)
    | lockSlot tid =>
        obtain ⟨serial, request, hpc, -, rfl⟩ := step_lockSlot.mp hstep
        exact .inr (openCalls_trySlot (by rw [hpc]; rfl))
    | spin tid =>
        obtain ⟨serial, request, hpc, rfl⟩ := step_spin.mp hstep
        exact .inr (openCalls_trySlot (by rw [hpc]; rfl))
    | serialize tid =>
        obtain ⟨serial, request, slot, hpc, rfl⟩ := step_serialize.mp hstep
        have hqueue : (system.serialize tid serial request slot).client.ackQueue
            = system.client.ackQueue := by
          cases request <;> rfl
        have hapi : (system.serialize tid serial request slot).api = Function.update system.api tid
            (.registering serial request slot (request.outgoing system.client)) := rfl
        refine .inr ⟨rfl, openCalls_api_keep hapi (by rw [hpc]; rfl) ?_ rfl⟩
        rw [registeredCalls, recordedCalls, hqueue]
        rfl
    | enqueueWaiting tid =>
        obtain ⟨serial, request, slot, outgoing, hpc, -, rfl⟩ := step_enqueueWaiting.mp hstep
        exact .inr ⟨rfl, openCalls_register hpc⟩
    | enqueueSlot tid =>
        obtain ⟨serial, slot, outgoing, hpc, -, rfl⟩ := step_enqueueSlot.mp hstep
        have hapi : (system.enqueueSlot tid serial slot outgoing).api
            = Function.update system.api tid .idle := rfl
        refine .inr ⟨rfl, openCalls_api_keep hapi (by rw [hpc]; rfl) ?_ ?_⟩
        · have hanswered : (system.enqueueSlot tid serial slot outgoing).answeredCalls
              = system.answeredCalls := filterMap_append_none (by simp [Event.answered])
          rw [registeredCalls, hanswered]
          rfl
        · exact filterMap_append_none (by simp [Event.refusedCall])
    | signalDisconnect =>
        obtain ⟨-, rfl⟩ := step_signalDisconnect.mp hstep
        exact .inr ⟨rfl, le_rfl⟩
    | _ => simp [Label.isSession] at hlabel

/-- No call is twice among the open and the answered ones. -/
structure AtMostOnce (system : System Tid) : Prop where
  open_le : system.openCalls ≤ Multiset.range system.calls
  called : system.events.filterMap Event.calledSerial = List.range system.calls

omit [Fintype Tid] in
theorem called_trySlot {serial : Nat} {request : Request}
    (hcalled : system.events.filterMap Event.calledSerial = List.range system.calls) :
    (system.trySlot tid serial request).events.filterMap Event.calledSerial
      = List.range (system.trySlot tid serial request).calls := by
  cases hfree : system.client.freeQueue.toList with
  | nil =>
      rw [trySlot_of_nil hfree]
      exact hcalled
  | cons slot rest =>
      rw [trySlot_of_cons hfree]
      exact hcalled

omit [Fintype Tid] in
theorem called_step {label : Label Tid} (hstep : system.step label = some next)
    (hcalled : system.events.filterMap Event.calledSerial = List.range system.calls) :
    next.events.filterMap Event.calledSerial = List.range next.calls := by
  by_cases hlabel : label.isSession
  · have hframe := sessionFrame_step hlabel hstep
    obtain ⟨events, hevents, hsession⟩ := hframe.events
    rw [hevents, hframe.calls, ← hcalled]
    exact filterMap_append_none fun event hmem =>
      Event.calledSerial_of_isSession (hsession event hmem)
  · cases label with
    | call tid request =>
        obtain ⟨hpc, rfl⟩ := step_call.mp hstep
        cases hrefused : request.refused system.client with
        | some status =>
            rw [call_of_refused hrefused, List.filterMap_append, hcalled, List.range_succ]
            rfl
        | none =>
            rw [call_of_accepted hrefused]
            change (system.events ++ [Event.called system.calls request]).filterMap _ = _
            rw [List.filterMap_append, hcalled]
            exact List.range_succ.symm
    | lockSlot tid =>
        obtain ⟨serial, request, -, -, rfl⟩ := step_lockSlot.mp hstep
        exact called_trySlot hcalled
    | spin tid =>
        obtain ⟨serial, request, -, rfl⟩ := step_spin.mp hstep
        exact called_trySlot hcalled
    | serialize tid =>
        obtain ⟨serial, request, slot, -, rfl⟩ := step_serialize.mp hstep
        exact hcalled
    | enqueueWaiting tid =>
        obtain ⟨serial, request, slot, outgoing, -, -, rfl⟩ := step_enqueueWaiting.mp hstep
        exact (filterMap_append_none (by simp [Event.calledSerial])).trans hcalled
    | enqueueSlot tid =>
        obtain ⟨serial, slot, outgoing, -, -, rfl⟩ := step_enqueueSlot.mp hstep
        exact (filterMap_append_none (by simp [Event.calledSerial])).trans hcalled
    | signalDisconnect =>
        obtain ⟨-, rfl⟩ := step_signalDisconnect.mp hstep
        exact hcalled
    | _ => simp [Label.isSession] at hlabel

theorem AtMostOnce.step {label : Label Tid} (honce : system.AtMostOnce)
    (hstep : system.step label = some next) : next.AtMostOnce where
  open_le := by
    obtain ⟨hcalls, hle⟩ | ⟨hcalls, hle⟩ := openCalls_step hstep
    · rw [hcalls, Multiset.range_succ, ← Multiset.singleton_add, add_comm]
      exact hle.trans (add_le_add_left honce.open_le _)
    · rw [hcalls]
      exact hle.trans honce.open_le
  called := called_step hstep honce.called

omit [DecidableEq Tid] in
theorem atMostOnce_init (client : Client) (bufferCount : UInt16) (bufferSize : Nat) :
    (init client bufferCount bufferSize : System Tid).AtMostOnce where
  open_le := by
    simp [openCalls, registeredCalls, recordedCalls, answeredCalls, refusedCalls, init,
      start, startSessionThread, ApiPc.unregistered, SessionPc.call]
  called := by simp [init, start]

/-- **No call is answered twice.** A callback runs at most once for a call, and only for one that
was made and accepted; after that there is no record of the call, in `ack_queue` or with the session
thread, and no thread that has one to leave. -/
theorem answered_at_most_once {client : Client} {bufferCount : UInt16} {bufferSize : Nat}
    {labels : List (Label Tid)}
    (hrun : Run.exec System.step (init client bufferCount bufferSize) labels = some system) :
    system.answeredCalls.Nodup ∧
      ∀ serial ∈ system.answeredCalls,
        (∃ request, .called serial request ∈ system.events) ∧ serial ∉ system.refusedCalls ∧
          serial ∉ recordedCalls system.client ∧ system.session.call ≠ some serial ∧
          ∀ tid, (system.api tid).unregistered ≠ some serial := by
  have honce : system.AtMostOnce := Run.invariant AtMostOnce
    (fun _ _ _ honce hstep => honce.step hstep) (atMostOnce_init client bufferCount bufferSize) hrun
  have hnodup : system.openCalls.Nodup :=
    Multiset.nodup_of_le honce.open_le (Multiset.nodup_range _)
  have hsum : system.openCalls = system.answeredCalls + (system.refusedCalls
      + (recordedCalls system.client + ((∑ tid, slotsOf (system.api tid).unregistered)
        + slotsOf system.session.call))) := by
    rw [openCalls, registeredCalls]
    abel
  rw [hsum] at hnodup
  obtain ⟨hanswered, -, hdisjoint⟩ := Multiset.nodup_add.mp hnodup
  refine ⟨Multiset.coe_nodup.mp hanswered, fun serial hmem => ?_⟩
  have hothers := Multiset.disjoint_left.mp hdisjoint (Multiset.mem_coe.mpr hmem)
  simp only [Multiset.mem_add, not_or, Multiset.mem_coe] at hothers
  obtain ⟨hrefused, hrecorded, hthreads, hsession⟩ := hothers
  refine ⟨?_, hrefused, hrecorded, fun hcall => hsession (by simp [hcall]), fun tid htid =>
    hthreads ?_⟩
  · have hle : serial ∈ Multiset.range system.calls := by
      refine Multiset.mem_of_le honce.open_le ?_
      rw [hsum]
      exact Multiset.mem_add.mpr (.inl (Multiset.mem_coe.mpr hmem))
    have hcalled : serial ∈ system.events.filterMap Event.calledSerial := by
      rw [honce.called]
      simpa using hle
    obtain ⟨event, hevent, hserial⟩ := List.mem_filterMap.mp hcalled
    cases event with
    | called other request =>
        obtain rfl : other = serial := Option.some.inj hserial
        exact ⟨request, hevent⟩
    | _ => simp [Event.calledSerial] at hserial
  · rw [Multiset.mem_sum]
    exact ⟨tid, Finset.mem_univ tid, by simp [htid]⟩

end Threads

/-- Two PINGRESPs come for one ping. -/
theorem repeated_answer_is_ignored : ∃ (labels : List (Label Unit)) (system : System Unit),
    Run.exec step (init (connectedClient zeroClient none 0) 10 1024) labels = some system ∧
      system.answeredCalls = [0] ∧ system.answeredCalls.Nodup := by
  let start : System Unit := init (connectedClient zeroClient none 0) 10 1024
  let pingresp : Label Unit :=
    .sessionReceive (Memory.write (fun _ => 0) [0xD0, 0]) 2 (some .pingresp)
  let labels : List (Label Unit) := [.call () (.ping (some 0) 0), .lockSlot (), .serialize (),
    .enqueueWaiting (), .enqueueSlot (), .sessionTop, .sessionSend true, .sessionRequeue, pingresp,
    .sessionHandle, .sessionTop, pingresp, .sessionHandle]
  obtain ⟨system, hrun⟩ : ∃ system, Run.exec step start labels = some system :=
    Option.isSome_iff_exists.mp (by decide)
  have hanswered : (Run.exec step start labels).map answeredCalls = some [0] := by decide
  rw [hrun] at hanswered
  exact ⟨labels, system, hrun, Option.some.inj hanswered, (answered_at_most_once hrun).1⟩

end System

end Smqtt
