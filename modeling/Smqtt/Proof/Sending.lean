import Smqtt.Dialogue
import Smqtt.NetworkServer

/-!
# What a success says about the sends

An operation that gets SMQTT_OK has made all the moves of its exchange: every send was accepted, as
far as `network_send` can tell, and every packet it waited for was the expected one. But a send that
returns -1 counts as accepted: as a `size_t` the result is larger than any frame.
-/

namespace Smqtt

open Interaction

variable {os : OperatingSystem} {network : NetworkServer}

/-! ### One call of the server -/

section Calls

variable {server : ServerRef} {frame : List UInt8}

/-- `network_send` finds that the frame was not accepted. -/
def NetworkServer.FailsSend (os : OperatingSystem) (network : NetworkServer) (frame : List UInt8) :
    Prop :=
  sendShort (os.send network.clock frame.length) frame.length

theorem NetworkServer.send_failed (hshort : network.FailsSend os frame) :
    network.send os frame = (.socket, ⟨false, network.clock + 1,
      network.sends ++ [(frame, (os.send network.clock frame.length).1)]⟩) :=
  if_pos hshort

theorem NetworkServer.send_accepted (hshort : ¬ network.FailsSend os frame) :
    network.send os frame = (.ok, ⟨network.impl, network.clock + 1,
      network.sends ++ [(frame, (os.send network.clock frame.length).1)]⟩) :=
  if_neg hshort

theorem execute_serverSend {α : Type} {next : NetStatus → Serve α} (himpl : network.impl = true) :
    (serverSend server frame >>= next).execute (NetworkServer.handle os) network
      = (next (network.send os frame).1).execute (NetworkServer.handle os)
        (network.send os frame).2 := by
  rw [serverSend, execute_ask_bind, NetworkServer.handle, if_pos himpl, Option.bind_some]

theorem execute_serverSend_released {α : Type} {next : NetStatus → Serve α}
    (himpl : network.impl = false) :
    (serverSend server frame >>= next).execute (NetworkServer.handle os) network = none := by
  rw [serverSend, execute_ask_bind, NetworkServer.handle, if_neg (by simp [himpl]),
    Option.bind_none]

theorem execute_serverReceive_released {α : Type} {next : Reception → Serve α}
    (himpl : network.impl = false) :
    (serverReceive server >>= next).execute (NetworkServer.handle os) network = none := by
  rw [serverReceive, execute_ask_bind, NetworkServer.handle, if_neg (by simp [himpl]),
    Option.bind_none]

theorem execute_serverReceive {α : Type} {next : Reception → Serve α} (himpl : network.impl = true) :
    (serverReceive server >>= next).execute (NetworkServer.handle os) network
      = (next (os.receive network.clock)).execute (NetworkServer.handle os)
        (network.receive os).2 := by
  rw [serverReceive, execute_ask_bind, NetworkServer.handle, if_pos himpl, Option.bind_some]
  rfl

theorem step_disconnect_failed {session : Session} (himpl : session.network.impl = true)
    (hfails : session.network.FailsSend os makeDisconnectMessage) :
    session.step os .disconnect = none := by
  rw [Session.step, Operation.perform, smqttDisconnect, execute_serverSend himpl,
    NetworkServer.send_failed hfails]
  rfl

theorem step_disconnect_accepted {session : Session} (himpl : session.network.impl = true)
    (hfails : ¬ session.network.FailsSend os makeDisconnectMessage) :
    session.step os .disconnect = some ⟨session.client, session.receiveBuffer,
      (session.network.send os makeDisconnectMessage).2.disconnect.2, .ok⟩ := by
  rw [Session.step, Operation.perform, smqttDisconnect, execute_serverSend himpl,
    NetworkServer.send_accepted hfails, himpl]
  rfl

end Calls

/-! ### Exchanges -/

/-- A move in the exchange that makes up an operation. -/
inductive Move where
  | send (frame : List UInt8)
  | await (expected : Response → Bool)

/-- The operating system lets the whole exchange through, from call number `clock` on: no send is
found to have failed, and every packet is the expected one. -/
def Passes (os : OperatingSystem) : Nat → Memory → List Move → Prop
  | _, _, [] => True
  | clock, buffer, .send frame :: moves =>
      ¬ sendShort (os.send clock frame.length) frame.length ∧ Passes os (clock + 1) buffer moves
  | clock, buffer, .await expected :: moves =>
      (parseBuffer (buffer.patch (os.receive clock).stored) (os.receive clock).size).any expected ∧
        Passes os (clock + 1) (buffer.patch (os.receive clock).stored) moves

/-- One of the sends of the exchange returns -1. -/
def Errs (os : OperatingSystem) : Nat → List Move → Prop
  | _, [] => False
  | clock, .send frame :: moves =>
      (os.send clock frame.length).1 = -1 ∨ Errs os (clock + 1) moves
  | clock, .await _ :: moves => Errs os (clock + 1) moves

/-- The computation is the exchange, and returns SMQTT_OK at its end only. -/
inductive Scripted : Memory → Serve Returned → List Move → Prop
  | done {buffer : Memory} {returned : Returned} (hok : returned.status = .ok) :
      Scripted buffer (pure returned) []
  | send {buffer : Memory} {server : ServerRef} {frame : List UInt8} {failed : Status → Returned}
      {next : Serve Returned} {moves : List Move} (hfailed : (failed .socket).status ≠ .ok)
      (hnext : Scripted buffer next moves) :
      Scripted buffer (sendThen server frame failed next) (.send frame :: moves)
  | await {buffer : Memory} {server : ServerRef} {expected : Response → Bool} {null : Status}
      {finish : Status → Memory → Returned} {next : Memory → Serve Returned} {moves : List Move}
      (hfinish : ∀ status buffer, (finish status buffer).status = status) (hnull : null ≠ .ok)
      (hnext : ∀ buffer, Scripted buffer (next buffer) moves) :
      Scripted buffer (awaitThen server buffer expected null finish next) (.await expected :: moves)

/-- Two's complement makes -1 the largest length. -/
theorem accepted_iff {result : Int} {length : Nat} (hlow : -1 ≤ result) (hhigh : result ≤ length)
    (haccepted : ¬ sendShort result length) : result = length ↔ result ≠ -1 := by
  constructor
  · omega
  · intro hresult
    simp only [sendShort, decide_eq_true_eq, not_lt] at haccepted
    omega

/-- In an exchange, success and passing are the same; and if it passes, all was sent in full exactly
if no send returned -1. -/
theorem Scripted.execute {buffer : Memory} {tree : Serve Returned} {moves : List Move}
    (hscripted : Scripted buffer tree moves) (os : OperatingSystem) {network : NetworkServer}
    (himpl : network.impl = true) :
    ∃ returned network', tree.execute (NetworkServer.handle os) network = some (returned, network') ∧
      (returned.status = .ok ↔ Passes os network.clock buffer moves) ∧
      (Passes os network.clock buffer moves → ∃ sent, network'.sends = network.sends ++ sent ∧
        ((∀ frame ∈ sent, frame.2 = frame.1.length) ↔ ¬ Errs os network.clock moves)) := by
  induction hscripted generalizing network with
  | done hok =>
      exact ⟨_, network, rfl, iff_of_true hok trivial, fun _ => ⟨[], by simp [Errs]⟩⟩
  | @send buffer server frame failed next moves hfailed hnext ih =>
      rw [sendThen, execute_serverSend himpl]
      by_cases hfails : network.FailsSend os frame
      · rw [NetworkServer.send_failed hfails]
        have hstuck : ¬ Passes os network.clock buffer (.send frame :: moves) :=
          fun hpasses => hpasses.1 hfails
        exact ⟨_, _, rfl, iff_of_false hfailed hstuck, fun hpasses => absurd hpasses hstuck⟩
      · rw [NetworkServer.send_accepted hfails]
        have hkeeps : NetworkServer.impl ⟨network.impl, network.clock + 1,
            network.sends ++ [(frame, (os.send network.clock frame.length).1)]⟩ = true := himpl
        obtain ⟨returned, network', hexecute, hstatus, hsent⟩ := ih hkeeps
        refine ⟨returned, network', hexecute, ?_, ?_⟩
        · rw [hstatus]
          exact ⟨fun hpasses => ⟨hfails, hpasses⟩, fun hpasses => hpasses.2⟩
        · intro hpasses
          obtain ⟨sent, hsends, hall⟩ := hsent hpasses.2
          refine ⟨(frame, (os.send network.clock frame.length).1) :: sent, by simp [hsends], ?_⟩
          rw [List.forall_mem_cons, hall, Errs, not_or, accepted_iff _ _ hfails]
          · exact (os.send network.clock frame.length).2.1
          · exact (os.send network.clock frame.length).2.2
  | @await buffer server expected null finish next moves hfinish hnull hnext ih =>
      rw [awaitThen, execute_serverReceive himpl]
      dsimp only
      cases hparse : parseBuffer (buffer.patch (os.receive network.clock).stored)
          (os.receive network.clock).size with
      | none =>
          have hstuck : ¬ Passes os network.clock buffer (.await expected :: moves) := by
            simp [Passes, hparse]
          refine ⟨_, _, rfl, iff_of_false ?_ hstuck, fun hpasses => absurd hpasses hstuck⟩
          rwa [hfinish]
      | some resp =>
          dsimp only
          by_cases hexpected : expected resp
          · rw [if_pos hexpected]
            have hpasses : Passes os network.clock buffer (.await expected :: moves) ↔
                Passes os (network.clock + 1) (buffer.patch (os.receive network.clock).stored)
                  moves := by
              simp [Passes, hparse, hexpected]
            rw [hpasses]
            have hkeeps : (network.receive os).2.impl = true := himpl
            exact ih _ hkeeps
          · rw [if_neg hexpected]
            have hstuck : ¬ Passes os network.clock buffer (.await expected :: moves) := by
              simp [Passes, hparse, hexpected]
            refine ⟨_, _, rfl, iff_of_false ?_ hstuck, fun hpasses => absurd hpasses hstuck⟩
            rw [hfinish]
            simp

theorem Scripted.execute_released {buffer : Memory} {tree : Serve Returned} {moves : List Move}
    (hscripted : Scripted buffer tree moves) (himpl : network.impl = false)
    {result : Returned × NetworkServer}
    (hexecute : tree.execute (NetworkServer.handle os) network = some result) :
    result.2 = network := by
  cases hscripted with
  | done hok =>
      obtain rfl := Option.some.inj hexecute
      rfl
  | send hfailed hnext =>
      rw [sendThen, execute_serverSend_released himpl] at hexecute
      cases hexecute
  | await hfinish hnull hnext =>
      rw [awaitThen, execute_serverReceive_released himpl] at hexecute
      cases hexecute

/-- The exchange that an operation consists of, if it gets as far as to begin one. What
`smqtt_get_next_message` has to send depends on what it receives: it is not given here. -/
def Operation.moves (client : SmqttClient) : Operation → Option (List Move)
  | ping =>
      if client.connected then
        some [.send makePingreqMessage, .await fun resp => resp.type = .pingresp]
      else none
  | publish topic msg qos retain =>
      if ¬ client.connected ∨ QoS2 < qos then none
      else if qos = QoS0 then
        some [.send (makePublishMessage topic client.publishPacketId qos retain msg)]
      else
        let packetId := client.publishPacketId + 1
        let publish := Move.send (makePublishMessage topic packetId qos retain msg)
        if qos = QoS1 then some [publish, .await (Response.acknowledges .puback packetId)]
        else some [publish, .await (Response.acknowledges .pubrec packetId),
          .send (makePubrelMessage packetId), .await (Response.acknowledges .pubcomp packetId)]
  | subscribe topics =>
      if client.connected then
        some [.send (makeSubscribeMessage (client.subscribePacketId + 1) topics),
          .await (Response.acknowledges .suback (client.subscribePacketId + 1))]
      else none
  | unsubscribe topics =>
      if client.connected then
        some [.send (makeUnsubscribeMessage (client.unsubscribePacketId + 1) topics),
          .await (Response.acknowledges .unsuback (client.unsubscribePacketId + 1))]
      else none
  | getNextMessage => none
  | disconnect => some [.send makeDisconnectMessage]

section Perform

variable {client : SmqttClient} {buffer : Memory} {op : Operation}

/-- The move of a turn. -/
def Turn.move : Turn → Move
  | say frame _ => .send frame
  | hear expected _ => .await expected

theorem scripted_converse {server : ServerRef} {finish : Status → Memory → Returned}
    {turns : List Turn} (hfinish : ∀ status buffer, (finish status buffer).status = status)
    (hhonest : ∀ turn ∈ turns, turn.Honest) (buffer : Memory) :
    Scripted buffer (converse server finish turns buffer) (turns.map Turn.move) := by
  induction turns generalizing buffer with
  | nil => exact .done (hfinish .ok buffer)
  | cons turn turns ih =>
      obtain ⟨hturn, hturns⟩ := List.forall_mem_cons.mp hhonest
      cases turn with
      | say frame failed =>
          refine .send ?_ (ih hturns buffer)
          rw [hfinish]
          exact hturn
      | hear expected null => exact .await hfinish hturn fun buffer => ih hturns buffer

theorem moves_eq (hop : op ≠ .disconnect) :
    op.moves client = (op.dialogue client).map fun held => held.2.map Turn.move := by
  cases op with
  | publish topic msg qos retain =>
      by_cases hbegin : client.connected ∧ ¬ QoS2 < qos
      · rw [Operation.moves, Operation.dialogue, if_pos hbegin,
          if_neg (by rwa [not_or, not_not]), Option.map_some, publishTurns]
        by_cases hzero : qos = QoS0
        · simp only [if_pos hzero]
          rfl
        · by_cases hone : qos = QoS1
          · simp only [if_neg hzero, if_pos hone]
            rfl
          · simp only [if_neg hzero, if_neg hone]
            rfl
      · rw [Operation.moves, Operation.dialogue, if_neg hbegin,
          if_pos (by rwa [not_and_or, not_not] at hbegin), Option.map_none]
  | getNextMessage => rfl
  | disconnect => exact absurd rfl hop
  | _ =>
      rw [Operation.moves, Operation.dialogue]
      split
      · rfl
      · rfl

theorem scripted_perform {moves : List Move} (hop : op ≠ .disconnect)
    (hmoves : op.moves client = some moves) :
    Scripted buffer (op.perform client buffer) moves := by
  rw [moves_eq hop, Option.map_eq_some_iff] at hmoves
  obtain ⟨⟨after, turns⟩, hdialogue, rfl⟩ := hmoves
  rw [perform_eq_converse hdialogue]
  exact scripted_converse (fun _ _ => rfl) (honest_of_dialogue hdialogue) buffer

/-- An operation that does not begin an exchange fails, and sends nothing. -/
theorem perform_unbegun (hop : op ≠ .getNextMessage) (hmoves : op.moves client = none) :
    ∃ status, status ≠ .ok ∧ op.perform client buffer = pure (finish client status buffer) := by
  by_cases hdisconnect : op = .disconnect
  · subst hdisconnect
    cases hmoves
  · rw [moves_eq hdisconnect, Option.map_eq_none_iff] at hmoves
    exact perform_of_refused hop hdisconnect hmoves buffer

end Perform

/-! ### Success -/

/-- If the operation returns SMQTT_OK, every frame it has passed on was accepted in full. -/
def Session.SuccessMeansSent (os : OperatingSystem) (session : Session) (op : Operation) : Prop :=
  ∀ next, session.step os op = some next → next.status = .ok →
    ∀ sent ∈ next.network.sends.drop session.network.sends.length, sent.2 = sent.1.length

/-- Not the whole exchange passes with a send that returns -1. -/
def Session.SendsHeeded (os : OperatingSystem) (session : Session) (op : Operation) : Prop :=
  session.network.impl = true → ∀ moves, op.moves session.client = some moves →
    Passes os session.network.clock session.receiveBuffer moves →
      ¬ Errs os session.network.clock moves

section Success

variable {session : Session} {op : Operation}

theorem successMeansSent_of_network {result : Option (Returned × NetworkServer)}
    (hresult : (op.perform session.client session.receiveBuffer).execute (NetworkServer.handle os)
      session.network = result)
    (hquiet : ∀ returned network', result = some (returned, network') → returned.status = .ok →
      network'.sends = session.network.sends) : session.SuccessMeansSent os op := by
  intro next hstep hok
  rw [Session.step, hresult, Option.map_eq_some_iff] at hstep
  obtain ⟨⟨returned, network'⟩, hsome, rfl⟩ := hstep
  simp [hquiet returned network' hsome hok]

theorem successMeansSent_iff_of_execute {returned : Returned} {network' : NetworkServer}
    {passes errs : Prop}
    (hexecute : (op.perform session.client session.receiveBuffer).execute (NetworkServer.handle os)
      session.network = some (returned, network'))
    (hstatus : returned.status = .ok ↔ passes)
    (hsent : passes → ∃ sent, network'.sends = session.network.sends ++ sent ∧
      ((∀ frame ∈ sent, frame.2 = frame.1.length) ↔ ¬ errs)) :
    session.SuccessMeansSent os op ↔ (passes → ¬ errs) := by
  have hstep : session.step os op
      = some ⟨returned.client, returned.receiveBuffer, network', returned.status⟩ := by
    rw [Session.step, hexecute, Option.map_some]
  constructor
  · intro hsound hpasses
    obtain ⟨sent, hsends, hall⟩ := hsent hpasses
    refine hall.mp fun frame hframe => ?_
    refine hsound _ hstep (hstatus.mpr hpasses) frame ?_
    simpa [hsends] using hframe
  · intro hheeded next hnext hok frame hframe
    obtain rfl := Option.some.inj (hstep.symm.trans hnext)
    obtain ⟨sent, hsends, hall⟩ := hsent (hstatus.mp hok)
    refine hall.mpr (hheeded (hstatus.mp hok)) frame ?_
    simpa [hsends] using hframe

theorem disconnect_sent_iff (himpl : session.network.impl = true) :
    session.SuccessMeansSent os .disconnect ↔
      (Passes os session.network.clock session.receiveBuffer [.send makeDisconnectMessage] →
        ¬ Errs os session.network.clock [.send makeDisconnectMessage]) := by
  by_cases hfails : session.network.FailsSend os makeDisconnectMessage
  · refine iff_of_true ?_ fun hpasses => absurd hfails hpasses.1
    intro next hstep
    simp [step_disconnect_failed himpl hfails] at hstep
  · have hsends := congrArg (·.2.sends) (NetworkServer.send_accepted hfails)
    simp only [Session.SuccessMeansSent, step_disconnect_accepted himpl hfails, Option.some.injEq,
      forall_eq', NetworkServer.disconnect, hsends, List.drop_left, List.mem_singleton, forall_eq,
      true_imp_iff]
    rw [accepted_iff _ _ hfails]
    · simp only [Errs, or_false]
      exact ⟨fun hresult _ => hresult, fun hheeded => hheeded ⟨hfails, trivial⟩⟩
    · exact (os.send session.network.clock makeDisconnectMessage.length).2.1
    · exact (os.send session.network.clock makeDisconnectMessage.length).2.2

end Success

/-- **Success means sent**, for every operation but `smqtt_get_next_message`: exactly unless a send
returns -1 in an exchange that passes otherwise. -/
theorem success_means_sent_iff (os : OperatingSystem) (session : Session) (op : Operation)
    (hop : op ≠ .getNextMessage) :
    session.SuccessMeansSent os op ↔ session.SendsHeeded os op := by
  cases hmoves : op.moves session.client with
  | none =>
      obtain ⟨status, hstatus, hperform⟩ := perform_unbegun hop hmoves
      refine iff_of_true ?_ fun _ moves hsome => by simp [hmoves] at hsome
      refine successMeansSent_of_network rfl fun returned network' hexecute _ => ?_
      rw [hperform, execute_pure] at hexecute
      obtain ⟨-, rfl⟩ := Prod.mk.inj (Option.some.inj hexecute)
      rfl
  | some moves =>
      rw [Session.SendsHeeded]
      simp only [hmoves, Option.some.injEq, forall_eq']
      by_cases hdisconnect : op = .disconnect
      · subst hdisconnect
        obtain rfl := Option.some.inj hmoves
        cases himpl : session.network.impl with
        | false =>
            refine iff_of_true ?_ fun h => absurd h Bool.false_ne_true
            refine successMeansSent_of_network (execute_serverSend_released himpl) ?_
            exact fun _ _ hnone => nomatch hnone
        | true => simpa using disconnect_sent_iff himpl
      · have hscripted : Scripted session.receiveBuffer
            (op.perform session.client session.receiveBuffer) moves :=
          scripted_perform hdisconnect hmoves
        cases himpl : session.network.impl with
        | false =>
            refine iff_of_true ?_ fun h => absurd h Bool.false_ne_true
            refine successMeansSent_of_network rfl fun returned network' hexecute _ => ?_
            exact congrArg NetworkServer.sends (hscripted.execute_released himpl hexecute)
        | true =>
            obtain ⟨returned, network', hexecute, hstatus, hsent⟩ := hscripted.execute os himpl
            simpa using successMeansSent_iff_of_execute hexecute hstatus hsent

/-- An operating system on which everything succeeds and every packet is the one given. -/
def OperatingSystem.answering (packet : List UInt8) : OperatingSystem where
  connect _ := true
  send _ length := ⟨length, by omega, le_rfl⟩
  receive _ := ⟨packet.length, fun index => packet[index]?⟩

/-- A ping whose PINGREQ is accepted and answered by a PINGRESP. -/
theorem answered_ping_means_sent :
    let os := OperatingSystem.answering [0xD0, 0]
    let session : Session := ⟨⟨[], [], 0, true, 0, 1, 0, 0⟩, fun _ => 0, ⟨true, 0, []⟩, .ok⟩
    (session.step os .ping).map Session.status = some .ok ∧ session.SuccessMeansSent os .ping := by
  intro os session
  refine ⟨by decide +kernel, (success_means_sent_iff os session .ping (by simp)).mpr ?_⟩
  intro _ moves hmoves _
  obtain rfl := Option.some.inj hmoves
  rintro (herror | herror)
  · exact absurd herror (by decide)
  · exact herror

/-- A publish of QoS 0 reports success when its send returns -1. -/
theorem failed_publish_reports_success : ∃ (os : OperatingSystem) (session : Session),
    (os.send 0 5).1 = -1 ∧
      (session.step os (.publish ⟨[116], by decide⟩ none QoS0 false)).map Session.status = some .ok ∧
      ¬ session.SuccessMeansSent os (.publish ⟨[116], by decide⟩ none QoS0 false) := by
  let os : OperatingSystem := ⟨fun _ => true, fun _ _ => ⟨-1, by omega⟩, fun _ => ⟨0, fun _ => none⟩⟩
  let session : Session := ⟨⟨[], [], 0, true, 0, 1, 0, 0⟩, fun _ => 0, ⟨true, 0, []⟩, .ok⟩
  refine ⟨os, session, rfl, by decide +kernel, fun hsound => ?_⟩
  have hsent := hsound _ rfl rfl ([0x30, 3, 0, 1, 116], -1) (by decide +kernel)
  exact absurd hsent (by decide)

end Smqtt
