import Smqtt.Lib.Run
import Smqtt.Proof.Sending

/-!
# Calls on a released connection

A disconnect, or a send that comes up short, releases `impl`; the client is not told, and its
`connected` flag stays set for good. The next call that uses the server crashes, unless it is refused
for another reason.
-/

namespace Smqtt

open Interaction

variable {os : OperatingSystem}

/-- No send came up short. -/
def NetworkServer.Intact (network : NetworkServer) : Prop :=
  ∀ sent ∈ network.sends, ¬ sendShort sent.2 sent.1.length

theorem NetworkServer.Intact.send {network : NetworkServer} (hintact : network.Intact)
    (os : OperatingSystem) (frame : List UInt8) :
    (network.send os frame).2.Intact ↔ ¬ network.FailsSend os frame := by
  by_cases hfails : network.FailsSend os frame
  · rw [send_failed hfails]
    exact iff_of_false (fun hall => hall (frame, _) (by simp) hfails) (not_not_intro hfails)
  · rw [send_accepted hfails]
    refine iff_of_true (fun sent hsent => ?_) hfails
    rcases List.mem_append.mp hsent with hbefore | hlast
    · exact hintact sent hbefore
    · rw [List.mem_singleton.mp hlast]
      exact hfails

/-! ### Operations that give up at once -/

/-- A computation that does nothing more behind a send that failed. Everything it returns is `kept`. -/
inductive GivesUp (kept : Returned → Prop) : Serve Returned → Prop
  | done {returned : Returned} (hkept : kept returned) : GivesUp kept (pure returned)
  | send {server : ServerRef} {frame : List UInt8} {next : NetStatus → Serve Returned}
      {returned : Returned} (hok : GivesUp kept (next .ok)) (hfailed : next .socket = pure returned)
      (hkept : kept returned) : GivesUp kept (serverSend server frame >>= next)
  | receive {server : ServerRef} {next : Reception → Serve Returned}
      (hnext : ∀ reception, GivesUp kept (next reception)) :
      GivesUp kept (serverReceive server >>= next)

section GivesUp

variable {kept : Returned → Prop} {server : ServerRef}

theorem givesUp_sendThen {frame : List UInt8} {failed : Status → Returned} {next : Serve Returned}
    (hfailed : kept (failed .socket)) (hnext : GivesUp kept next) :
    GivesUp kept (sendThen server frame failed next) :=
  GivesUp.send hnext rfl hfailed

theorem givesUp_awaitThen {buffer : Memory} {expected : Response → Bool} {null : Status}
    {finish : Status → Memory → Returned} {next : Memory → Serve Returned}
    (hfinish : ∀ status buffer, kept (finish status buffer))
    (hnext : ∀ buffer, GivesUp kept (next buffer)) :
    GivesUp kept (awaitThen server buffer expected null finish next) := by
  refine GivesUp.receive fun reception => ?_
  dsimp only
  split
  · exact .done (hfinish _ _)
  · split
    · exact hnext _
    · exact .done (hfinish _ _)

/-- Such a computation never finds `impl` released, and leaves it released exactly if one of its
sends came up short. -/
theorem GivesUp.execute (os : OperatingSystem) {tree : Serve Returned} (hgives : GivesUp kept tree)
    {network : NetworkServer} (himpl : network.impl = true) (hintact : network.Intact) :
    ∃ returned network', tree.execute (NetworkServer.handle os) network = some (returned, network') ∧
      kept returned ∧ (network'.impl = true ↔ network'.Intact) := by
  induction hgives generalizing network with
  | done hkept => exact ⟨_, network, rfl, hkept, iff_of_true himpl hintact⟩
  | @send server frame next returned hok hfailed hkept ih =>
      rw [execute_serverSend himpl]
      have hsends := hintact.send os frame
      by_cases hfails : network.FailsSend os frame
      · rw [NetworkServer.send_failed hfails] at hsends ⊢
        refine ⟨returned, _, by rw [hfailed]; rfl, hkept, ?_⟩
        exact iff_of_false Bool.false_ne_true fun hall => hsends.mp hall hfails
      · rw [NetworkServer.send_accepted hfails] at hsends ⊢
        exact ih himpl (hsends.mpr hfails)
  | @receive server next hnext ih =>
      rw [execute_serverReceive himpl]
      exact ih _ himpl hintact

end GivesUp

/-- An operation keeps the client's `connected` flag. -/
def KeepsConnected (client : SmqttClient) (returned : Returned) : Prop :=
  returned.client.connected = client.connected

theorem givesUp_converse {kept : Returned → Prop} {server : ServerRef}
    {finish : Status → Memory → Returned} (hfinish : ∀ status buffer, kept (finish status buffer))
    (turns : List Turn) (buffer : Memory) : GivesUp kept (converse server finish turns buffer) := by
  refine converse_rule (fun status buffer => .done (hfinish status buffer)) ?_ ?_ buffer
  · intro frame failed _ buffer next hnext
    exact givesUp_sendThen (hfinish _ _) hnext
  · intro expected null _ buffer next hnext
    exact givesUp_awaitThen hfinish hnext

theorem givesUp_smqttGetNextMessage (client : SmqttClient) (buffer : Memory) :
    GivesUp (KeepsConnected client) (smqttGetNextMessage client buffer) := by
  refine GivesUp.receive fun reception => ?_
  dsimp only
  split
  · exact .done rfl
  · split
    · exact .done rfl
    · rw [receiveMessage_eq_converse]
      refine givesUp_converse (fun status buffer => ?_) _ _
      rfl
    · exact .done rfl

theorem givesUp_perform {op : Operation} (hop : op ≠ .disconnect) (client : SmqttClient)
    (buffer : Memory) : GivesUp (KeepsConnected client) (op.perform client buffer) := by
  cases hdialogue : op.dialogue client with
  | some held =>
      rw [perform_eq_converse hdialogue]
      exact givesUp_converse (fun _ _ => connected_of_dialogue hdialogue) _ _
  | none =>
      by_cases hnext : op = .getNextMessage
      · subst hnext
        exact givesUp_smqttGetNextMessage client buffer
      · obtain ⟨status, -, hpure⟩ := perform_of_refused hnext hop hdialogue buffer
        rw [hpure]
        exact .done rfl

/-! ### One call -/

/-- A publish above QoS 2 is refused before the server is used. -/
def Operation.Refused : Operation → Prop
  | publish _ _ qos _ => QoS2 < qos
  | _ => False

/-- The call does not use a released `impl`, and one that finds it released returns an error. -/
def Session.Guarded (os : OperatingSystem) (session : Session) (op : Operation) : Prop :=
  ∃ next, session.step os op = some next ∧ (session.network.impl = false → next.status ≠ .ok)

section Step

variable {session next : Session} {op : Operation}

theorem step_refused (hconnected : session.client.connected = true) (hrefused : op.Refused) :
    session.step os op = some { session with status := .invalid } := by
  cases op with
  | publish topic msg qos retain =>
      have hqos : QoS2 < qos := hrefused
      simp [Session.step, Operation.perform, smqttPublish, hconnected, hqos, finish]
  | _ => exact hrefused.elim

theorem step_unrefused_released (hconnected : session.client.connected = true)
    (himpl : session.network.impl = false) (hrefused : ¬ op.Refused) :
    session.step os op = none := by
  cases op with
  | publish topic msg qos retain =>
      have hqos : ¬ QoS2 < qos := hrefused
      rw [Session.step, Operation.perform, smqttPublish, if_pos hconnected, if_neg hqos]
      split
      all_goals
        simp [sendThen, serverSend, execute_ask_bind, NetworkServer.handle, himpl]
  | _ =>
      simp [Session.step, Operation.perform, smqttPing, smqttSubscribe, smqttUnsubscribe,
        smqttGetNextMessage, smqttDisconnect, hconnected, sendThen, serverSend, serverReceive,
        execute_ask_bind, NetworkServer.handle, himpl]

theorem step_other (os : OperatingSystem) (hop : op ≠ .disconnect)
    (himpl : session.network.impl = true) (hintact : session.network.Intact) :
    ∃ next, session.step os op = some next ∧
      next.client.connected = session.client.connected ∧
      (next.network.impl = true ↔ next.network.Intact) := by
  obtain ⟨returned, network, hexecute, hkept, hreleased⟩ :=
    (givesUp_perform hop session.client session.receiveBuffer).execute os himpl hintact
  refine ⟨⟨returned.client, returned.receiveBuffer, network, returned.status⟩, ?_, hkept, hreleased⟩
  rw [Session.step, hexecute, Option.map_some]

end Step

/-! ### Whole runs -/

/-- The call is refused for its QoS; or there was no disconnect and no short send before it, and it
does not disconnect with a send that comes up short. -/
def Session.Prudent (os : OperatingSystem) (before : List Operation) (session : Session)
    (op : Operation) : Prop :=
  op.Refused ∨ (.disconnect ∉ before ∧ session.network.Intact ∧
    (op = .disconnect → ¬ session.network.FailsSend os makeDisconnectMessage))

/-- `impl` is there as long as there was no disconnect and no short send; the client counts as
connected in any case. -/
structure Session.Tracked (before : List Operation) (session : Session) : Prop where
  connected : session.client.connected = true
  impl_iff : session.network.impl = true ↔ .disconnect ∉ before ∧ session.network.Intact

theorem Session.Tracked.step {before : List Operation} {session next : Session} {op : Operation}
    (htracked : session.Tracked before) (hstep : session.step os op = some next) :
    next.Tracked (before ++ [op]) := by
  have hconnected := htracked.connected
  by_cases hrefused : op.Refused
  · have hop : op ≠ .disconnect := fun heq => by rw [heq] at hrefused; exact hrefused
    rw [step_refused hconnected hrefused] at hstep
    obtain rfl := Option.some.inj hstep
    exact ⟨hconnected, by simpa [hop.symm] using htracked.impl_iff⟩
  · cases himpl : session.network.impl with
    | false => simp [step_unrefused_released hconnected himpl hrefused] at hstep
    | true =>
        obtain ⟨hbefore, hintact⟩ := htracked.impl_iff.mp himpl
        by_cases hop : op = .disconnect
        · subst hop
          by_cases hfails : session.network.FailsSend os makeDisconnectMessage
          · simp [step_disconnect_failed himpl hfails] at hstep
          · rw [step_disconnect_accepted himpl hfails] at hstep
            obtain rfl := Option.some.inj hstep
            exact ⟨hconnected, iff_of_false Bool.false_ne_true fun h => h.1 (by simp)⟩
        · obtain ⟨next', hstep', hkept, hreleased⟩ := step_other os hop himpl hintact
          obtain rfl : next' = next := Option.some.inj (hstep'.symm.trans hstep)
          exact ⟨hkept.trans hconnected, by simp [hreleased, hbefore, Ne.symm hop]⟩

theorem Session.Tracked.guarded_iff {before : List Operation} {session : Session}
    (htracked : session.Tracked before) (op : Operation) :
    session.Guarded os op ↔ session.Prudent os before op := by
  have hconnected := htracked.connected
  by_cases hrefused : op.Refused
  · refine iff_of_true ⟨_, step_refused hconnected hrefused, fun _ => ?_⟩ (.inl hrefused)
    simp
  · rw [Session.Prudent, or_iff_right hrefused, ← and_assoc, ← htracked.impl_iff]
    cases himpl : session.network.impl with
    | false =>
        refine iff_of_false ?_ fun h => Bool.false_ne_true h.1
        rintro ⟨next, hstep, -⟩
        simp [step_unrefused_released hconnected himpl hrefused] at hstep
    | true =>
        obtain ⟨-, hintact⟩ := htracked.impl_iff.mp himpl
        by_cases hop : op = .disconnect
        · subst hop
          by_cases hfails : session.network.FailsSend os makeDisconnectMessage
          · simp [Session.Guarded, step_disconnect_failed himpl hfails, hfails]
          · simp [Session.Guarded, step_disconnect_accepted himpl hfails, hfails, himpl]
        · obtain ⟨next, hstep, -⟩ := step_other os hop himpl hintact
          refine iff_of_true ⟨next, hstep, fun h => ?_⟩ ⟨rfl, fun h => absurd h hop⟩
          simp [himpl] at h

/-- What a connect leaves behind if it sets a client. -/
def GreetedSoundly (result : Connected × NetworkServer) : Prop :=
  ∀ client, result.1.client = .set client →
    client.connected = true ∧ result.2.impl = true ∧ result.2.Intact

theorem answerConnect_sound {connection : SmqttClient} {buffer : Memory} {size : Int}
    {network : NetworkServer} (himpl : network.impl = true) (hintact : network.Intact)
    {result : Connected × NetworkServer}
    (hresult : (answerConnect connection buffer size).execute (NetworkServer.handle os) network
      = some result) : GreetedSoundly result := by
  rw [answerConnect] at hresult
  intro client hclient
  repeat' split at hresult
  all_goals
    simp [serverDisconnect, execute_ask_bind, NetworkServer.handle, himpl] at hresult
    subst hresult
    cases hclient
  all_goals exact ⟨rfl, himpl, hintact⟩

/-- From the CONNECT on. -/
theorem sendConnect_sound {connection : SmqttClient} {frame : List UInt8} {buffer : Memory}
    {network : NetworkServer} (himpl : network.impl = true) (hintact : network.Intact)
    {result : Connected × NetworkServer}
    (hresult : (do
        let stat ← serverSend connection.server frame
        if statusFromNet stat ≠ .ok then pure ⟨statusFromNet stat, .unchanged, buffer⟩
        else
          let reception ← serverReceive connection.server
          answerConnect connection (buffer.patch reception.stored) reception.size
        : Serve Connected).execute (NetworkServer.handle os) network = some result) :
    GreetedSoundly result := by
  rw [execute_serverSend himpl] at hresult
  by_cases hfails : network.FailsSend os frame
  · rw [NetworkServer.send_failed hfails] at hresult
    obtain rfl := Option.some.inj hresult
    intro client hclient
    cases hclient
  · have hok : (network.send os frame).1 = .ok := by rw [NetworkServer.send_accepted hfails]
    have hkeeps : (network.send os frame).2.impl = true := by
      rw [NetworkServer.send_accepted hfails]
      exact himpl
    rw [hok, if_neg (by simp [statusFromNet]), execute_serverReceive hkeeps] at hresult
    refine answerConnect_sound ?_ ?_ hresult
    · exact hkeeps
    · exact (hintact.send os frame).mpr hfails

theorem greetServer_sound {args : ConnectArgs} {connection : SmqttClient} {buffer : Memory}
    {network : NetworkServer} (hintact : network.Intact)
    {result : Connected × NetworkServer}
    (hresult : (greetServer args connection buffer).execute (NetworkServer.handle os) network
      = some result) : GreetedSoundly result := by
  cases himpl : network.impl with
  | false =>
      simp [greetServer, serverConnect, execute_ask_bind, NetworkServer.handle, himpl] at hresult
  | true =>
      rw [greetServer, serverConnect, execute_ask_bind, NetworkServer.handle, if_pos himpl,
        Option.bind_some, NetworkServer.connect] at hresult
      split at hresult
      · rw [if_neg (by simp [statusFromNet])] at hresult
        refine sendConnect_sound ?_ ?_ hresult
        · exact himpl
        · exact hintact
      · obtain rfl := Option.some.inj hresult
        intro client hclient
        cases hclient

theorem smqttConnectInternal_sound {args : ConnectArgs} {memory : SmqttClient} {buffer : Memory}
    {result : Connected × NetworkServer}
    (hresult : (smqttConnectInternal args (some memory) buffer).execute (NetworkServer.handle os)
      .absent = some result) : GreetedSoundly result := by
  rw [smqttConnectInternal, makeServer] at hresult
  split at hresult
  all_goals
    first
      | rw [createNetworkServer, execute_ask_bind, NetworkServer.handle, Option.bind_some] at hresult
      | rw [execute_pure_bind] at hresult
    split at hresult
    · obtain rfl := Option.some.inj hresult
      intro client hclient
      cases hclient
    · exact greetServer_sound (by simp [NetworkServer.Intact, NetworkServer.absent,
        NetworkServer.createNetworkServer]) hresult

/-! ### A connection -/

theorem not_failsSend_answering (packet : List UInt8) (network : NetworkServer) {frame : List UInt8}
    (hlength : frame.length < 2 ^ 64) :
    ¬ network.FailsSend (OperatingSystem.answering packet) frame := by
  have hmod : (frame.length : Int) % 2 ^ 64 = frame.length := Int.emod_eq_of_lt (by omega) (by omega)
  rw [NetworkServer.FailsSend, sendShort]
  change ¬ decide (((frame.length : Int) % 2 ^ 64).toNat < frame.length)
  rw [hmod]
  simp

theorem answering_connects : ∃ (args : ConnectArgs) (memory client : SmqttClient)
    (buffer received : Memory) (network : NetworkServer),
    (smqttConnectInternal args (some memory) buffer).execute
      (NetworkServer.handle (OperatingSystem.answering [0x20, 2, 0, 0])) .absent
        = some (⟨.ok, .set client, received⟩, network) := by
  let args : ConnectArgs := ⟨.remoteServer, ⟨[104], by decide⟩, 1883, ⟨[99], by decide⟩, none, none,
    0, false, QoS0, false, none⟩
  let memory : SmqttClient := ⟨[], [], 0, false, 0, 0, 0, 0⟩
  let client : SmqttClient := ⟨[104, 0], [99, 0], 1883, true, 0, 1, 0, 0⟩
  have hconnect : ((smqttConnectInternal args (some memory) (fun _ => 0)).execute
      (NetworkServer.handle (OperatingSystem.answering [0x20, 2, 0, 0])) .absent).map
        (fun result => (result.1.status, result.1.client)) = some (.ok, .set client) := by
    decide +kernel
  obtain ⟨⟨⟨status, out, received⟩, network⟩, hexecute, hresult⟩ := Option.map_eq_some_iff.mp hconnect
  obtain ⟨rfl, rfl⟩ := Prod.mk.inj hresult
  exact ⟨args, memory, client, fun _ => 0, received, network, hexecute⟩

/-- **Liveness of the connection.** In a run on a client that a connect has returned, no call uses a
released `impl`, and those that find it released are refused, exactly if no call but a publish above
QoS 2 follows a disconnect or a short send, and no disconnect comes up short itself. -/
theorem calls_guarded_iff (os : OperatingSystem) (args : ConnectArgs) (memory client : SmqttClient)
    (buffer received : Memory) (network : NetworkServer)
    (hconnect : (smqttConnectInternal args (some memory) buffer).execute (NetworkServer.handle os)
      .absent = some (⟨.ok, .set client, received⟩, network)) (ops : List Operation) :
    Run.Throughout (Session.step os) (fun _ session op => session.Guarded os op)
        ⟨client, received, network, .ok⟩ ops ↔
      Run.Throughout (Session.step os) (fun before session op => session.Prudent os before op)
        ⟨client, received, network, .ok⟩ ops := by
  obtain ⟨hconnected, himpl, hintact⟩ := smqttConnectInternal_sound hconnect client rfl
  have hstart : Session.Tracked [] ⟨client, received, network, .ok⟩ :=
    ⟨hconnected, iff_of_true himpl ⟨List.not_mem_nil, hintact⟩⟩
  refine Run.throughout_congr Session.Tracked ?_ ?_ ops
  · intro before session hrun
    exact Run.invariant_past (fun before session => session.Tracked before) hstart
      (fun _ _ _ _ htracked hstep => htracked.step hstep) hrun
  · intro before session op htracked
    exact htracked.guarded_iff op

/-- A disconnect and a publish that is refused for its QoS. -/
theorem disconnect_then_refused_guarded : ∃ (args : ConnectArgs) (memory client : SmqttClient)
    (buffer received : Memory) (network : NetworkServer),
    (smqttConnectInternal args (some memory) buffer).execute
        (NetworkServer.handle (OperatingSystem.answering [0x20, 2, 0, 0])) .absent
        = some (⟨.ok, .set client, received⟩, network) ∧
      Run.Throughout (Session.step (OperatingSystem.answering [0x20, 2, 0, 0]))
        (fun _ session op => session.Guarded (OperatingSystem.answering [0x20, 2, 0, 0]) op)
        ⟨client, received, network, .ok⟩
        [.disconnect, .publish ⟨[116], by decide⟩ none 3 false] := by
  obtain ⟨args, memory, client, buffer, received, network, hconnect⟩ := answering_connects
  refine ⟨args, memory, client, buffer, received, network, hconnect, ?_⟩
  refine (calls_guarded_iff _ args memory client buffer received network hconnect _).mpr ?_
  intro before op after session heq hrun
  obtain ⟨-, -, hintact⟩ := smqttConnectInternal_sound hconnect client rfl
  match before with
  | [] =>
      obtain ⟨rfl, -⟩ := List.cons.inj heq
      obtain rfl := Option.some.inj hrun
      exact .inr ⟨List.not_mem_nil, hintact, fun _ => not_failsSend_answering _ _ (by decide)⟩
  | [_] =>
      obtain ⟨rfl, -⟩ := List.cons.inj (List.cons.inj heq).2
      exact .inl (show QoS2 < 3 by decide)
  | _ :: _ :: _ => simp at heq

/-- A ping behind a disconnect crashes. -/
theorem ping_after_disconnect_crashes : ∃ (os : OperatingSystem) (args : ConnectArgs)
    (memory client : SmqttClient) (buffer received : Memory) (network : NetworkServer),
    (smqttConnectInternal args (some memory) buffer).execute (NetworkServer.handle os) .absent
        = some (⟨.ok, .set client, received⟩, network) ∧
      ¬ Run.Throughout (Session.step os) (fun _ session op => session.Guarded os op)
        ⟨client, received, network, .ok⟩ [.disconnect, .ping] := by
  obtain ⟨args, memory, client, buffer, received, network, hconnect⟩ := answering_connects
  obtain ⟨hconnected, himpl, -⟩ := smqttConnectInternal_sound hconnect client rfl
  refine ⟨_, args, memory, client, buffer, received, network, hconnect, fun hguarded => ?_⟩
  have hdisconnect : Session.step (OperatingSystem.answering [0x20, 2, 0, 0])
      ⟨client, received, network, .ok⟩ .disconnect = some _ :=
    step_disconnect_accepted himpl (not_failsSend_answering _ _ (by decide))
  obtain ⟨next, hping, -⟩ := hguarded [.disconnect] .ping [] _ rfl
    (by rw [Run.exec_singleton, hdisconnect])
  rw [step_unrefused_released hconnected rfl (fun h : Operation.ping.Refused => h)] at hping
  cases hping

end Smqtt
