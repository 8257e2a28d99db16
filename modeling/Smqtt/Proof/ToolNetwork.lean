import Smqtt.Proof.Release
import Smqtt.Proof.Tool

/-!
# The tool on the network server

A failed send releases `impl`, and the next call through it crashes. A subscriber gives up at the
first failure, and so never makes that call; a publisher disconnects whatever has come before.
-/

namespace Smqtt

open Interaction

/-! ### Traces through one server -/

/-- Whether `impl` is there behind a call. -/
def ServerExchange.implAfter (impl : Bool) : ServerExchange → Bool
  | ⟨.createNetworkServer, _⟩ => true
  | ⟨.connect _ _ _ _, .ok⟩ => impl
  | ⟨.connect _ _ _ _, .socket⟩ => false
  | ⟨.send _ _, .ok⟩ => impl
  | ⟨.send _ _, .socket⟩ => false
  | ⟨.receive _, _⟩ => impl
  | ⟨.disconnect _, _⟩ => false

def implBehind (impl : Bool) (trace : List ServerExchange) : Bool :=
  trace.foldl ServerExchange.implAfter impl

/-- No call finds `impl` null. -/
def Served : Bool → List ServerExchange → Prop
  | _, [] => True
  | impl, exchange :: trace =>
      (impl = true ∨ exchange.1 = .createNetworkServer) ∧ Served (exchange.implAfter impl) trace

section Traces

variable {os : OperatingSystem} {impl : Bool} {left right trace : List ServerExchange}
  {network last : NetworkServer}

theorem Served.append (hleft : Served impl left) (hright : Served (implBehind impl left) right) :
    Served impl (left ++ right) := by
  induction left generalizing impl with
  | nil => exact hright
  | cons exchange left ih => exact ⟨hleft.1, ih hleft.2 hright⟩

theorem Served.split {exchange : ServerExchange}
    (hserved : Served impl (left ++ exchange :: right)) :
    implBehind impl left = true ∨ exchange.1 = .createNetworkServer := by
  induction left generalizing impl with
  | nil => exact hserved.1
  | cons first left ih => exact ih hserved.2

/-- One call of the network server: what becomes of `impl`, and of what has been given to `send`. -/
theorem handle_eq_some {call : ServerCall} {answer : ServerAnswer call} {next : NetworkServer}
    (hhandle : NetworkServer.handle os network call = some (answer, next)) :
    next.impl = ServerExchange.implAfter network.impl ⟨call, answer⟩ ∧
      next.sends.map Prod.fst = network.sends.map Prod.fst ++ traceFrames [⟨call, answer⟩] := by
  cases call with
  | createNetworkServer =>
      obtain ⟨rfl, rfl⟩ := Prod.mk.inj (Option.some.inj hhandle)
      exact ⟨rfl, (List.append_nil _).symm⟩
  | connect server hostname port timeoutMsec =>
      obtain ⟨-, hsome⟩ := Option.ite_none_right_eq_some.mp hhandle
      by_cases hconnect : os.connect network.clock
      · rw [NetworkServer.connect, if_pos hconnect] at hsome
        obtain ⟨rfl, rfl⟩ := Prod.mk.inj (Option.some.inj hsome)
        exact ⟨rfl, (List.append_nil _).symm⟩
      · rw [NetworkServer.connect, if_neg hconnect] at hsome
        obtain ⟨rfl, rfl⟩ := Prod.mk.inj (Option.some.inj hsome)
        exact ⟨rfl, (List.append_nil _).symm⟩
  | send server frame =>
      obtain ⟨-, hsome⟩ := Option.ite_none_right_eq_some.mp hhandle
      by_cases hfails : network.FailsSend os frame
      · rw [NetworkServer.send_failed hfails] at hsome
        obtain ⟨rfl, rfl⟩ := Prod.mk.inj (Option.some.inj hsome)
        exact ⟨rfl, List.map_append⟩
      · rw [NetworkServer.send_accepted hfails] at hsome
        obtain ⟨rfl, rfl⟩ := Prod.mk.inj (Option.some.inj hsome)
        exact ⟨rfl, List.map_append⟩
  | receive server =>
      obtain ⟨-, hsome⟩ := Option.ite_none_right_eq_some.mp hhandle
      obtain ⟨rfl, rfl⟩ := Prod.mk.inj (Option.some.inj hsome)
      exact ⟨rfl, (List.append_nil _).symm⟩
  | disconnect server =>
      obtain ⟨-, hsome⟩ := Option.ite_none_right_eq_some.mp hhandle
      obtain ⟨rfl, rfl⟩ := Prod.mk.inj (Option.some.inj hsome)
      exact ⟨rfl, (List.append_nil _).symm⟩

theorem played_network (hplayed : Played (NetworkServer.handle os) network trace last) :
    last.impl = implBehind network.impl trace ∧
      last.sends.map Prod.fst = network.sends.map Prod.fst ++ traceFrames trace := by
  induction trace generalizing network with
  | nil =>
      obtain rfl : network = last := hplayed
      exact ⟨rfl, (List.append_nil _).symm⟩
  | cons exchange trace ih =>
      obtain ⟨call, answer⟩ := exchange
      obtain ⟨next, hhandle, hrest⟩ := hplayed
      obtain ⟨himpl, hsends⟩ := handle_eq_some hhandle
      obtain ⟨hlast, hframes⟩ := ih hrest
      refine ⟨by rw [hlast, himpl]; rfl, ?_⟩
      rw [hframes, hsends, List.append_assoc, ← traceFrames_append]
      rfl

theorem isSome_handle {call : ServerCall}
    (himpl : network.impl = true ∨ call = .createNetworkServer) :
    (NetworkServer.handle os network call).isSome := by
  obtain himpl | rfl := himpl
  · cases call <;> simp [NetworkServer.handle, himpl]
  · rfl

/-- What never calls a released server goes through on the network server. -/
theorem execute_of_served {α : Type} {tree : Serve α} {p : List ServerExchange → α → Prop}
    (os : OperatingSystem) (network : NetworkServer)
    (hserved : tree.Leads fun trace value => Served network.impl trace ∧ p trace value) :
    ∃ trace value last, tree.execute (NetworkServer.handle os) network = some (value, last) ∧
      p trace value ∧
      last.sends.map Prod.fst = network.sends.map Prod.fst ++ traceFrames trace := by
  have hnonempty : ∀ call, Nonempty (ServerAnswer call) := by
    intro call
    cases call with
    | createNetworkServer => exact ⟨(0 : Nat)⟩
    | receive server => exact ⟨(⟨0, fun _ => none⟩ : Reception)⟩
    | _ => exact ⟨NetStatus.ok⟩
  obtain ⟨trace, value, last, hexecute, ⟨-, hvalue⟩, hplayed⟩ :
      ∃ trace value last, tree.execute (NetworkServer.handle os) network = some (value, last) ∧
        (Served network.impl trace ∧ p trace value) ∧
        Played (NetworkServer.handle os) network trace last := by
    refine hserved.exists_execute ?_
    rintro trace value ⟨htrace, -⟩ left call answer right rfl middle hplayed
    apply isSome_handle
    rw [(played_network hplayed).1]
    exact htrace.split
  exact ⟨trace, value, last, hexecute, hvalue, (played_network hplayed).2⟩

end Traces

/-! ### A subscriber -/

section Subscriber

variable {argv : List CString} {settings : Settings}

/-- A greeting leaves a server that is released unless it has been answered. -/
theorem greet_served {γ : Type} (greeting : Greeting) (buffer : Memory)
    (leave : Greeting.Leaving → Memory → γ) :
    (greeting.greet buffer leave).Leads fun trace value => Served true trace ∧
      ∃ leaving buffer', value = leave leaving buffer' ∧
        (leaving = .welcomed → implBehind true trace = true) := by
  apply leads_ask_bind
  intro stat
  cases stat with
  | socket => exact ⟨⟨.inl rfl, trivial⟩, .failed, buffer, rfl, by simp⟩
  | ok =>
      apply leads_ask_bind
      intro stat
      cases stat with
      | socket => exact ⟨⟨.inl rfl, .inl rfl, trivial⟩, .failed, buffer, rfl, by simp⟩
      | ok =>
          apply leads_ask_bind
          intro reception
          unfold Greeting.conclude
          split
          · split
            · exact ⟨⟨.inl rfl, .inl rfl, .inl rfl, trivial⟩, .unparsable, _, rfl, by simp⟩
            · split
              · exact leads_ask_bind fun _ =>
                  ⟨⟨.inl rfl, .inl rfl, .inl rfl, .inl rfl, trivial⟩, .refused _, _, rfl, by simp⟩
              · exact ⟨⟨.inl rfl, .inl rfl, .inl rfl, trivial⟩, .welcomed, _, rfl, fun _ => rfl⟩
            · exact ⟨⟨.inl rfl, .inl rfl, .inl rfl, trivial⟩, .welcomed, _, rfl, fun _ => rfl⟩
          · exact leads_ask_bind fun _ =>
              ⟨⟨.inl rfl, .inl rfl, .inl rfl, .inl rfl, trivial⟩, .nothing, _, rfl, by simp⟩

theorem connect_served {args : ConnectArgs} (hmode : args.mode = .remoteServer)
    (memory : Option SmqttClient) (buffer : Memory) :
    (smqttConnectInternal args memory buffer).Leads fun trace connected => Served false trace ∧
      ∀ client, connected.client = .set client → implBehind false trace = true := by
  cases memory with
  | none => exact ⟨trivial, by simp⟩
  | some memory =>
      rw [smqttConnectInternal_eq, makeServer, if_pos hmode]
      apply leads_ask_bind
      intro server
      by_cases hfits : args.Fits
      · rw [if_neg (not_long hfits)]
        refine (greet_served _ buffer _).mono ?_
        rintro trace connected ⟨hserved, leaving, buffer', rfl, hwelcomed⟩
        refine ⟨⟨.inr rfl, hserved⟩, fun client hclient => ?_⟩
        cases leaving with
        | welcomed => exact hwelcomed rfl
        | _ => cases hclient
      · rw [if_pos (long_of_not_fits hfits)]
        exact ⟨⟨.inr rfl, trivial⟩, by simp⟩

/-- A dialogue stops at the first send that fails. -/
theorem converse_served {server : ServerRef} {finish : Status → Memory → Returned}
    {turns : List Turn} (hhonest : ∀ turn ∈ turns, turn.Honest) (buffer : Memory) :
    (converse server finish turns buffer).Leads fun trace returned => Served true trace ∧
      ∃ status buffer', returned = finish status buffer' ∧
        (status = .ok → implBehind true trace = true) := by
  induction turns generalizing buffer with
  | nil => exact ⟨trivial, .ok, buffer, rfl, fun _ => rfl⟩
  | cons turn turns ih =>
      obtain ⟨hturn, hturns⟩ := List.forall_mem_cons.mp hhonest
      cases turn with
      | say frame failed =>
          apply leads_ask_bind
          intro stat
          cases stat with
          | ok => exact (ih hturns buffer).mono fun trace returned hrest =>
              ⟨⟨.inl rfl, hrest.1⟩, hrest.2⟩
          | socket =>
              have hfails : failed .socket ≠ .ok := hturn
              exact ⟨⟨.inl rfl, trivial⟩, _, buffer, rfl, fun hok => absurd hok hfails⟩
      | hear expected null =>
          apply leads_ask_bind
          intro reception
          dsimp only
          split
          · exact ⟨⟨.inl rfl, trivial⟩, _, _, rfl, fun _ => rfl⟩
          · split
            · exact (ih hturns _).mono fun trace returned hrest => ⟨⟨.inl rfl, hrest.1⟩, hrest.2⟩
            · exact ⟨⟨.inl rfl, trivial⟩, _, _, rfl, fun _ => rfl⟩

theorem getNextMessage_served (client : SmqttClient) (buffer : Memory) :
    (smqttGetNextMessage client buffer).Leads fun trace returned => Served true trace ∧
      (returned.status = .ok → implBehind true trace = true) := by
  apply leads_ask_bind
  intro reception
  dsimp only
  split
  · exact ⟨⟨.inl rfl, trivial⟩, fun _ => rfl⟩
  · split
    · exact ⟨⟨.inl rfl, trivial⟩, fun _ => rfl⟩
    · rw [receiveMessage_eq_converse]
      refine (converse_served (honest_receiptTurns _) _).mono ?_
      rintro trace returned ⟨hserved, status, buffer', rfl, hok⟩
      exact ⟨⟨.inl rfl, hserved⟩, hok⟩
    · exact ⟨⟨.inl rfl, trivial⟩, fun _ => rfl⟩

theorem messageLoop_served (client : SmqttClient) (fuel : Nat) (buffer : Memory) :
    (messageLoop client buffer fuel).Leads fun trace _ => Served true trace := by
  induction fuel generalizing client buffer with
  | zero => trivial
  | succ fuel ih =>
      refine (getNextMessage_served client buffer).bind ?_
      rintro trace returned ⟨hserved, hok⟩
      by_cases hstatus : returned.status = .ok
      · rw [if_neg (not_not.mpr hstatus)]
        cases returned.message with
        | none =>
            apply leads_pure
            rwa [List.append_nil]
        | some pair =>
            obtain ⟨message, messageSize⟩ := pair
            refine (ih returned.client returned.receiveBuffer).bind ?_
            intro rest run hrest
            apply leads_pure
            rw [List.append_nil]
            have hlive := hok hstatus
            exact hserved.append (by rwa [hlive])
      · rw [if_pos hstatus]
        apply leads_pure
        rwa [List.append_nil]

theorem subscribe_served (client : SmqttClient) (buffer : Memory)
    (topics : List (CString × QoS)) :
    (smqttSubscribe client buffer topics).Leads fun trace returned => Served true trace ∧
      (returned.status = .ok → implBehind true trace = true) := by
  change ((Operation.subscribe topics).perform client buffer).Leads _
  cases hdialogue : (Operation.subscribe topics).dialogue client with
  | none =>
      obtain ⟨status, -, hpure⟩ := perform_of_refused (by simp) (by simp) hdialogue buffer
      rw [hpure]
      exact ⟨trivial, fun _ => rfl⟩
  | some pair =>
      rw [perform_eq_converse hdialogue]
      refine (converse_served (honest_of_dialogue hdialogue) buffer).mono ?_
      rintro trace returned ⟨hserved, status, buffer', rfl, hok⟩
      exact ⟨hserved, hok⟩

theorem subscribeAndPrint_served (client : SmqttClient) (buffer : Memory) (topic : CString)
    (qos : QoS) (fuel : Nat) :
    (subscribeAndPrint client buffer topic qos fuel).Leads fun trace _ => Served true trace := by
  refine (subscribe_served client buffer [(topic, qos)]).bind ?_
  rintro trace returned ⟨hserved, hok⟩
  by_cases hstatus : returned.status = .ok
  · rw [if_neg (not_not.mpr hstatus)]
    refine (messageLoop_served returned.client fuel returned.receiveBuffer).bind ?_
    intro rest run hrest
    apply leads_pure
    rw [List.append_nil]
    have hlive := hok hstatus
    exact hserved.append (by rwa [hlive])
  · rw [if_pos hstatus]
    apply leads_pure
    rwa [List.append_nil]

/-- A run with `-S` never uses a server that has been released. -/
theorem runTool_served (hmain : main argv = .ok settings)
    (hoperation : settings.operation = .subscribe) (memory : Option SmqttClient) (buffer : Memory)
    (fuel : Nat) :
    (runTool argv memory buffer fuel).Leads fun trace _ => Served false trace := by
  obtain ⟨args, topic, hargs, htopic⟩ := internal_of_main hmain
  rw [runTool_eq hmain, connectAndOperate, smqttConnect, hargs]
  have hconnect : (smqttConnectInternal args memory buffer >>= fun connected =>
      (pure (some connected) : Serve (Option Connected))).Leads fun trace connected =>
        Served false trace ∧ ∃ inner, connected = some inner ∧
          ∀ client, inner.client = .set client → implBehind false trace = true := by
    refine (connect_served (mode_of_internal hargs) memory buffer).bind ?_
    rintro trace connected ⟨hserved, hclient⟩
    apply leads_pure
    rw [List.append_nil]
    exact ⟨hserved, connected, rfl, hclient⟩
  refine hconnect.bind ?_
  rintro trace _ ⟨hserved, connected, rfl, hclient⟩
  dsimp only
  by_cases hstatus : connected.status = .ok
  · rw [if_neg (not_not.mpr hstatus)]
    cases hset : connected.client with
    | set client =>
        have hlive := hclient client hset
        dsimp only
        rw [operate, htopic, hoperation]
        refine (subscribeAndPrint_served client _ topic settings.qos fuel).mono ?_
        intro rest run hrest
        exact hserved.append (by rwa [hlive])
    | _ =>
        apply leads_pure
        rwa [List.append_nil]
  · rw [if_pos hstatus]
    apply leads_pure
    rwa [List.append_nil]

/-- **A subscriber survives the network.** Whatever the operating system answers, a run with `-S` on
the network server never goes through a null `impl`; it never ends well, and gives no DISCONNECT to
`send`. -/
theorem subscriber_survives (hmain : main argv = .ok settings)
    (hoperation : settings.operation = .subscribe) (os : OperatingSystem)
    (memory : Option SmqttClient) (buffer : Memory) (fuel : Nat) :
    ∃ run network, (runTool argv memory buffer fuel).execute (NetworkServer.handle os)
        NetworkServer.absent = some (run, network) ∧
      run.ending ≠ .exit 0 ∧ makeDisconnectMessage ∉ network.sends.map Prod.fst := by
  obtain ⟨args, topic, hargs, htopic⟩ := internal_of_main hmain
  have hserved := runTool_served hmain hoperation memory buffer fuel
  have hrun := leads_subscriber hmain hoperation hargs htopic memory buffer fuel
  obtain ⟨trace, run, network, hexecute, ⟨-, hending, hframes⟩, hsends⟩ :=
    execute_of_served os NetworkServer.absent (hserved.and hrun)
  refine ⟨run, network, hexecute, hending, fun hmem => ?_⟩
  rw [hsends] at hmem
  exact hframes.notMem hmem

theorem accepts_nothing (length : Nat) : -1 ≤ (0 : Int) ∧ (0 : Int) ≤ length :=
  ⟨by decide, Int.natCast_nonneg length⟩

theorem accepts_all (length : Nat) : -1 ≤ (length : Int) ∧ (length : Int) ≤ length :=
  ⟨le_trans (by decide) (Int.natCast_nonneg length), le_rfl⟩

/-- An operating system on which the SUBSCRIBE comes up short. -/
def shortSends : OperatingSystem where
  connect _ := true
  send clock length := if clock = 1 then ⟨length, accepts_all length⟩ else ⟨0, accepts_nothing length⟩
  receive _ := ⟨4, fun index => [0x20, 2, 0, 0][index]?⟩

theorem listener_survives : ∃ settings run network, main listenWords = .ok settings ∧
    (runTool listenWords (some freshMemory) (fun _ => 0) 5).execute
        (NetworkServer.handle shortSends) NetworkServer.absent = some (run, network) ∧
      run.ending ≠ .exit 0 ∧ makeDisconnectMessage ∉ network.sends.map Prod.fst := by
  have hmain : ∃ settings, main listenWords = .ok settings ∧ settings.operation = .subscribe :=
    ⟨_, rfl, rfl⟩
  obtain ⟨settings, hsettings, hoperation⟩ := hmain
  obtain ⟨run, network, hrun⟩ := subscriber_survives hsettings hoperation shortSends
    (some freshMemory) (fun _ => 0) 5
  exact ⟨settings, run, network, hsettings, hrun⟩

end Subscriber

/-! ### A publisher -/

section Publisher

variable {os : OperatingSystem} {network : NetworkServer} {client : SmqttClient} {buffer : Memory}

/-- The connection is made, the CONNECT is sent, and the packet that comes is no refusal. The
operating system is called three times for that. -/
structure Welcomed (os : OperatingSystem) (frame : List UInt8) (buffer : Memory) : Prop where
  connected : os.connect 0 = true
  sent : ¬ sendShort (os.send 1 frame.length).1 frame.length
  size : 0 < (os.receive 2).size
  packet : ∃ resp,
    parseBuffer (buffer.patch (os.receive 2).stored) (os.receive 2).size = some resp ∧
      (resp.type = .connack → resp = .connack connectionAccepted)

theorem execute_serverConnect {α : Type} {server : ServerRef} {hostname : CString}
    {port timeoutMsec : UInt16} {next : NetStatus → Serve α} (himpl : network.impl = true) :
    (serverConnect server hostname port timeoutMsec >>= next).execute (NetworkServer.handle os)
        network
      = (next (network.connect os).1).execute (NetworkServer.handle os) (network.connect os).2 := by
  rw [serverConnect, execute_ask_bind, NetworkServer.handle, if_pos himpl, Option.bind_some]

theorem execute_serverDisconnect {α : Type} {server : ServerRef} {next : NetStatus → Serve α}
    (himpl : network.impl = true) :
    (serverDisconnect server >>= next).execute (NetworkServer.handle os) network
      = (next .ok).execute (NetworkServer.handle os) network.disconnect.2 := by
  rw [serverDisconnect, execute_ask_bind, NetworkServer.handle, if_pos himpl, Option.bind_some]
  rfl

theorem execute_conclude {γ : Type} (os : OperatingSystem) (greeting : Greeting)
    (buffer : Memory) (size : Int) (leave : Greeting.Leaving → Memory → γ) (himpl : network.impl = true) :
    ∃ leaving network', (greeting.conclude buffer size leave).execute (NetworkServer.handle os)
        network = some (leave leaving buffer, network') ∧
      (leaving = .welcomed ↔ 0 < size ∧ ∃ resp, parseBuffer buffer size = some resp ∧
        (resp.type = .connack → resp = .connack connectionAccepted)) ∧
      (leaving = .welcomed → network' = network) := by
  unfold Greeting.conclude
  by_cases hsize : 0 < size
  · rw [if_pos hsize]
    cases hparse : parseBuffer buffer size with
    | none => exact ⟨.unparsable, network, rfl, by simp, by simp⟩
    | some resp =>
        cases resp with
        | connack type =>
            by_cases htype : type = connectionAccepted
            · dsimp only
              rw [if_neg (not_not.mpr htype)]
              exact ⟨.welcomed, network, rfl, by simp [hsize, htype], fun _ => rfl⟩
            · dsimp only
              rw [if_pos htype, execute_serverDisconnect himpl]
              exact ⟨.refused type, _, rfl, by simp [htype, Response.type], by simp⟩
        | _ => exact ⟨.welcomed, network, rfl, by simp [hsize, Response.type], fun _ => rfl⟩
  · rw [if_neg hsize, execute_serverDisconnect himpl]
    exact ⟨.nothing, _, rfl, by simp [hsize], by simp⟩

theorem execute_greet {γ : Type} (os : OperatingSystem) (greeting : Greeting) (buffer : Memory)
    (leave : Greeting.Leaving → Memory → γ) :
    ∃ leaving buffer' network, (greeting.greet buffer leave).execute (NetworkServer.handle os)
        NetworkServer.absent.createNetworkServer = some (leave leaving buffer', network) ∧
      (leaving = .welcomed ↔ Welcomed os greeting.frame buffer) ∧
      (leaving = .welcomed → network.impl = true ∧ network.clock = 3) := by
  rw [Greeting.greet, execute_serverConnect rfl]
  by_cases hconnect : os.connect 0 = true
  · have hconnected : NetworkServer.absent.createNetworkServer.connect os = (.ok, ⟨true, 1, []⟩) :=
      if_pos hconnect
    rw [hconnected]
    dsimp only
    rw [if_neg (by simp), execute_serverSend rfl]
    by_cases hsend : NetworkServer.FailsSend os ⟨true, 1, []⟩ greeting.frame
    · rw [NetworkServer.send_failed hsend]
      exact ⟨.failed, buffer, _, rfl, iff_of_false (by simp) fun h => h.sent hsend, by simp⟩
    · rw [NetworkServer.send_accepted hsend]
      dsimp only
      rw [if_neg (by simp), execute_serverReceive rfl]
      have himpl : NetworkServer.impl
          ⟨true, 3, [(greeting.frame, (os.send 1 greeting.frame.length).1)]⟩ = true := rfl
      obtain ⟨leaving, network, hexecute, hwelcomed, hnetwork⟩ := execute_conclude os greeting
        (buffer.patch (os.receive 2).stored) (os.receive 2).size leave himpl
      refine ⟨leaving, _, network, hexecute, hwelcomed.trans ?_, ?_⟩
      · exact ⟨fun h => ⟨hconnect, hsend, h.1, h.2⟩, fun h => ⟨h.size, h.packet⟩⟩
      · intro hleaving
        rw [hnetwork hleaving]
        exact ⟨rfl, rfl⟩
  · have hfailed : NetworkServer.absent.createNetworkServer.connect os =
        (.socket, ⟨false, 1, []⟩) := if_neg hconnect
    rw [hfailed]
    exact ⟨.failed, buffer, _, rfl, iff_of_false (by simp) fun h => hconnect h.connected, by simp⟩

/-- One request and its answer: where they leave the server. -/
theorem execute_ask {server : ServerRef} {finish : Status → Memory → Returned}
    {frame : List UInt8} {failed : Status → Status} {expected : Response → Bool}
    (himpl : network.impl = true) :
    ∃ status buffer' network', (converse server finish (ask frame failed expected) buffer).execute
        (NetworkServer.handle os) network = some (finish status buffer', network') ∧
      (network'.impl = true ↔ ¬ network.FailsSend os frame) ∧
      (network'.impl = true → network'.clock = network.clock + 2) := by
  change ∃ status buffer' network', (sendThen server frame _ _).execute _ network = _ ∧ _
  rw [sendThen, execute_serverSend himpl]
  by_cases hfails : network.FailsSend os frame
  · rw [NetworkServer.send_failed hfails]
    exact ⟨failed .socket, buffer, _, rfl, by simp [hfails], by simp⟩
  · rw [NetworkServer.send_accepted hfails, himpl]
    dsimp only
    rw [if_neg (by simp [statusFromNet]), converse, awaitThen, execute_serverReceive rfl]
    dsimp only
    split
    · exact ⟨.badMessage, _, _, rfl, by simp [hfails, NetworkServer.receive], fun _ => rfl⟩
    · split
      · exact ⟨.ok, _, _, rfl, by simp [hfails, NetworkServer.receive], fun _ => rfl⟩
      · exact ⟨.unexpected, _, _, rfl, by simp [hfails, NetworkServer.receive], fun _ => rfl⟩

theorem execute_disconnect (client : SmqttClient) (buffer : Memory) :
    (smqttDisconnect client buffer).execute (NetworkServer.handle os) network = none ↔
      network.impl = false ∨ network.FailsSend os makeDisconnectMessage := by
  cases himpl : network.impl with
  | false =>
      refine iff_of_true ?_ (.inl rfl)
      rw [smqttDisconnect, execute_serverSend_released himpl]
  | true =>
      rw [smqttDisconnect, execute_serverSend himpl]
      by_cases hfails : network.FailsSend os makeDisconnectMessage
      · rw [NetworkServer.send_failed hfails]
        exact iff_of_true rfl (.inr hfails)
      · rw [NetworkServer.send_accepted hfails, himpl, execute_serverDisconnect rfl]
        exact iff_of_false (by simp [statusFromNet]) (by simp [hfails])

/-- A publish is followed by a disconnect, which goes through a null `impl` if the PUBLISH or the
DISCONNECT comes up short. -/
theorem execute_publishOnce (hfresh : client.Fresh) (himpl : network.impl = true) (topic : CString)
    (msg : Option CString) :
    (publishOnce client buffer topic msg).execute (NetworkServer.handle os) network = none ↔
      network.FailsSend os (makePublishMessage topic 1 QoS1 false msg) ∨
        sendShort (os.send (network.clock + 2) 2).1 2 := by
  have hsends : publishTurns topic 1 QoS1 false msg
      = ask (makePublishMessage topic 1 QoS1 false msg) id (Response.acknowledges .puback 1) := rfl
  have hperform := perform_eq_converse (dialogue_publishOnce hfresh topic msg) buffer
  change ((Operation.publish topic msg QoS1 false).perform client buffer >>= _).execute _ _ = _ ↔ _
  rw [hperform, hsends, execute_bind]
  obtain ⟨status, buffer', network', hexecute, hlive, hclock⟩ := @execute_ask os network buffer
    client.server (finish { client with publishPacketId := 1 })
    (makePublishMessage topic 1 QoS1 false msg) id (Response.acknowledges .puback 1) himpl
  rw [hexecute, Option.bind_some]
  refine (execute_bind_pure_eq_none (smqttDisconnect _ buffer') _ network').trans ?_
  rw [execute_disconnect]
  by_cases hfails : network.FailsSend os (makePublishMessage topic 1 QoS1 false msg)
  · refine iff_of_true (.inl ?_) (.inl hfails)
    exact Bool.eq_false_iff.mpr fun h => hlive.mp h hfails
  · have hthere := hlive.mpr hfails
    have hdisconnects : network'.FailsSend os makeDisconnectMessage
        = (sendShort (os.send (network.clock + 2) 2).1 2 : Prop) := by
      rw [NetworkServer.FailsSend, hclock hthere]
      rfl
    rw [hdisconnects]
    simp [hthere, hfails]

/-- Connecting over the network: it ends with a client exactly if it is welcomed. -/
theorem execute_connect {args : ConnectArgs} (hmode : args.mode = .remoteServer)
    (os : OperatingSystem) (memory : Option SmqttClient) (buffer : Memory) :
    ∃ connected network, (smqttConnectInternal args memory buffer).execute
        (NetworkServer.handle os) NetworkServer.absent = some (connected, network) ∧
      ((∃ client, connected.client = .set client) ↔
        memory ≠ none ∧ args.Fits ∧ Welcomed os (args.frame args.clientId) buffer) ∧
      (∀ client, connected.client = .set client → connected.status = .ok ∧ client.Fresh ∧
        network.impl = true ∧ network.clock = 3) := by
  cases memory with
  | none => exact ⟨_, _, rfl, by simp, by simp⟩
  | some memory =>
      rw [smqttConnectInternal_eq, makeServer, if_pos hmode]
      by_cases hfits : args.Fits
      · obtain ⟨leaving, buffer', network, hexecute, hwelcomed, hnetwork⟩ := execute_greet os
          (args.greeting 0 30000) buffer (leaveConnect (initialise args memory 0))
        refine ⟨leaveConnect (initialise args memory 0) leaving buffer', network, ?_, ?_, ?_⟩
        · change (if _ then _ else _ : Serve Connected).execute _ _ = _
          rw [if_neg (not_long hfits)]
          exact hexecute
        · have hclient : (∃ client, (leaveConnect (initialise args memory 0) leaving buffer').client
              = .set client) ↔ leaving = .welcomed := by
            cases leaving <;> simp [leaveConnect]
          rw [hclient, hwelcomed]
          simp [hfits, ConnectArgs.greeting]
        · intro client hclient
          cases leaving with
          | welcomed =>
              obtain rfl := ClientOut.set.inj hclient
              exact ⟨rfl, ⟨rfl, rfl, rfl⟩, hnetwork rfl⟩
          | _ => cases hclient
      · refine ⟨⟨.ok, .unchanged, buffer⟩, NetworkServer.absent.createNetworkServer, ?_,
          by simp [hfits], by simp⟩
        change (if _ then _ else _ : Serve Connected).execute _ _ = _
        rw [if_pos (long_of_not_fits hfits)]
        rfl

/-- **When a publisher crashes.** On the network server a run with `-P` goes through a null `impl`
exactly if it has been welcomed and its PUBLISH or its DISCONNECT comes up short. -/
theorem publisher_crashes_iff {argv : List CString} {settings : Settings}
    (hmain : main argv = .ok settings) (hoperation : settings.operation = .publish)
    (os : OperatingSystem) (memory : Option SmqttClient) (buffer : Memory) (fuel : Nat) :
    ∃ args topic, settings.connectArgs.internal = some args ∧ settings.topic = some topic ∧
      ((runTool argv memory buffer fuel).execute (NetworkServer.handle os) NetworkServer.absent =
          none ↔ memory ≠ none ∧ args.Fits ∧ Welcomed os (args.frame args.clientId) buffer ∧
          let publish := makePublishMessage topic 1 QoS1 false settings.publishMessage
          sendShort (os.send 3 publish.length).1 publish.length ∨ sendShort (os.send 5 2).1 2) := by
  obtain ⟨args, topic, hargs, htopic⟩ := internal_of_main hmain
  refine ⟨args, topic, hargs, htopic, ?_⟩
  obtain ⟨connected, network, hexecute, hset, hclient⟩ :=
    execute_connect (mode_of_internal hargs) os memory buffer
  rw [runTool_eq hmain, connectAndOperate, smqttConnect, hargs, execute_bind]
  dsimp only
  rw [execute_bind, hexecute, Option.bind_some, execute_pure, Option.bind_some]
  dsimp only
  by_cases hthere : ∃ client, connected.client = .set client
  · have hwelcomed := hset.mp hthere
    obtain ⟨client, hthere⟩ := hthere
    obtain ⟨hstatus, hfresh, himpl, hclock⟩ := hclient client hthere
    have hpublish := @execute_publishOnce os network client connected.receiveBuffer hfresh himpl
      topic settings.publishMessage
    rw [NetworkServer.FailsSend, hclock] at hpublish
    rw [if_neg (not_not.mpr hstatus), hthere]
    dsimp only
    rw [operate, htopic, hoperation]
    exact hpublish.trans (by simp only [hwelcomed, true_and, ne_eq, not_false_eq_true])
  · have hnot : ¬ (memory ≠ none ∧ args.Fits ∧ Welcomed os (args.frame args.clientId) buffer) :=
      fun h => hthere (hset.mpr h)
    refine iff_of_false ?_ fun h => hnot ⟨h.1, h.2.1, h.2.2.1⟩
    by_cases hstatus : connected.status = .ok
    · rw [if_neg (not_not.mpr hstatus)]
      cases hnone : connected.client with
      | set client => exact absurd ⟨client, hnone⟩ hthere
      | _ => simp
    · rw [if_pos hstatus]
      simp

/-- An operating system on which everything goes well but the PUBLISH. -/
def shortPublish : OperatingSystem where
  connect _ := true
  send clock length := if clock = 3 then ⟨0, accepts_nothing length⟩ else ⟨length, accepts_all length⟩
  receive _ := ⟨4, fun index => [0x20, 2, 0, 0][index]?⟩

theorem short_publish_crashes : main helloWords = .ok helloSettings ∧
    (runTool helloWords (some freshMemory) (fun _ => 0) 0).execute
      (NetworkServer.handle shortPublish) NetworkServer.absent = none := by
  have hmain : main helloWords = .ok helloSettings := by decide
  obtain ⟨args, topic, hargs, htopic, hcrashes⟩ := publisher_crashes_iff hmain rfl shortPublish
    (some freshMemory) (fun _ => 0) 0
  obtain rfl := Option.some.inj hargs
  obtain rfl := Option.some.inj htopic
  refine ⟨hmain, hcrashes.mpr ⟨by simp, ?_, ⟨rfl, by decide, by decide, .connack 0, by decide, ?_⟩,
    .inl (by decide)⟩⟩
  · exact ⟨by decide, by decide⟩
  · exact fun _ => rfl

end Publisher

end Smqtt
