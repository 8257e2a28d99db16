import Smqtt.MtConnect

/-!
# What a successful connect means

Both clients leave the connect function by one of the same exits. Two of them return success without
an accepted connection: the one for strings that are too long, and the one for a packet that is not a
CONNACK.
-/

namespace Smqtt

/-- One outcome for every call of a server. -/
abbrev ServerTable := (call : ServerCall) → ServerAnswer call

/-- The arguments fit into the arrays of the client. -/
def ConnectArgs.Fits (args : ConnectArgs) : Prop :=
  strlen args.clientId < maxClientIdChars ∧ strlen args.serverIp < maxHostnameChars

/-- What `deserialize_response` makes of the packet that is received, if there is one. -/
def ServerTable.packet (table : ServerTable) (server : ServerRef) (buffer : Memory) :
    Option Response :=
  parseBuffer (buffer.patch (table (.receive server)).stored) (table (.receive server)).size

/-- The calls made include a successful connection, a successful send and a CONNACK that accepts. -/
structure Accepted (table : ServerTable) (buffer : Memory) (calls : List ServerCall) : Prop where
  connected : ∃ server hostname port timeoutMsec,
    .connect server hostname port timeoutMsec ∈ calls ∧
      table (.connect server hostname port timeoutMsec) = .ok
  sent : ∃ server frame, .send server frame ∈ calls ∧ table (.send server frame) = .ok
  received : ∃ server, .receive server ∈ calls ∧ 0 < (table (.receive server)).size ∧
    table.packet server buffer = some (.connack connectionAccepted)

/-- Success is returned for an accepted connection and for nothing else; `client` is the flag of the
client that is set, if one is. -/
structure ConnectSound (table : ServerTable) (buffer : Memory) (calls : List ServerCall) (ok : Prop)
    (client : Option Bool) : Prop where
  ok_iff : ok ↔ Accepted table buffer calls
  set : ok → client = some true
  unset : ¬ ok → client = none

/-- The calls through one server, as a connect function makes them. -/
structure Greeting where
  server : ServerRef
  hostname : CString
  port : UInt16
  timeoutMsec : UInt16
  frame : List UInt8

namespace Greeting

def connect (greeting : Greeting) : ServerCall :=
  .connect greeting.server greeting.hostname greeting.port greeting.timeoutMsec

def send (greeting : Greeting) : ServerCall := .send greeting.server greeting.frame

def receive (greeting : Greeting) : ServerCall := .receive greeting.server

/-- The greeting is answered by a packet. -/
structure Answered (greeting : Greeting) (table : ServerTable) (buffer : Memory)
    (packet : Option Response) : Prop where
  connected : table greeting.connect = .ok
  sent : table greeting.send = .ok
  size : 0 < (table greeting.receive).size
  packet : table.packet greeting.server buffer = packet

/-- The packet that answers the greeting is not a CONNACK. -/
def Misanswered (greeting : Greeting) (table : ServerTable) (buffer : Memory) : Prop :=
  ∃ resp, greeting.Answered table buffer (some resp) ∧ resp.type ≠ .connack

/-- The ways out of a connect function behind its check of the strings. -/
inductive Leaving where
  | failed
  | nothing
  | unparsable
  | refused (type : UInt8)
  | welcomed

/-- What both connect functions do with what they have received. -/
def conclude {γ : Type} (greeting : Greeting) (buffer : Memory) (size : Int)
    (leave : Leaving → Memory → γ) : Serve γ :=
  if size > 0 then
    match parseBuffer buffer size with
    | none => pure (leave .unparsable buffer)
    | some (.connack type) =>
        if type ≠ connectionAccepted then do
          let _ ← serverDisconnect greeting.server
          pure (leave (.refused type) buffer)
        else pure (leave .welcomed buffer)
    | some _ => pure (leave .welcomed buffer)
  else do
    let _ ← serverDisconnect greeting.server
    pure (leave .nothing buffer)

/-- What both connect functions do; they differ in what they return at an exit. -/
def greet {γ : Type} (greeting : Greeting) (buffer : Memory) (leave : Leaving → Memory → γ) :
    Serve γ := do
  let stat ← serverConnect greeting.server greeting.hostname greeting.port greeting.timeoutMsec
  if stat ≠ .ok then pure (leave .failed buffer)
  else
    let stat ← serverSend greeting.server greeting.frame
    if stat ≠ .ok then pure (leave .failed buffer)
    else
      let reception ← serverReceive greeting.server
      greeting.conclude (buffer.patch reception.stored) reception.size leave

/-- Which calls are made up to an exit, and what they have led to. -/
inductive Exit (greeting : Greeting) (table : ServerTable) (buffer : Memory) :
    List ServerCall → Leaving → Prop
  | notConnected (hconnect : table greeting.connect ≠ .ok) :
      Exit greeting table buffer [greeting.connect] .failed
  | notSent (hconnect : table greeting.connect = .ok) (hsend : table greeting.send ≠ .ok) :
      Exit greeting table buffer [greeting.connect, greeting.send] .failed
  | nothing (hconnect : table greeting.connect = .ok) (hsend : table greeting.send = .ok)
      (hsize : ¬ 0 < (table greeting.receive).size) :
      Exit greeting table buffer
        [greeting.connect, greeting.send, greeting.receive, .disconnect greeting.server] .nothing
  | unparsable (hanswered : greeting.Answered table buffer none) :
      Exit greeting table buffer [greeting.connect, greeting.send, greeting.receive] .unparsable
  | refused {type : UInt8} (hanswered : greeting.Answered table buffer (some (.connack type)))
      (htype : type ≠ connectionAccepted) :
      Exit greeting table buffer
        [greeting.connect, greeting.send, greeting.receive, .disconnect greeting.server]
        (.refused type)
  | welcomed {resp : Response} (hanswered : greeting.Answered table buffer (some resp))
      (hresp : resp.type = .connack → resp = .connack connectionAccepted) :
      Exit greeting table buffer [greeting.connect, greeting.send, greeting.receive] .welcomed

section Takes

open Interaction

variable {γ : Type} {table : ServerTable} {buffer : Memory} {leave : Leaving → Memory → γ}

theorem conclude_exit {greeting : Greeting} {reception : Reception}
    (hconnect : table greeting.connect = .ok) (hsend : table greeting.send = .ok)
    (hreception : table greeting.receive = reception) : ∃ calls leaving buffer',
    Takes table (greeting.conclude (buffer.patch reception.stored) reception.size leave) calls
        (leave leaving buffer') ∧
      greeting.Exit table buffer ([greeting.connect, greeting.send, greeting.receive] ++ calls)
        leaving := by
  subst hreception
  rw [conclude]
  by_cases hsize : 0 < (table greeting.receive).size
  · have hanswered {packet : Option Response}
        (hpacket : parseBuffer (buffer.patch (table greeting.receive).stored)
          (table greeting.receive).size = packet) : greeting.Answered table buffer packet :=
      ⟨hconnect, hsend, hsize, hpacket⟩
    rw [if_pos hsize]
    cases hpacket : parseBuffer (buffer.patch (table greeting.receive).stored)
      (table greeting.receive).size with
    | none => exact ⟨_, _, _, takes_pure _, .unparsable (hanswered hpacket)⟩
    | some resp =>
        cases resp with
        | connack type =>
            by_cases htype : type = connectionAccepted
            · exact ⟨_, _, _, takes_if_neg (not_not.mpr htype) (takes_pure _),
                .welcomed (hanswered hpacket) (fun _ => by rw [htype])⟩
            · exact ⟨_, _, _, takes_if_pos htype (takes_ask_bind (takes_pure _)),
                .refused (hanswered hpacket) htype⟩
        | _ => exact ⟨_, _, _, takes_pure _, .welcomed (hanswered hpacket) (by simp [Response.type])⟩
  · rw [if_neg hsize]
    exact ⟨_, _, _, takes_ask_bind (takes_pure _), .nothing hconnect hsend hsize⟩

theorem greet_exit (greeting : Greeting) (table : ServerTable) (buffer : Memory)
    (leave : Leaving → Memory → γ) : ∃ calls leaving buffer',
    Takes table (greeting.greet buffer leave) calls (leave leaving buffer') ∧
      greeting.Exit table buffer calls leaving := by
  by_cases hconnect : table greeting.connect = .ok
  · by_cases hsend : table greeting.send = .ok
    · obtain ⟨calls, leaving, buffer', htakes, hexit⟩ :=
        @conclude_exit γ table buffer leave greeting _ hconnect hsend rfl
      exact ⟨_, leaving, buffer', takes_ask_bind (takes_if_neg (not_not.mpr hconnect)
        (takes_ask_bind (takes_if_neg (not_not.mpr hsend) (takes_ask_bind htakes)))), hexit⟩
    · exact ⟨_, _, _, takes_ask_bind (takes_if_neg (not_not.mpr hconnect)
        (takes_ask_bind (takes_if_pos hsend (takes_pure _)))), .notSent hconnect hsend⟩
  · exact ⟨_, _, _, takes_ask_bind (takes_if_pos hconnect (takes_pure _)), .notConnected hconnect⟩

end Takes

end Greeting

theorem refusal_ne_ok (type : UInt8) : refusal type ≠ .ok := by
  unfold refusal
  split <;> simp

theorem mtRefusal_ne_ok (type : UInt8) : mtRefusal type ≠ .ok := by
  unfold mtRefusal
  split <;> simp

theorem arrayString_strcpy (array : List UInt8) (str : CString) :
    arrayString (strcpy array str) = str := by
  obtain ⟨bytes, hbytes⟩ := str
  have hall : ∀ byte ∈ bytes, decide (byte ≠ 0) = true := by
    intro byte hmem
    simp only [decide_eq_true_eq]
    rintro rfl
    exact hbytes hmem
  simp only [arrayString, strcpy, cString, CString.mk.injEq]
  rw [List.takeWhile_append_of_pos hall]
  simp

def ClientOut.connected : ClientOut → Option Bool
  | unchanged => none
  | null => some false
  | set client => some client.connected

/-- How `smqtt_connect_internal` greets its server. -/
def ConnectArgs.greeting (args : ConnectArgs) (server : ServerRef) (timeoutMsec : UInt16) :
    Greeting :=
  ⟨server, args.serverIp, UInt16.ofNat args.port.toNat, timeoutMsec, args.frame args.clientId⟩

/-- The server that is greeted, by the mode. -/
def ConnectArgs.server (args : ConnectArgs) (table : ServerTable) (otherwise : ServerRef) :
    ServerRef :=
  if args.mode = .remoteServer then table .createNetworkServer else otherwise

/-- The calls made before the greeting. -/
def ConnectArgs.created (args : ConnectArgs) : List ServerCall :=
  if args.mode = .remoteServer then [.createNetworkServer] else []

section Exits

variable {args : ConnectArgs} {table : ServerTable} {buffer : Memory}

theorem makeServer_takes (otherwise : ServerRef) :
    Interaction.Takes table (makeServer args.mode otherwise) args.created
      (args.server table otherwise) := by
  refine ⟨?_, ?_⟩
  · rw [makeServer, Interaction.calls_ite]
    rfl
  · rw [makeServer, Interaction.eval_ite]
    rfl

theorem not_long (hfits : args.Fits) :
    ¬ (strlen args.clientId + 1 > maxClientIdChars ∨
      strlen args.serverIp + 1 > maxHostnameChars) := by
  obtain ⟨hclient, hserver⟩ := hfits
  omega

/-- What `smqtt_connect_internal` returns at an exit. -/
def leaveConnect (connection : SmqttClient) (leaving : Greeting.Leaving) (buffer : Memory) :
    Connected :=
  match leaving with
  | .failed => ⟨.socket, .unchanged, buffer⟩
  | .nothing => ⟨.nomessage, .unchanged, buffer⟩
  | .unparsable => ⟨.number 99, .unchanged, buffer⟩
  | .refused type => ⟨refusal type, .unchanged, buffer⟩
  | .welcomed => ⟨.ok, .set { connection with connected := true }, buffer⟩

theorem greetServer_eq_greet (memory : SmqttClient) (server : ServerRef) :
    greetServer args (initialise args memory server) buffer
      = (args.greeting server 30000).greet buffer
          (leaveConnect (initialise args memory server)) := by
  have hhostname : arrayString (initialise args memory server).hostname = args.serverIp :=
    arrayString_strcpy _ _
  have hclientid : arrayString (initialise args memory server).clientid = args.clientId :=
    arrayString_strcpy _ _
  rw [greetServer, hhostname, hclientid]
  refine congrArg (Interaction.call _) (funext fun stat => ?_)
  cases stat with
  | socket => rfl
  | ok =>
      refine congrArg (Interaction.call _) (funext fun stat => ?_)
      cases stat with
      | socket => rfl
      | ok => rfl

/-- What `smqtt_mt_connect_internal` returns at an exit. -/
def leaveMtConnect (connected : Client) (leaving : Greeting.Leaving) (buffer : Memory) :
    MtConnected :=
  match leaving with
  | .failed => ⟨.socket, none, buffer⟩
  | .nothing => ⟨.nomessage, none, buffer⟩
  | .unparsable => ⟨.number 99, none, buffer⟩
  | .refused type => ⟨mtRefusal type, none, buffer⟩
  | .welcomed => ⟨.ok, some connected, buffer⟩

theorem mtGreetServer_eq_greet (connected : Client) (server : ServerRef) :
    mtGreetServer args connected server buffer
      = (args.greeting server 100).greet buffer (leaveMtConnect connected) := by
  refine congrArg (Interaction.call _) (funext fun stat => ?_)
  cases stat with
  | socket => rfl
  | ok =>
      refine congrArg (Interaction.call _) (funext fun stat => ?_)
      cases stat with
      | socket => rfl
      | ok => rfl

theorem smqttConnectInternal_eq (args : ConnectArgs) (memory : SmqttClient) (buffer : Memory) :
    smqttConnectInternal args (some memory) buffer
      = makeServer args.mode memory.server >>= fun server =>
        if strlen args.clientId + 1 > maxClientIdChars ∨ strlen args.serverIp + 1 > maxHostnameChars
        then pure ⟨.ok, .unchanged, buffer⟩
        else (args.greeting server 30000).greet buffer
          (leaveConnect (initialise args memory server)) := by
  rw [smqttConnectInternal]
  simp only [greetServer_eq_greet]

theorem smqttMtConnectInternal_eq (args : ConnectArgs) (msgCallback : Callback) (msgCbContext : Nat)
    (memory : Client) (buffer : Memory) :
    smqttMtConnectInternal args msgCallback msgCbContext (some memory) buffer
      = makeServer args.mode 0 >>= fun server =>
        if strlen args.clientId + 1 > maxClientIdChars ∨ strlen args.serverIp + 1 > maxHostnameChars
        then pure ⟨.ok, none, buffer⟩
        else (args.greeting server 100).greet buffer (leaveMtConnect
          (startSessionThread (connectedClient memory msgCallback msgCbContext) 10 1024)) := by
  rw [smqttMtConnectInternal]
  simp only [mtGreetServer_eq_greet]

theorem mem_created {call : ServerCall} (hmem : call ∈ args.created) :
    call = .createNetworkServer := by
  rw [ConnectArgs.created] at hmem
  split at hmem
  · exact List.mem_singleton.mp hmem
  · cases hmem

variable {greeting : Greeting} {calls : List ServerCall} {leaving : Greeting.Leaving}

/-- A packet that accepts has come through the server that was greeted. -/
theorem Greeting.Exit.packet_of_accepted (hexit : greeting.Exit table buffer calls leaving)
    (haccepted : Accepted table buffer (args.created ++ calls)) :
    0 < (table greeting.receive).size ∧
      table.packet greeting.server buffer = some (.connack connectionAccepted) := by
  obtain ⟨server, hmem, hsize, hpacket⟩ := haccepted.received
  have hserver : server = greeting.server := by
    obtain hmem | hmem := List.mem_append.mp hmem
    · cases mem_created hmem
    · cases hexit with
      | notConnected => simp [connect] at hmem
      | notSent => simp [connect, send] at hmem
      | _ => simpa [connect, send, receive] using hmem
  subst hserver
  exact ⟨hsize, hpacket⟩

theorem Greeting.Exit.not_accepted (hexit : greeting.Exit table buffer calls leaving)
    (hleaving : leaving ≠ .welcomed) : ¬ Accepted table buffer (args.created ++ calls) := by
  intro haccepted
  obtain ⟨hsize, hpacket⟩ := hexit.packet_of_accepted haccepted
  obtain ⟨server, hmem, -, -⟩ := haccepted.received
  obtain hmem | hmem := List.mem_append.mp hmem
  · cases mem_created hmem
  cases hexit with
  | notConnected => simp [connect] at hmem
  | notSent => simp [connect, send] at hmem
  | nothing _ _ hnothing => exact hnothing hsize
  | unparsable hanswered => simp [hanswered.packet] at hpacket
  | refused hanswered htype =>
      rw [hanswered.packet] at hpacket
      exact htype (by simpa using hpacket)
  | welcomed => exact hleaving rfl

/-- Of the exits only the last can return success without an accepted connection, and it does when
the packet is not a CONNACK. -/
theorem Greeting.Exit.sound_iff (hexit : greeting.Exit table buffer calls leaving) {ok : Prop}
    {client : Option Bool} (hok : ok ↔ leaving = .welcomed)
    (hset : leaving = .welcomed → client = some true)
    (hunset : leaving ≠ .welcomed → client = none) :
    ConnectSound table buffer (args.created ++ calls) ok client ↔
      ¬ greeting.Misanswered table buffer := by
  constructor
  · rintro hsound ⟨resp, hanswered, htype⟩
    have hleaving : leaving = .welcomed := by
      cases hexit with
      | notConnected hconnect => exact absurd hanswered.connected hconnect
      | notSent _ hsend => exact absurd hanswered.sent hsend
      | nothing _ _ hnothing => exact absurd hanswered.size hnothing
      | unparsable hnull => exact absurd (hnull.packet.symm.trans hanswered.packet) (by simp)
      | refused hrefused _ =>
          obtain rfl := Option.some.inj (hrefused.packet.symm.trans hanswered.packet)
          exact absurd rfl htype
      | welcomed => rfl
    obtain ⟨-, hpacket⟩ := hexit.packet_of_accepted (hsound.ok_iff.mp (hok.mpr hleaving))
    obtain rfl := Option.some.inj (hanswered.packet.symm.trans hpacket)
    exact htype rfl
  · intro hanswer
    by_cases hleaving : leaving = .welcomed
    · refine ⟨iff_of_true (hok.mpr hleaving) ?_, fun _ => hset hleaving,
        fun hnot => absurd (hok.mpr hleaving) hnot⟩
      subst hleaving
      cases hexit with
      | @welcomed resp hanswered hresp =>
          have htype : resp.type = .connack := by
            by_contra htype
            exact hanswer ⟨resp, hanswered, htype⟩
          refine ⟨⟨_, _, _, _, ?_, hanswered.connected⟩, ⟨_, _, ?_, hanswered.sent⟩,
            greeting.server, ?_, hanswered.size, hresp htype ▸ hanswered.packet⟩ <;>
            simp [connect, send, receive]
    · exact ⟨iff_of_false (mt hok.mp hleaving) (hexit.not_accepted hleaving),
        fun h => absurd (hok.mp h) hleaving, fun _ => hunset hleaving⟩

/-- Strings that do not fit are reported as a success without a connection. -/
theorem not_sound_of_created {client : Option Bool} :
    ¬ ConnectSound table buffer args.created True client := by
  intro hsound
  obtain ⟨_, _, _, _, hmem, -⟩ := (hsound.ok_iff.mp trivial).connected
  cases mem_created hmem

theorem long_of_not_fits (hfits : ¬ args.Fits) :
    strlen args.clientId + 1 > maxClientIdChars ∨
      strlen args.serverIp + 1 > maxHostnameChars := by
  rw [ConnectArgs.Fits, not_and_or] at hfits
  omega

open Interaction in
/-- A connect function that greets its server in the common way is sound unless its strings are too
long or the greeting is answered by another packet. -/
theorem sound_iff_of_greets {γ : Type} {tree : Serve γ} {otherwise : ServerRef}
    {timeoutMsec : UInt16} (ok : γ → Prop) (client : γ → Option Bool) (early : γ)
    (leave : ServerRef → Greeting.Leaving → Memory → γ)
    (htree : tree = makeServer args.mode otherwise >>= fun server =>
      if strlen args.clientId + 1 > maxClientIdChars ∨ strlen args.serverIp + 1 > maxHostnameChars
      then pure early else (args.greeting server timeoutMsec).greet buffer (leave server))
    (hearly : ok early)
    (hok : ∀ server leaving buffer', ok (leave server leaving buffer') ↔ leaving = .welcomed)
    (hset : ∀ server buffer', client (leave server .welcomed buffer') = some true)
    (hunset : ∀ server leaving buffer', leaving ≠ .welcomed →
      client (leave server leaving buffer') = none) :
    ConnectSound table buffer (tree.calls table) (ok (tree.eval table)) (client (tree.eval table)) ↔
      args.Fits ∧
        ¬ (args.greeting (args.server table otherwise) timeoutMsec).Misanswered table buffer := by
  by_cases hfits : args.Fits
  · obtain ⟨calls, leaving, buffer', hgreet, hexit⟩ :=
      (args.greeting (args.server table otherwise) timeoutMsec).greet_exit table buffer
        (leave (args.server table otherwise))
    have htakes : Takes table tree (args.created ++ calls)
        (leave (args.server table otherwise) leaving buffer') := by
      rw [htree]
      exact (makeServer_takes otherwise).bind (takes_if_neg (not_long hfits) hgreet)
    rw [htakes.calls, htakes.eval, and_iff_right hfits]
    exact hexit.sound_iff (hok _ _ _) (fun hleaving => hleaving ▸ hset _ _) (hunset _ _ _)
  · have htakes : Takes table tree (args.created ++ []) early := by
      rw [htree]
      exact (makeServer_takes otherwise).bind
        (takes_if_pos (long_of_not_fits hfits) (takes_pure early))
    rw [List.append_nil] at htakes
    rw [htakes.calls, htakes.eval, eq_true hearly]
    exact iff_of_false not_sound_of_created fun h => hfits h.1

end Exits

/-- **Connect soundness.** Either client reports success exactly for accepted connections, and sets
the client exactly then, unless the strings are too long or the first packet is not a CONNACK. -/
theorem connect_sound_iff (args : ConnectArgs) (memory : SmqttClient) (mtMemory : Client)
    (msgCallback : Callback) (msgCbContext : Nat) (buffer : Memory) (table : ServerTable) :
    (ConnectSound table buffer ((smqttConnectInternal args (some memory) buffer).calls table)
        (((smqttConnectInternal args (some memory) buffer).eval table).status = .ok)
        ((smqttConnectInternal args (some memory) buffer).eval table).client.connected ↔
      args.Fits ∧
        ¬ (args.greeting (args.server table memory.server) 30000).Misanswered table buffer) ∧
    (ConnectSound table buffer
        ((smqttMtConnectInternal args msgCallback msgCbContext (some mtMemory) buffer).calls table)
        (((smqttMtConnectInternal args msgCallback msgCbContext (some mtMemory) buffer).eval
          table).status = .ok)
        (((smqttMtConnectInternal args msgCallback msgCbContext (some mtMemory) buffer).eval
          table).client.map Client.connected) ↔
      args.Fits ∧ ¬ (args.greeting (args.server table 0) 100).Misanswered table buffer) := by
  constructor
  · refine sound_iff_of_greets (fun out : Connected => out.status = .ok)
      (fun out => out.client.connected) ⟨.ok, .unchanged, buffer⟩
      (fun server => leaveConnect (initialise args memory server))
      (smqttConnectInternal_eq args memory buffer) rfl ?_ ?_ ?_
    · intro server leaving buffer'
      cases leaving <;> simp [leaveConnect, refusal_ne_ok]
    · exact fun _ _ => rfl
    · intro server leaving buffer' hleaving
      cases leaving <;> first | rfl | exact absurd rfl hleaving
  · refine sound_iff_of_greets (fun out : MtConnected => out.status = .ok)
      (fun out => out.client.map Client.connected) ⟨.ok, none, buffer⟩
      (fun _ => leaveMtConnect
        (startSessionThread (connectedClient mtMemory msgCallback msgCbContext) 10 1024))
      (smqttMtConnectInternal_eq args msgCallback msgCbContext mtMemory buffer) rfl ?_ ?_ ?_
    · intro server leaving buffer'
      cases leaving <;> simp [leaveMtConnect, mtRefusal_ne_ok]
    · exact fun _ _ => rfl
    · intro server leaving buffer' hleaving
      cases leaving <;> first | rfl | exact absurd rfl hleaving

/-- Frames can be sent, and nothing is received. -/
def silentTable : ServerTable
  | .createNetworkServer => (0 : Nat)
  | .connect _ _ _ _ => .ok
  | .send _ _ => .ok
  | .receive _ => ⟨0, fun _ => none⟩
  | .disconnect _ => .ok

/-- A client id of 24 bytes is a success without any connection. -/
theorem long_client_id_reports_success : ∃ (args : ConnectArgs) (memory : SmqttClient)
    (table : ServerTable), strlen args.clientId = 24 ∧
      (smqttConnectInternal args (some memory) (fun _ => 0)).calls table = [.createNetworkServer] ∧
      ((smqttConnectInternal args (some memory) (fun _ => 0)).eval table).status = .ok ∧
      ¬ ConnectSound table (fun _ => 0)
        ((smqttConnectInternal args (some memory) (fun _ => 0)).calls table)
        (((smqttConnectInternal args (some memory) (fun _ => 0)).eval table).status = .ok)
        ((smqttConnectInternal args (some memory) (fun _ => 0)).eval table).client.connected := by
  let long : CString := ⟨List.replicate 24 97, by decide⟩
  let args : ConnectArgs :=
    ⟨.remoteServer, ⟨[104], by decide⟩, 1883, long, none, none, 0, false, QoS0, false, none⟩
  let memory : SmqttClient := ⟨[], [], 0, false, 0, 0, 0, 0⟩
  have hcalls : (smqttConnectInternal args (some memory) (fun _ => 0)).calls silentTable
      = [.createNetworkServer] := by decide
  have hstatus :
      ((smqttConnectInternal args (some memory) (fun _ => 0)).eval silentTable).status = .ok := by decide
  refine ⟨args, memory, silentTable, by decide, hcalls, hstatus, fun hsound => ?_⟩
  obtain ⟨_, _, _, _, hmem, -⟩ := (hsound.ok_iff.mp hstatus).connected
  rw [hcalls] at hmem
  cases List.mem_singleton.mp hmem

end Smqtt
