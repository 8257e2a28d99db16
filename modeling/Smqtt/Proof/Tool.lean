import Smqtt.Tool
import Smqtt.Proof.Capacity
import Smqtt.Proof.CommandLine
import Smqtt.Proof.Connect
import Smqtt.Proof.Exchange
import Smqtt.Proof.Receipt

/-!
# Runs of the command-line tool

Whatever the server answers, the tool connects, makes its one exchange or prints one message after
another, and ends. The lines of `main` and the exit code are read off the trace of calls and answers.
-/

namespace Smqtt

open Interaction

/-- A call of the server and its answer. -/
abbrev ServerExchange := Σ call : ServerCall, ServerAnswer call

/-- The frames that are handed to `server_send` in a trace. -/
def traceFrames (trace : List ServerExchange) : List (List UInt8) :=
  sentFrames (trace.map Sigma.fst)

/-- The buffer behind one answer. -/
def ServerExchange.store (buffer : Memory) : ServerExchange → Memory
  | ⟨.receive _, reception⟩ => buffer.patch reception.stored
  | _ => buffer

/-- The receive buffer behind a trace. -/
def traceBuffer (buffer : Memory) (trace : List ServerExchange) : Memory :=
  trace.foldl ServerExchange.store buffer

/-- All turns are taken: every frame could be sent, and every packet is the one that is due. -/
def Completed (server : ServerRef) : Memory → List Turn → List ServerExchange → Prop
  | _, [], trace => trace = []
  | buffer, .say frame _ :: turns, trace =>
      ∃ rest, trace = ⟨.send server frame, .ok⟩ :: rest ∧ Completed server buffer turns rest
  | buffer, .hear expected _ :: turns, trace =>
      ∃ reception resp rest, trace = ⟨.receive server, reception⟩ :: rest ∧
        parseBuffer (buffer.patch reception.stored) reception.size = some resp ∧ expected resp ∧
        Completed server (buffer.patch reception.stored) turns rest

def Turn.spoken : Turn → Option (List UInt8)
  | say frame _ => some frame
  | hear _ _ => none

/-- The frames that the turns call for. -/
def spokenFrames (turns : List Turn) : List (List UInt8) := turns.filterMap Turn.spoken

/-! ### What `main` has read -/

section Settings

variable {argv words : List CString} {settings : Settings} {effect effects : Settings → Settings}

/-- No option that `main` reads asks for a will. -/
theorem Loose.lastWill (hloose : Loose words effect) (settings : Settings) :
    (effect settings).lastWill = settings.lastWill := by
  cases hloose with
  | qos hword hvalue =>
      rename_i level
      cases level <;> rfl
  | _ => rfl

theorem LooseOptions.lastWill (hloose : LooseOptions words effects) (settings : Settings) :
    (effects settings).lastWill = settings.lastWill := by
  induction hloose generalizing settings with
  | nil => rfl
  | cons hfirst _ ih => exact (ih _).trans (hfirst.lastWill settings)

theorem readHost_lastWill (settings : Settings) (hostPort : CString) :
    (readHost settings hostPort).lastWill = settings.lastWill := by
  unfold readHost
  split <;> rfl

/-- When `main` comes to connect, the client id and the topic are there, and there is no will. -/
theorem settings_of_main (hmain : main argv = .ok settings) :
    ∃ clientId topic, settings.clientId = some clientId ∧ settings.topic = some topic ∧
      settings.lastWill = false := by
  obtain hline | husage | hdangling := main_cases argv
  · obtain ⟨operation, start, words, effects, host, clientId, topic, extra, hoperation, hwords,
      hhost, harguments⟩ := hline
    obtain ⟨spare, arg, hread, hdrop, -, -⟩ :=
      main_of_looseOptions hoperation hwords (List.cons_ne_nil _ _) harguments
    rw [hread, readRest_of_positionals hdrop hhost] at hmain
    obtain rfl := Except.ok.inj hmain
    refine ⟨clientId, topic, rfl, rfl, ?_⟩
    calc (readHost (effects (start initialSettings)) host).lastWill
        = (start initialSettings).lastWill := by rw [readHost_lastWill, hwords.lastWill]
      _ = false := by cases hoperation <;> rfl
  · rw [husage] at hmain
    cases hmain
  · rw [main_of_danglingLine hdangling] at hmain
    cases hmain

/-- No string that `smqtt_connect` reads is null. -/
theorem internal_of_main (hmain : main argv = .ok settings) :
    ∃ args topic, settings.connectArgs.internal = some args ∧ settings.topic = some topic := by
  obtain ⟨clientId, topic, hclientId, htopic, hwill⟩ := settings_of_main hmain
  cases hinternal : settings.connectArgs.internal with
  | some args => exact ⟨args, topic, rfl, htopic⟩
  | none =>
      simp [SmqttConnectArgs.internal, SmqttConnectArgs.will, Settings.connectArgs, hclientId,
        hwill] at hinternal

end Settings

/-! ### Dialogues -/

section Dialogues

variable {server : ServerRef} {buffer : Memory} {finish : Status → Memory → Returned}
  {turns : List Turn} {trace rest : List ServerExchange}

theorem completed_say {frame : List UInt8} {failed : Status → Status} {stat : NetStatus} :
    Completed server buffer (.say frame failed :: turns) (⟨.send server frame, stat⟩ :: rest) ↔
      stat = .ok ∧ Completed server buffer turns rest := by
  constructor
  · rintro ⟨rest', heq, hrest⟩
    obtain ⟨hhead, rfl⟩ := List.cons.inj heq
    exact ⟨eq_of_heq (Sigma.mk.inj hhead).2, hrest⟩
  · rintro ⟨rfl, hrest⟩
    exact ⟨rest, rfl, hrest⟩

theorem completed_hear {expected : Response → Bool} {null : Status} {reception : Reception} :
    Completed server buffer (.hear expected null :: turns) (⟨.receive server, reception⟩ :: rest) ↔
      (parseBuffer (buffer.patch reception.stored) reception.size).any expected ∧
        Completed server (buffer.patch reception.stored) turns rest := by
  constructor
  · rintro ⟨other, resp, rest', heq, hparse, hexpected, hrest⟩
    obtain ⟨hhead, rfl⟩ := List.cons.inj heq
    obtain rfl : reception = other := eq_of_heq (Sigma.mk.inj hhead).2
    rw [hparse]
    exact ⟨hexpected, hrest⟩
  · rintro ⟨hany, hrest⟩
    cases hparse : parseBuffer (buffer.patch reception.stored) reception.size with
    | none => simp [hparse] at hany
    | some resp =>
        rw [hparse] at hany
        exact ⟨reception, resp, rest, rfl, hparse, hany, hrest⟩

theorem Completed.frames (hcompleted : Completed server buffer turns trace) :
    traceFrames trace = spokenFrames turns := by
  induction turns generalizing buffer trace with
  | nil =>
      obtain rfl : trace = [] := hcompleted
      rfl
  | cons turn turns ih =>
      cases turn with
      | say frame failed =>
          obtain ⟨rest, rfl, hrest⟩ := hcompleted
          exact congrArg (frame :: ·) (ih hrest)
      | hear expected null =>
          obtain ⟨reception, resp, rest, rfl, -, -, hrest⟩ := hcompleted
          change traceFrames rest = spokenFrames turns
          exact ih hrest

/-- **A dialogue** ends well exactly if all its turns were taken, and sends the first of the frames
that they call for. -/
theorem leads_converse (hhonest : ∀ turn ∈ turns, turn.Honest) (buffer : Memory) :
    (converse server finish turns buffer).Leads fun trace returned =>
      ∃ status, returned = finish status (traceBuffer buffer trace) ∧
        (status = .ok ↔ Completed server buffer turns trace) ∧
        traceFrames trace <+: spokenFrames turns := by
  induction turns generalizing buffer with
  | nil => exact ⟨.ok, rfl, iff_of_true rfl rfl, List.prefix_rfl⟩
  | cons turn turns ih =>
      obtain ⟨hturn, hturns⟩ := List.forall_mem_cons.mp hhonest
      cases turn with
      | say frame failed =>
          have hspoken : spokenFrames (.say frame failed :: turns) = frame :: spokenFrames turns :=
            rfl
          rw [hspoken]
          apply leads_ask_bind
          intro stat
          cases stat with
          | ok =>
              refine (ih hturns buffer).mono ?_
              rintro trace returned ⟨status, hreturned, hok, hframes⟩
              refine ⟨status, hreturned, by rw [completed_say, hok]; simp, ?_⟩
              exact List.cons_prefix_cons.mpr ⟨rfl, hframes⟩
          | socket =>
              have hfails : failed .socket ≠ .ok := hturn
              refine ⟨failed .socket, rfl, by simp [completed_say, hfails], ?_⟩
              exact List.cons_prefix_cons.mpr ⟨rfl, List.nil_prefix⟩
      | hear expected null =>
          apply leads_ask_bind
          intro reception
          dsimp only
          have hfails : null ≠ .ok := hturn
          cases hparse : parseBuffer (buffer.patch reception.stored) reception.size with
          | none =>
              exact ⟨null, rfl, by simp [completed_hear, hparse, hfails], List.nil_prefix⟩
          | some resp =>
              dsimp only
              cases hexpected : expected resp with
              | false =>
                  rw [if_neg Bool.false_ne_true]
                  exact ⟨.unexpected, rfl, by simp [completed_hear, hparse, hexpected],
                    List.nil_prefix⟩
              | true =>
                  rw [if_pos rfl]
                  refine (ih hturns (buffer.patch reception.stored)).mono ?_
                  rintro trace returned ⟨status, hreturned, hok, hframes⟩
                  refine ⟨status, hreturned, ?_, hframes⟩
                  rw [completed_hear, hparse, hok]
                  simp [hexpected]

/-- A request is sent, whatever comes of it. -/
theorem leads_ask (frame : List UInt8) (failed : Status → Status) (expected : Response → Bool) :
    (converse server finish (ask frame failed expected) buffer).Leads fun trace _ =>
      traceFrames trace = [frame] := by
  apply leads_ask_bind
  intro stat
  cases stat with
  | socket => rfl
  | ok =>
      apply leads_ask_bind
      intro reception
      dsimp only
      split
      · rfl
      · split <;> rfl

end Dialogues

/-! ### Connecting -/

section Connecting

variable {args : ConnectArgs} {buffer : Memory}

/-- A client as `smqtt_connect` leaves it. -/
structure SmqttClient.Fresh (client : SmqttClient) : Prop where
  connected : client.connected
  publishPacketId : client.publishPacketId = 0
  subscribePacketId : client.subscribePacketId = 1

/-- What connecting has done: it has failed, having sent no more than the CONNECT, or there is a
client; or it reports success without one. -/
inductive Connecting (args : ConnectArgs) (memory : Option SmqttClient) (buffer : Memory) :
    List ServerExchange → Connected → Prop
  | failed {trace : List ServerExchange} {status : Status} {client : ClientOut}
      (hstatus : status ≠ .ok) (hframes : traceFrames trace <+: [args.frame args.clientId]) :
      Connecting args memory buffer trace ⟨status, client, traceBuffer buffer trace⟩
  | connected {trace : List ServerExchange} {client : SmqttClient} (hfresh : client.Fresh)
      (hmemory : memory ≠ none) (hfits : args.Fits)
      (hframes : traceFrames trace = [args.frame args.clientId]) :
      Connecting args memory buffer trace ⟨.ok, .set client, traceBuffer buffer trace⟩
  | noClient {trace : List ServerExchange} {client : ClientOut}
      (hclient : ∀ set, client ≠ .set set) (hwhy : memory = none ∨ ¬ args.Fits)
      (hframes : traceFrames trace = []) :
      Connecting args memory buffer trace ⟨.ok, client, traceBuffer buffer trace⟩

theorem leads_conclude {γ : Type} (greeting : Greeting) (size : Int)
    (leave : Greeting.Leaving → Memory → γ) :
    (greeting.conclude buffer size leave).Leads fun trace value =>
      (∃ leaving, value = leave leaving buffer) ∧ traceFrames trace = [] ∧
        traceBuffer buffer trace = buffer := by
  unfold Greeting.conclude
  split
  · split
    · exact ⟨⟨_, rfl⟩, rfl, rfl⟩
    · split
      · exact leads_ask_bind fun _ => ⟨⟨_, rfl⟩, rfl, rfl⟩
      · exact ⟨⟨_, rfl⟩, rfl, rfl⟩
    · exact ⟨⟨_, rfl⟩, rfl, rfl⟩
  · exact leads_ask_bind fun _ => ⟨⟨_, rfl⟩, rfl, rfl⟩

/-- A greeting sends its frame, or fails. -/
theorem leads_greet {γ : Type} (greeting : Greeting) (buffer : Memory)
    (leave : Greeting.Leaving → Memory → γ) :
    (greeting.greet buffer leave).Leads fun trace value =>
      ∃ leaving, value = leave leaving (traceBuffer buffer trace) ∧
        (leaving = .failed ∧ traceFrames trace <+: [greeting.frame] ∨
          traceFrames trace = [greeting.frame]) := by
  apply leads_ask_bind
  intro stat
  cases stat with
  | socket => exact ⟨.failed, rfl, .inl ⟨rfl, List.nil_prefix⟩⟩
  | ok =>
      apply leads_ask_bind
      intro stat
      cases stat with
      | socket => exact ⟨.failed, rfl, .inl ⟨rfl, List.prefix_rfl⟩⟩
      | ok =>
          apply leads_ask_bind
          intro reception
          refine (leads_conclude greeting reception.size leave).mono ?_
          rintro trace value ⟨⟨leaving, hvalue⟩, hframes, hbuffer⟩
          refine ⟨leaving, ?_, .inr (congrArg (greeting.frame :: ·) hframes)⟩
          rw [hvalue]
          exact congrArg (leave leaving) hbuffer.symm

theorem leads_connect (hmode : args.mode = .remoteServer) (memory : Option SmqttClient) :
    (smqttConnectInternal args memory buffer).Leads (Connecting args memory buffer) := by
  cases memory with
  | none => exact .noClient (by simp) (.inl rfl) rfl
  | some memory =>
      rw [smqttConnectInternal_eq, makeServer, if_pos hmode]
      apply leads_ask_bind
      intro server
      by_cases hfits : args.Fits
      · rw [if_neg (not_long hfits)]
        refine (leads_greet _ buffer _).mono ?_
        rintro trace connected ⟨leaving, rfl, hframes⟩
        have hprefix : traceFrames trace <+: [args.frame args.clientId] :=
          hframes.elim And.right fun hsent => hsent ▸ List.prefix_rfl
        cases leaving with
        | failed => exact .failed (by simp) hprefix
        | nothing => exact .failed (by simp) hprefix
        | unparsable => exact .failed (by simp) hprefix
        | refused type => exact .failed (refusal_ne_ok type) hprefix
        | welcomed =>
            have hsent := hframes.resolve_left (by simp)
            exact .connected ⟨rfl, rfl, rfl⟩ (by simp) hfits hsent
      · rw [if_pos (long_of_not_fits hfits)]
        exact .noClient (by simp) (.inr hfits) rfl

end Connecting

/-! ### A publish -/

section Publishing

variable {client : SmqttClient} {buffer : Memory} {topic : CString} {msg : Option CString}

/-- One publish at QoS 1 under the id 1, and a disconnect behind it whatever came of it. -/
inductive Publishing (server : ServerRef) (topic : CString) (msg : Option CString)
    (buffer : Memory) : List ServerExchange → ToolRun → Prop
  | sent {trace : List ServerExchange} {sending dropping : NetStatus}
      (hcompleted : Completed server buffer (publishTurns topic 1 QoS1 false msg) trace)
      (hframes : traceFrames trace = [makePublishMessage topic 1 QoS1 false msg]) :
      Publishing server topic msg buffer
        (trace ++ [⟨.send server makeDisconnectMessage, sending⟩, ⟨.disconnect server, dropping⟩])
        ⟨[.stdout "Sent message\n"], .exit 0⟩
  | failed {trace : List ServerExchange} {sending dropping : NetStatus}
      (hbroken : ¬ Completed server buffer (publishTurns topic 1 QoS1 false msg) trace)
      (hframes : traceFrames trace = [makePublishMessage topic 1 QoS1 false msg]) :
      Publishing server topic msg buffer
        (trace ++ [⟨.send server makeDisconnectMessage, sending⟩, ⟨.disconnect server, dropping⟩])
        ⟨[.stderr "publish failed\n"], .exit 0⟩

theorem leads_disconnect (client : SmqttClient) (buffer : Memory) :
    (smqttDisconnect client buffer).Leads fun trace _ => ∃ sending dropping,
      trace = [⟨.send client.server makeDisconnectMessage, sending⟩,
        ⟨.disconnect client.server, dropping⟩] := by
  apply leads_ask_bind
  intro sending
  apply leads_ask_bind
  intro dropping
  split <;> exact ⟨sending, dropping, rfl⟩

theorem dialogue_publishOnce (hfresh : client.Fresh) (topic : CString) (msg : Option CString) :
    (Operation.publish topic msg QoS1 false).dialogue client
      = some ({ client with publishPacketId := 1 }, publishTurns topic 1 QoS1 false msg) := by
  rw [Operation.dialogue, if_pos ⟨hfresh.connected, by decide⟩, if_neg (by decide),
    hfresh.publishPacketId]
  rfl

theorem leads_publishOnce (hfresh : client.Fresh) (buffer : Memory) (topic : CString)
    (msg : Option CString) :
    (publishOnce client buffer topic msg).Leads (Publishing client.server topic msg buffer) := by
  have hperform := perform_eq_converse (dialogue_publishOnce hfresh topic msg) buffer
  have hsends : publishTurns topic 1 QoS1 false msg
      = ask (makePublishMessage topic 1 QoS1 false msg) id (Response.acknowledges .puback 1) := rfl
  have hpublish := (leads_converse (honest_publishTurns topic 1 QoS1 false msg) buffer).and
    (hsends ▸ @leads_ask client.server buffer (finish { client with publishPacketId := 1 }) _ _ _)
  rw [← hperform] at hpublish
  refine hpublish.bind ?_
  rintro publishing returned ⟨⟨status, rfl, hok, -⟩, hframes⟩
  refine (leads_disconnect _ _).bind ?_
  rintro closing _ ⟨sending, dropping, rfl⟩
  change Publishing client.server topic msg buffer _
    ⟨[if status = .ok then .stdout "Sent message\n" else .stderr "publish failed\n"], .exit 0⟩
  by_cases hstatus : status = .ok
  · rw [if_pos hstatus]
    exact .sent (hok.mp hstatus) hframes
  · rw [if_neg hstatus]
    exact .failed (fun hcompleted => hstatus (hok.mpr hcompleted)) hframes

end Publishing

/-! ### Message after message -/

section Printing

variable {client : SmqttClient} {server : ServerRef}

/-- All that a message calls for, if its release comes. -/
def PublishData.answers (data : PublishData) : List (List UInt8) :=
  data.acknowledgements (some (some (.pubrel data.packetId)))

/-- The message of a reception, if there is one. -/
def Reception.message (buffer : Memory) (reception : Reception) : Option PublishData :=
  if reception.size < 0 then none
  else
    match parseBuffer (buffer.patch reception.stored) reception.size with
    | some (.publish data) => some data
    | _ => none

/-- A message that has been received, with the acknowledgements that it calls for. -/
structure Received (server : ServerRef) (buffer : Memory) (data : PublishData)
    (reception : Reception) (acknowledging : List ServerExchange) : Prop where
  message : reception.message buffer = some data
  acknowledged : Completed server (buffer.patch reception.stored) (receiptTurns data) acknowledging

/-- What is called behind a reception: nothing, or the first of the answers to the message are
sent. -/
structure AnsweredTo (buffer : Memory) (reception : Reception)
    (acknowledging : List ServerExchange) : Prop where
  quiet : reception.message buffer = none → acknowledging = []
  frames : ∀ data, reception.message buffer = some data →
    traceFrames acknowledging <+: data.answers

/-- A line for each message, until one fails to be received. -/
inductive Printing (server : ServerRef) :
    Nat → Memory → List ServerExchange → ToolRun → Prop
  | out {buffer : Memory} : Printing server 0 buffer [] ⟨[], .running⟩
  | failed {fuel : Nat} {buffer : Memory} {reception : Reception}
      {acknowledging : List ServerExchange}
      (hbroken : ∀ data, ¬ Received server buffer data reception acknowledging)
      (hanswered : AnsweredTo buffer reception acknowledging) :
      Printing server (fuel + 1) buffer (⟨.receive server, reception⟩ :: acknowledging)
        ⟨[.stderr "Failed to retrieve message\n"], .exit 1⟩
  | message {fuel : Nat} {buffer : Memory} {reception : Reception} {data : PublishData}
      {acknowledging rest : List ServerExchange} {run : ToolRun}
      (hreceived : Received server buffer data reception acknowledging)
      (hrest : Printing server fuel (traceBuffer (buffer.patch reception.stored) acknowledging) rest
        run) :
      Printing server (fuel + 1) buffer (⟨.receive server, reception⟩ :: (acknowledging ++ rest))
        (run.behind [.gotMessage (cString (data.message.bytes (buffer.patch reception.stored)))])

theorem Reception.message_eq_some {buffer : Memory} {reception : Reception} {data : PublishData} :
    reception.message buffer = some data ↔ 0 ≤ reception.size ∧
      parseBuffer (buffer.patch reception.stored) reception.size = some (.publish data) := by
  rw [Reception.message]
  by_cases hsize : reception.size < 0
  · rw [if_pos hsize]
    exact iff_of_false nofun fun h => absurd hsize h.1.not_gt
  · rw [if_neg hsize]
    cases parseBuffer (buffer.patch reception.stored) reception.size with
    | none => simp
    | some resp => cases resp <;> simp [not_lt.mp hsize]

theorem Reception.message_eq_none {buffer : Memory} {reception : Reception}
    (hnone : ∀ data, parseBuffer (buffer.patch reception.stored) reception.size
      ≠ some (.publish data)) : reception.message buffer = none :=
  Option.eq_none_iff_forall_ne_some.mpr fun data hsome =>
    hnone data (Reception.message_eq_some.mp hsome).2

theorem answeredTo_of_none {buffer : Memory} {reception : Reception}
    (hnone : reception.message buffer = none) : AnsweredTo buffer reception [] :=
  ⟨fun _ => rfl, fun _ hsome => by simp [hnone] at hsome⟩

theorem not_received_of_none {buffer : Memory} {reception : Reception}
    {acknowledging : List ServerExchange} (hnone : reception.message buffer = none)
    (data : PublishData) : ¬ Received server buffer data reception acknowledging := by
  intro hreceived
  cases hnone.symm.trans hreceived.message

theorem spokenFrames_receiptTurns (data : PublishData) :
    spokenFrames (receiptTurns data) = data.answers := by
  rw [PublishData.answers, PublishData.acknowledgements, if_pos rfl, receiptTurns]
  by_cases hzero : data.qos = QoS0
  · simp [hzero, spokenFrames, QoS0, QoS1, QoS2]
  · rw [if_neg hzero]
    split_ifs <;> rfl

theorem gotMessage_slice (slice : Slice) (memory : Memory) :
    gotMessage (strncpy (slice.bytes memory)) slice.size
      = .gotMessage (cString (slice.bytes memory)) := by
  have hlength : (slice.bytes memory).length = slice.size.toNat := Memory.length_slice _ _ _
  have hfill : (cString (slice.bytes memory)).length
      + ((slice.bytes memory).length - (cString (slice.bytes memory)).length)
        = slice.size.toNat := by
    have hle : (cString (slice.bytes memory)).length ≤ (slice.bytes memory).length :=
      (List.takeWhile_prefix _).length_le
    omega
  have hnoNul : ∀ byte ∈ cString (slice.bytes memory), decide (byte ≠ 0) = true := by
    intro byte hmem
    exact List.mem_takeWhile_imp (p := fun byte => decide (byte ≠ 0)) hmem
  rw [gotMessage, List.take_of_length_le (by simp [strncpy, hfill]), strncpy, cString,
    List.takeWhile_append_of_pos hnoNul]
  simp

/-- The next message is received with its acknowledgements, or the call fails. -/
theorem leads_getNextMessage (client : SmqttClient) (buffer : Memory) :
    (smqttGetNextMessage client buffer).Leads fun trace returned =>
      ∃ reception acknowledging, trace = ⟨.receive client.server, reception⟩ :: acknowledging ∧
        AnsweredTo buffer reception acknowledging ∧
        ((returned.status ≠ .ok ∧
            ∀ data, ¬ Received client.server buffer data reception acknowledging) ∨
          ∃ data, Received client.server buffer data reception acknowledging ∧
            returned = finishMessage client (buffer.patch reception.stored) data .ok
              (traceBuffer (buffer.patch reception.stored) acknowledging)) := by
  apply leads_ask_bind
  intro reception
  by_cases hsize : reception.size < 0
  · have hnone : reception.message buffer = none := if_pos hsize
    dsimp only
    rw [if_pos hsize]
    exact ⟨reception, [], rfl, answeredTo_of_none hnone,
      .inl ⟨Status.noConfusion, not_received_of_none hnone⟩⟩
  · dsimp only
    rw [if_neg hsize]
    cases hparse : parseBuffer (buffer.patch reception.stored) reception.size with
    | none =>
        have hnone : reception.message buffer = none :=
          Reception.message_eq_none (by simp [hparse])
        exact ⟨reception, [], rfl, answeredTo_of_none hnone,
          .inl ⟨Status.noConfusion, not_received_of_none hnone⟩⟩
    | some resp =>
        cases resp with
        | publish data =>
            have hmessage : reception.message buffer = some data :=
              Reception.message_eq_some.mpr ⟨not_lt.mp hsize, hparse⟩
            dsimp only
            rw [receiveMessage_eq_converse]
            refine (leads_converse (honest_receiptTurns data) _).mono ?_
            rintro acknowledging returned ⟨status, rfl, hok, hframes⟩
            rw [spokenFrames_receiptTurns] at hframes
            refine ⟨reception, acknowledging, rfl, ⟨by simp [hmessage], ?_⟩, ?_⟩
            · intro other hother
              obtain rfl := Option.some.inj (hmessage.symm.trans hother)
              exact hframes
            · by_cases hstatus : status = .ok
              · subst hstatus
                exact .inr ⟨data, ⟨hmessage, hok.mp rfl⟩, rfl⟩
              · refine .inl ⟨hstatus, fun other hreceived => hstatus (hok.mpr ?_)⟩
                obtain rfl := Option.some.inj (hmessage.symm.trans hreceived.message)
                exact hreceived.acknowledged
        | _ =>
            have hnone : reception.message buffer = none :=
              Reception.message_eq_none (by simp [hparse])
            exact ⟨reception, [], rfl, answeredTo_of_none hnone,
              .inl ⟨Status.noConfusion, not_received_of_none hnone⟩⟩

theorem leads_messageLoop (client : SmqttClient) (fuel : Nat) (buffer : Memory) :
    (messageLoop client buffer fuel).Leads (Printing client.server fuel buffer) := by
  induction fuel generalizing buffer with
  | zero => exact .out
  | succ fuel ih =>
      refine (leads_getNextMessage client buffer).bind ?_
      rintro _ returned ⟨reception, acknowledging, rfl, hanswered, ⟨hstatus, hbroken⟩ |
        ⟨data, hreceived, rfl⟩⟩
      · rw [if_pos hstatus]
        apply leads_pure
        rw [List.append_nil]
        exact .failed hbroken hanswered
      · refine (ih (traceBuffer (buffer.patch reception.stored) acknowledging)).bind ?_
        intro rest run hrest
        change Printing client.server (fuel + 1) buffer _
          (run.behind [gotMessage (strncpy _) data.message.size])
        rw [gotMessage_slice, List.append_nil]
        exact .message hreceived hrest

def subscribeTurns (topic : CString) (qos : QoS) : List Turn :=
  ask (makeSubscribeMessage 2 [(topic, qos)]) (fun _ => .number (-1))
    (Response.acknowledges .suback 2)

/-- A subscription under the id 2, and the messages behind it. -/
inductive Subscribing (server : ServerRef) (topic : CString) (qos : QoS) (fuel : Nat)
    (buffer : Memory) : List ServerExchange → ToolRun → Prop
  | failed {trace : List ServerExchange}
      (hbroken : ¬ Completed server buffer (subscribeTurns topic qos) trace)
      (hframes : traceFrames trace = [makeSubscribeMessage 2 [(topic, qos)]]) :
      Subscribing server topic qos fuel buffer trace ⟨[.stderr "Failed to Subscribe\n"], .exit 1⟩
  | subscribed {trace rest : List ServerExchange} {run : ToolRun}
      (hcompleted : Completed server buffer (subscribeTurns topic qos) trace)
      (hrest : Printing server fuel (traceBuffer buffer trace) rest run) :
      Subscribing server topic qos fuel buffer (trace ++ rest) (run.behind [.stdout "Subscribed\n"])

theorem leads_subscribeAndPrint (hfresh : client.Fresh) (buffer : Memory) (topic : CString)
    (qos : QoS) (fuel : Nat) :
    (subscribeAndPrint client buffer topic qos fuel).Leads
      (Subscribing client.server topic qos fuel buffer) := by
  have hdialogue : (Operation.subscribe [(topic, qos)]).dialogue client
      = some ({ client with subscribePacketId := 2 }, subscribeTurns topic qos) := by
    rw [Operation.dialogue, if_pos hfresh.connected, hfresh.subscribePacketId]
    rfl
  have hperform := perform_eq_converse hdialogue buffer
  have hsubscribe := (leads_converse (honest_of_dialogue hdialogue) buffer).and
    (@leads_ask client.server buffer (finish { client with subscribePacketId := 2 })
      (makeSubscribeMessage 2 [(topic, qos)]) (fun _ => .number (-1))
      (Response.acknowledges .suback 2))
  refine (hperform ▸ hsubscribe).bind ?_
  rintro asking returned ⟨⟨status, rfl, hok, -⟩, hframes⟩
  change Leads _ (if status ≠ .ok then _ else _)
  by_cases hstatus : status = .ok
  · rw [if_neg (not_not.mpr hstatus)]
    refine (leads_messageLoop _ _ _).bind ?_
    intro rest run hrest
    apply leads_pure
    rw [List.append_nil]
    exact .subscribed (hok.mp hstatus) hrest
  · rw [if_pos hstatus]
    apply leads_pure
    rw [List.append_nil]
    exact .failed (fun hcompleted => hstatus (hok.mpr hcompleted)) hframes

end Printing

/-! ### The tool -/

section Tool

variable {argv : List CString} {settings : Settings}

/-- A run that has come to connect: it fails, or it has a client to operate with. -/
inductive Operated (args : ConnectArgs) (memory : Option SmqttClient) (buffer : Memory)
    (Operating : ServerRef → Memory → List ServerExchange → ToolRun → Prop) :
    List ServerExchange → ToolRun → Prop
  | notConnected {trace : List ServerExchange}
      (hframes : traceFrames trace <+: [args.frame args.clientId]) :
      Operated args memory buffer Operating trace ⟨[.stderr "Failed to connect\n"], .exit 1⟩
  | noClient {trace : List ServerExchange} (hwhy : memory = none ∨ ¬ args.Fits)
      (hframes : traceFrames trace = []) :
      Operated args memory buffer Operating trace ⟨[], .nullRead⟩
  | connected {connecting operating : List ServerExchange} {server : ServerRef} {run : ToolRun}
      (hmemory : memory ≠ none) (hfits : args.Fits)
      (hframes : traceFrames connecting = [args.frame args.clientId])
      (hoperating : Operating server (traceBuffer buffer connecting) operating run) :
      Operated args memory buffer Operating (connecting ++ operating) run

theorem mode_of_internal {call : SmqttConnectArgs} {args : ConnectArgs}
    (hargs : call.internal = some args) : args.mode = .remoteServer := by
  simp only [SmqttConnectArgs.internal, Option.bind_eq_bind, Option.bind_eq_some_iff] at hargs
  obtain ⟨clientId, -, will, -, hargs⟩ := hargs
  rw [← Option.some.inj hargs]

/-- What is done with a new client is what a run does behind its CONNECT. -/
theorem leads_connectAndOperate {args : ConnectArgs} {buffer : Memory} {fuel : Nat}
    {Operating : ServerRef → Memory → List ServerExchange → ToolRun → Prop}
    (hargs : settings.connectArgs.internal = some args)
    (hoperate : ∀ (client : SmqttClient) (buffer : Memory), client.Fresh →
      (operate settings client buffer fuel).Leads (Operating client.server buffer))
    (memory : Option SmqttClient) :
    (connectAndOperate settings memory buffer fuel).Leads
      (Operated args memory buffer Operating) := by
  have hconnect : (smqttConnect settings.connectArgs memory buffer).Leads
      fun trace connected => ∃ inner, connected = some inner ∧
        Connecting args memory buffer trace inner := by
    rw [smqttConnect, hargs]
    refine (leads_connect (mode_of_internal hargs) memory).bind ?_
    intro trace connected hconnecting
    apply leads_pure
    rw [List.append_nil]
    exact ⟨connected, rfl, hconnecting⟩
  refine hconnect.bind ?_
  rintro connecting _ ⟨connected, rfl, hconnecting⟩
  cases hconnecting with
  | failed hstatus hframes =>
      dsimp only
      rw [if_pos hstatus]
      apply leads_pure
      rw [List.append_nil]
      exact .notConnected hframes
  | connected hfresh hmemory hfits hframes =>
      refine (hoperate _ _ hfresh).mono ?_
      intro operating run hoperating
      exact .connected hmemory hfits hframes hoperating
  | @noClient client hclient hwhy hframes =>
      cases client with
      | set client => exact absurd rfl (hclient client)
      | _ =>
          apply leads_pure
          rw [List.append_nil]
          exact .noClient hwhy hframes

theorem runTool_eq (hmain : main argv = .ok settings) (memory : Option SmqttClient)
    (buffer : Memory) (fuel : Nat) :
    runTool argv memory buffer fuel = connectAndOperate settings memory buffer fuel := by
  rw [runTool, hmain]

theorem traceFrames_append (left right : List ServerExchange) :
    traceFrames (left ++ right) = traceFrames left ++ traceFrames right := by
  rw [traceFrames, List.map_append, sentFrames_append]
  rfl

/-- **A run with `-P`.** Whatever the server answers, the tool publishes once at QoS 1 under the id
1 and says whether it was acknowledged. It hands over the CONNECT, the PUBLISH and the DISCONNECT, as
far as it comes; the exit code is 0 exactly if it comes to the end of them. -/
theorem publish_run (hmain : main argv = .ok settings) (hoperation : settings.operation = .publish)
    (memory : Option SmqttClient) (buffer : Memory) (fuel : Nat) :
    ∃ args topic, settings.connectArgs.internal = some args ∧ settings.topic = some topic ∧
      (runTool argv memory buffer fuel).Leads fun trace run =>
        let requests := [args.frame args.clientId,
          makePublishMessage topic 1 QoS1 false settings.publishMessage, makeDisconnectMessage]
        Operated args memory buffer
          (fun server => Publishing server topic settings.publishMessage) trace run ∧
        traceFrames trace <+: requests ∧
        (run.ending = .exit 0 ↔ traceFrames trace = requests) := by
  obtain ⟨args, topic, hargs, htopic⟩ := internal_of_main hmain
  refine ⟨args, topic, hargs, htopic, ?_⟩
  rw [runTool_eq hmain]
  refine (@leads_connectAndOperate settings args buffer fuel
    (fun server => Publishing server topic settings.publishMessage) hargs ?_ memory).mono ?_
  · intro client buffer hfresh
    rw [operate, htopic, hoperation]
    exact leads_publishOnce hfresh buffer topic settings.publishMessage
  · rintro trace run hoperated
    refine ⟨hoperated, ?_⟩
    cases hoperated with
    | notConnected hframes =>
        refine ⟨hframes.trans (List.prefix_append _ _), iff_of_false (by simp) fun heq => ?_⟩
        have hlength := hframes.length_le
        rw [heq] at hlength
        simp at hlength
    | noClient hwhy hframes =>
        rw [hframes]
        exact ⟨List.nil_prefix, iff_of_false (by simp) (by simp)⟩
    | connected hmemory hfits hframes hoperating =>
        rw [traceFrames_append, hframes]
        cases hoperating with
        | sent _ hpublish =>
            rw [traceFrames_append, hpublish]
            exact ⟨List.prefix_rfl, iff_of_true rfl rfl⟩
        | failed _ hpublish =>
            rw [traceFrames_append, hpublish]
            exact ⟨List.prefix_rfl, iff_of_true rfl rfl⟩

/-- What `malloc` returns. -/
def freshMemory : SmqttClient := ⟨[], [], 0, false, 7, 7, 7, 0⟩

/-- `smqttc -P hi mq me tv` -/
def helloWords : List CString :=
  [⟨[115, 109, 113, 116, 116, 99], by decide⟩, publishSwitch, ⟨[104, 105], by decide⟩,
    ⟨[109, 113], by decide⟩, ⟨[109, 101], by decide⟩, ⟨[116, 118], by decide⟩]

def helloSettings : Settings :=
  { initialSettings with
    operation := .publish
    publishMessage := helloWords[2]?
    host := ⟨[109, 113], by decide⟩
    clientId := helloWords[4]?
    topic := helloWords[5]? }

theorem hello_is_published : ∃ args topic, helloSettings.connectArgs.internal = some args ∧
    helloSettings.topic = some topic ∧ ∀ broker : Broker,
      let out := (runTool helloWords (some freshMemory) (fun _ => 0) 0).run (respond broker) []
      let requests := [args.frame args.clientId,
        makePublishMessage topic 1 QoS1 false helloSettings.publishMessage, makeDisconnectMessage]
      sentFrames out.2 <+: requests ∧ (out.1.ending = .exit 0 ↔ sentFrames out.2 = requests) := by
  have hmain : main helloWords = .ok helloSettings := by decide
  obtain ⟨args, topic, hargs, htopic, hleads⟩ :=
    publish_run hmain rfl (some freshMemory) (fun _ => 0) 0
  refine ⟨args, topic, hargs, htopic, fun broker => ?_⟩
  obtain ⟨trace, hcalls, -, hframes, hending⟩ := hleads.run broker []
  have hsent : sentFrames ((runTool helloWords (some freshMemory) (fun _ => 0) 0).run
      (respond broker) []).2 = traceFrames trace := congrArg sentFrames hcalls
  dsimp only
  rw [hsent]
  exact ⟨hframes, hending⟩

/-! ### What a subscriber hands over -/

def ServerExchange.message (buffer : Memory) : ServerExchange → Option PublishData
  | ⟨.receive _, reception⟩ => reception.message buffer
  | _ => none

/-- The messages among the packets of a trace. -/
def receivedMessages (buffer : Memory) : List ServerExchange → List PublishData
  | [] => []
  | exchange :: trace =>
      (exchange.message buffer).toList ++ receivedMessages (exchange.store buffer) trace

/-- The CONNECT, one SUBSCRIBE, and then what the messages that have come since call for, each under
its own id and in their order; all this as far as the run has come. -/
def SubscriberFrames (args : ConnectArgs) (topic : CString) (qos : QoS) (buffer : Memory)
    (trace : List ServerExchange) : Prop :=
  ∃ asking printing, trace = asking ++ printing ∧
    traceFrames asking <+: [args.frame args.clientId, makeSubscribeMessage 2 [(topic, qos)]] ∧
    (printing ≠ [] → traceFrames asking
      = [args.frame args.clientId, makeSubscribeMessage 2 [(topic, qos)]]) ∧
    traceFrames printing
      <+: (receivedMessages (traceBuffer buffer asking) printing).flatMap PublishData.answers

section Handed

variable {server : ServerRef} {buffer : Memory} {trace : List ServerExchange}

theorem receivedMessages_append (left right : List ServerExchange) :
    receivedMessages buffer (left ++ right)
      = receivedMessages buffer left ++ receivedMessages (traceBuffer buffer left) right := by
  induction left generalizing buffer with
  | nil => rfl
  | cons exchange left ih =>
      rw [List.cons_append, receivedMessages, ih, receivedMessages, List.append_assoc]
      rfl

/-- No turn that is taken brings a message, if none waits for one. -/
theorem Completed.receivedMessages_eq_nil {turns : List Turn}
    (hdeaf : ∀ expected null, .hear expected null ∈ turns → ∀ data, expected (.publish data) = false)
    (hcompleted : Completed server buffer turns trace) : receivedMessages buffer trace = [] := by
  induction turns generalizing buffer trace with
  | nil =>
      obtain rfl : trace = [] := hcompleted
      rfl
  | cons turn turns ih =>
      have hrest := fun buffer trace => @ih buffer trace
        fun expected null hmem => hdeaf expected null (List.mem_cons_of_mem _ hmem)
      cases turn with
      | say frame failed =>
          obtain ⟨rest, rfl, hcompleted⟩ := hcompleted
          exact hrest buffer rest hcompleted
      | hear expected null =>
          obtain ⟨reception, resp, rest, rfl, hparse, hexpected, hcompleted⟩ := hcompleted
          have hnone : reception.message buffer = none := by
            refine Reception.message_eq_none fun data hmessage => ?_
            obtain rfl := Option.some.inj (hparse.symm.trans hmessage)
            rw [hdeaf expected null List.mem_cons_self data] at hexpected
            cases hexpected
          rw [receivedMessages, ServerExchange.message, hnone, Option.toList_none, List.nil_append]
          exact hrest _ rest hcompleted

theorem deaf_receiptTurns (data : PublishData) (expected : Response → Bool) (null : Status)
    (hmem : .hear expected null ∈ receiptTurns data) (other : PublishData) :
    expected (.publish other) = false := by
  rw [receiptTurns] at hmem
  split_ifs at hmem
  · cases hmem
  · simp at hmem
  · obtain ⟨rfl, -⟩ : expected = Response.acknowledges .pubrel data.packetId ∧ _ := by
      simpa [ask] using hmem
    simp [Response.acknowledges, Response.type]
  · cases hmem

/-- **The loop answers what it receives**, and nothing else. -/
theorem Printing.frames {fuel : Nat} {run : ToolRun}
    (hprinting : Printing server fuel buffer trace run) :
    traceFrames trace <+: (receivedMessages buffer trace).flatMap PublishData.answers ∧
      run.ending ≠ .exit 0 := by
  induction hprinting with
  | out => exact ⟨List.prefix_rfl, by simp⟩
  | @failed fuel buffer reception acknowledging _ hanswered =>
      refine ⟨?_, by simp⟩
      cases hmessage : reception.message buffer with
      | none =>
          rw [hanswered.quiet hmessage]
          exact List.nil_prefix
      | some data =>
          have hmessages : receivedMessages buffer (⟨.receive server, reception⟩ :: acknowledging)
              = data :: receivedMessages (buffer.patch reception.stored) acknowledging := by
            rw [receivedMessages, ServerExchange.message, hmessage]
            rfl
          rw [hmessages, List.flatMap_cons]
          exact (hanswered.frames data hmessage).trans (List.prefix_append _ _)
  | @message fuel buffer reception data acknowledging rest run hreceived _ ih =>
      refine ⟨?_, ih.2⟩
      have hframes : traceFrames (⟨.receive server, reception⟩ :: (acknowledging ++ rest))
          = data.answers ++ traceFrames rest := by
        change traceFrames (acknowledging ++ rest) = _
        rw [traceFrames_append, hreceived.acknowledged.frames, spokenFrames_receiptTurns]
      have hnone := hreceived.acknowledged.receivedMessages_eq_nil (deaf_receiptTurns data)
      have hmessages : receivedMessages buffer (⟨.receive server, reception⟩ :: (acknowledging ++ rest))
          = data :: receivedMessages
              (traceBuffer (buffer.patch reception.stored) acknowledging) rest := by
        change (reception.message buffer).toList
          ++ receivedMessages (buffer.patch reception.stored) (acknowledging ++ rest) = _
        rw [receivedMessages_append, hnone, hreceived.message]
        rfl
      rw [hframes, hmessages, List.flatMap_cons]
      exact (List.prefix_append_right_inj _).mpr ih.1

theorem length_of_mem_answers {data : PublishData} {frame : List UInt8}
    (hmem : frame ∈ data.answers) : frame.length = 4 := by
  rw [← spokenFrames_receiptTurns, spokenFrames, List.mem_filterMap] at hmem
  obtain ⟨turn, hturn, hspoken⟩ := hmem
  cases turn with
  | say other failed =>
      obtain rfl : other = frame := Option.some.inj hspoken
      exact length_receiptTurns hturn
  | hear expected null => cases hspoken

theorem SubscriberFrames.notMem {args : ConnectArgs} {topic : CString} {qos : QoS}
    (hframes : SubscriberFrames args topic qos buffer trace) :
    makeDisconnectMessage ∉ traceFrames trace := by
  obtain ⟨asking, printing, rfl, hasking, -, hprinting⟩ := hframes
  have hconnect : 2 < (args.frame args.clientId).length := by
    have hlength := MakeMessage.length_frame (.connect args.clientId args.user args.pw
      (UInt8.ofNat args.keepAliveSec.toNat) args.cleanSession args.willQos args.willRetain args.will)
    rw [MakeMessage.extent, MakeMessage.bodySize] at hlength
    exact (by omega : 2 < _).trans_eq hlength.symm
  have hsubscribe : 2 < (makeSubscribeMessage 2 [(topic, qos)]).length := by
    have hlength := MakeMessage.length_frame (.subscribe 2 [(topic, qos)])
    rw [MakeMessage.extent, MakeMessage.bodySize] at hlength
    exact (by omega : 2 < _).trans_eq hlength.symm
  have hasked : ∀ frame ∈ [args.frame args.clientId, makeSubscribeMessage 2 [(topic, qos)]],
      2 < frame.length :=
    List.forall_mem_cons.mpr ⟨hconnect, List.forall_mem_singleton.mpr hsubscribe⟩
  have hlength : ∀ frame ∈ traceFrames (asking ++ printing), 2 < frame.length := by
    rw [traceFrames_append]
    refine List.forall_mem_append.mpr ⟨fun frame hmem => ?_, fun frame hmem => ?_⟩
    · exact hasked frame (hasking.subset hmem)
    · obtain ⟨data, -, hdata⟩ := List.mem_flatMap.mp (hprinting.subset hmem)
      rw [length_of_mem_answers hdata]
      decide
  exact fun hmem => absurd (hlength _ hmem) (by decide)

end Handed

theorem leads_subscriber {args : ConnectArgs} {topic : CString} (hmain : main argv = .ok settings)
    (hoperation : settings.operation = .subscribe)
    (hargs : settings.connectArgs.internal = some args)
    (htopic : settings.topic = some topic) (memory : Option SmqttClient) (buffer : Memory)
    (fuel : Nat) :
    (runTool argv memory buffer fuel).Leads fun trace run =>
      Operated args memory buffer
        (fun server => Subscribing server topic settings.qos fuel) trace run ∧
      run.ending ≠ .exit 0 ∧ SubscriberFrames args topic settings.qos buffer trace := by
  rw [runTool_eq hmain]
  refine (@leads_connectAndOperate settings args buffer fuel
    (fun server => Subscribing server topic settings.qos fuel) hargs ?_ memory).mono ?_
  · intro client buffer hfresh
    rw [operate, htopic, hoperation]
    exact leads_subscribeAndPrint hfresh buffer topic settings.qos fuel
  · rintro trace run hoperated
    refine ⟨hoperated, ?_⟩
    cases hoperated with
    | notConnected hframes =>
        exact ⟨by simp, trace, [], (List.append_nil _).symm,
          hframes.trans (List.prefix_append _ _), by simp, List.nil_prefix⟩
    | noClient hwhy hframes =>
        refine ⟨by simp, trace, [], (List.append_nil _).symm, ?_, by simp, List.nil_prefix⟩
        rw [hframes]
        exact List.nil_prefix
    | @connected connecting asking server _ hmemory hfits hframes hoperating =>
        cases hoperating with
        | failed hbroken hasked =>
            have hasking : traceFrames (connecting ++ asking) = _ ++ _ := traceFrames_append _ _
            rw [hframes, hasked] at hasking
            exact ⟨by simp, connecting ++ asking, [], (List.append_nil _).symm,
              hasking ▸ List.prefix_rfl, by simp, List.nil_prefix⟩
        | @subscribed asking printing run hcompleted hprinting =>
            obtain ⟨hanswers, hending⟩ := hprinting.frames
            have hasking : traceFrames (connecting ++ asking) = _ ++ _ := traceFrames_append _ _
            rw [hframes, hcompleted.frames] at hasking
            refine ⟨hending, connecting ++ asking, printing, (List.append_assoc ..).symm,
              hasking ▸ List.prefix_rfl, fun _ => hasking, ?_⟩
            rw [traceBuffer, List.foldl_append]
            exact hanswers

/-- **A run with `-S`.** Whatever the server answers, a line is printed for each message that has
been received and acknowledged, in order, until one fails. What is handed over is the CONNECT, one
SUBSCRIBE and the acknowledgements of those messages; the tool never ends well, and sends no
DISCONNECT. -/
theorem subscribe_run (hmain : main argv = .ok settings)
    (hoperation : settings.operation = .subscribe) (memory : Option SmqttClient) (buffer : Memory)
    (fuel : Nat) :
    ∃ args topic, settings.connectArgs.internal = some args ∧ settings.topic = some topic ∧
      (runTool argv memory buffer fuel).Leads fun trace run =>
        Operated args memory buffer
          (fun server => Subscribing server topic settings.qos fuel) trace run ∧
        SubscriberFrames args topic settings.qos buffer trace ∧
        run.ending ≠ .exit 0 ∧ makeDisconnectMessage ∉ traceFrames trace := by
  obtain ⟨args, topic, hargs, htopic⟩ := internal_of_main hmain
  refine ⟨args, topic, hargs, htopic, ?_⟩
  refine (leads_subscriber hmain hoperation hargs htopic memory buffer fuel).mono ?_
  rintro trace run ⟨hoperated, hending, hframes⟩
  exact ⟨hoperated, hframes, hending, hframes.notMem⟩

/-- `smqttc -S mq me tv` -/
def listenWords : List CString :=
  [⟨[115, 109, 113, 116, 116, 99], by decide⟩, subscribeSwitch, ⟨[109, 113], by decide⟩,
    ⟨[109, 101], by decide⟩, ⟨[116, 118], by decide⟩]

theorem listener_runs : ∃ settings args topic, main listenWords = .ok settings ∧
    settings.connectArgs.internal = some args ∧ settings.topic = some topic ∧
    (runTool listenWords (some freshMemory) (fun _ => 0) 3).Leads fun trace run =>
      Operated args (some freshMemory) (fun _ => 0)
        (fun server => Subscribing server topic settings.qos 3) trace run ∧
      SubscriberFrames args topic settings.qos (fun _ => 0) trace ∧
      run.ending ≠ .exit 0 ∧ makeDisconnectMessage ∉ traceFrames trace := by
  have hmain : ∃ settings, main listenWords = .ok settings ∧ settings.operation = .subscribe :=
    ⟨_, rfl, rfl⟩
  obtain ⟨settings, hsettings, hoperation⟩ := hmain
  obtain ⟨args, topic, hrun⟩ := subscribe_run hsettings hoperation (some freshMemory)
    (fun _ => 0) 3
  exact ⟨settings, args, topic, hsettings, hrun⟩

end Tool

/-! ### A publisher and the tool -/

section Showing

variable {sender receiver : SmqttClient} {senderBuffer receiverBuffer : Memory}

/-- A client that publishes, and the loop of the tool for as many messages. -/
def broadcast (sender receiver : SmqttClient) (senderBuffer receiverBuffer : Memory)
    (publishes : List Publish) :
    Duet.State ServerCall ServerAnswer (List UInt8) (List Returned) ToolRun where
  left := performAll sender senderBuffer (publishes.map Publish.operation)
  right := messageLoop receiver receiverBuffer publishes.length
  toLeft := []
  toRight := []

/-- The line that shows a message. -/
def Publish.printed (publish : Publish) : MainLine :=
  .gotMessage (publish.msg.elim [] CString.bytes)

/-- The publishes have succeeded, and their messages stand in the lines. -/
def broadcasted (sent : List Returned) (publishes : List Publish) :
    Duet.State ServerCall ServerAnswer (List UInt8) (List Returned) ToolRun :=
  ⟨.done sent, .done ⟨publishes.map Publish.printed, .running⟩, [], []⟩

theorem Agreed.printed {publish : Publish} {sent received : Returned}
    (hagreed : Agreed publish.msg publish.qos sent received) :
    ∃ message size, received.message = some (message, size) ∧
      gotMessage message size = publish.printed := by
  obtain ⟨size, hmessage, hsize⟩ := hagreed.message
  refine ⟨_, size, hmessage, ?_⟩
  rw [gotMessage, List.take_of_length_le hsize.ge, Publish.printed]
  cases publish.msg with
  | none => rfl
  | some msg => exact congrArg _ (cString_bytes msg)

/-- The loop behind a call for the next message. -/
def afterMessage (fuel : Nat) (received : Returned) : Serve ToolRun :=
  if received.status ≠ .ok then pure ⟨[.stderr "Failed to retrieve message\n"], .exit 1⟩
  else
    match received.message with
    | none => pure ⟨[], .uninitialisedRead⟩
    | some (message, messageSize) => do
        let run ← messageLoop received.client received.receiveBuffer fuel
        pure (run.behind [gotMessage message messageSize])

theorem afterMessage_of_agreed {publish : Publish} {sent received : Returned}
    (hagreed : Agreed publish.msg publish.qos sent received) (fuel : Nat) :
    afterMessage fuel received = messageLoop received.client received.receiveBuffer fuel
      >>= fun run => pure (run.behind [publish.printed]) := by
  obtain ⟨message, size, hmessage, hprinted⟩ := hagreed.printed
  rw [afterMessage, if_neg (not_not.mpr hagreed.receivedOk), hmessage, ← hprinted]

theorem broadcast_cons (publish : Publish) (publishes : List Publish) :
    broadcast sender receiver senderBuffer receiverBuffer (publish :: publishes)
      = (conversation sender receiver senderBuffer receiverBuffer publish.topic publish.msg
          publish.qos publish.retain).andThen
        (fun sent => performAll sent.client sent.receiveBuffer (publishes.map Publish.operation)
          >>= fun rest => pure (sent :: rest))
        (afterMessage publishes.length) := rfl

theorem exists_broadcast (receiver : SmqttClient) (senderBuffer receiverBuffer : Memory)
    {publishes : List Publish} (hconnected : sender.connected)
    (hreceivable : ∀ publish ∈ publishes, publish.Receivable)
    (hids : sender.publishPacketId.toNat + acknowledged publishes ≤ 255) :
    ∃ schedule sent, Run.exec (Duet.step transport)
        (broadcast sender receiver senderBuffer receiverBuffer publishes) schedule
          = some (broadcasted sent publishes) ∧
      ∀ returned ∈ sent, returned.status = .ok := by
  induction publishes generalizing sender receiver senderBuffer receiverBuffer with
  | nil => exact ⟨[], [], rfl, fun _ hmem => absurd hmem List.not_mem_nil⟩
  | cons publish publishes ih =>
      obtain ⟨hpublish, hpublishes⟩ := List.forall_mem_cons.mp hreceivable
      obtain ⟨first, sent, received, hfirst, hagreed, -, hstill, hrestIds⟩ :=
        exists_first receiver senderBuffer receiverBuffer hconnected hpublish hids
      obtain ⟨rest, allSent, hrest, hok⟩ := ih received.client sent.receiveBuffer
        received.receiveBuffer hstill hpublishes hrestIds
      refine ⟨first ++ rest, sent :: allSent, ?_, List.forall_mem_cons.mpr ⟨hagreed.sentOk, hok⟩⟩
      rw [broadcast_cons, Run.exec_append_eq_some]
      refine ⟨_, Duet.exec_andThen _ _ hfirst, ?_⟩
      have hnext : (⟨.done sent, .done received, [], []⟩ : Duet.State ServerCall ServerAnswer
            (List UInt8) Returned Returned).andThen
          (fun sent => performAll sent.client sent.receiveBuffer (publishes.map Publish.operation)
            >>= fun rest => pure (sent :: rest)) (afterMessage publishes.length)
          = (broadcast sent.client received.client sent.receiveBuffer received.receiveBuffer
              publishes).andThen (fun rest => pure (sent :: rest))
              (fun run => pure (run.behind [publish.printed])) := by
        have hafter := afterMessage_of_agreed hagreed publishes.length
        simp only [Duet.State.andThen, broadcast, ← hafter]
        rfl
      rw [hnext]
      exact Duet.exec_andThen _ _ hrest

/-- **What is published is printed.** However the moves of a publisher and of the tool are
interleaved, every publish succeeds, and the tool prints one line for each message, in order. -/
theorem publishes_are_printed {sender : SmqttClient} {publishes : List Publish}
    (receiver : SmqttClient) (senderBuffer receiverBuffer : Memory) (hconnected : sender.connected)
    (hreceivable : ∀ publish ∈ publishes, publish.Receivable)
    (hids : sender.publishPacketId.toNat + acknowledged publishes ≤ 255) :
    ∃ (moves : Nat) (sent : List Returned), (∀ returned ∈ sent, returned.status = .ok) ∧
      ∀ begun middle, Run.exec (Duet.step transport)
          (broadcast sender receiver senderBuffer receiverBuffer publishes) begun = some middle →
        ∃ rest, Run.exec (Duet.step transport) middle rest = some (broadcasted sent publishes) ∧
          begun.length + rest.length = moves := by
  obtain ⟨schedule, sent, hrun, hok⟩ :=
    exists_broadcast receiver senderBuffer receiverBuffer hconnected hreceivable hids
  refine ⟨schedule.length, sent, hok, fun begun middle hbegun => ?_⟩
  exact Duet.every_schedule_finishes hrun ⟨rfl, rfl⟩ hbegun

/-- A message at QoS 1 and one without a payload. -/
theorem two_messages_are_printed :
    let client : SmqttClient := ⟨[], [], 1883, true, 7, 1, 0, 0⟩
    let topic : CString := ⟨[116, 47, 98], by decide⟩
    let publishes : List Publish := [⟨topic, some topic, QoS1, false⟩, ⟨topic, none, QoS0, false⟩]
    ∃ (moves : Nat) (sent : List Returned), (∀ returned ∈ sent, returned.status = .ok) ∧
      ∀ begun middle, Run.exec (Duet.step transport)
          (broadcast client client (fun _ => 0) (fun _ => 1) publishes) begun = some middle →
        ∃ rest, Run.exec (Duet.step transport) middle rest = some (broadcasted sent publishes) ∧
          begun.length + rest.length = moves := by
  intro client topic publishes
  have hreceivable : ∀ publish ∈ publishes, publish.Receivable :=
    List.forall_mem_cons.mpr ⟨⟨by decide, by decide, by decide⟩,
      List.forall_mem_singleton.mpr ⟨by decide, by decide, by decide⟩⟩
  exact publishes_are_printed client (fun _ => 0) (fun _ => 1) (rfl : client.connected) hreceivable
    (by decide)

end Showing

end Smqtt
