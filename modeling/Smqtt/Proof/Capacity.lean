import Smqtt.Proof.ConnectRequest
import Smqtt.Proof.Delimited
import Smqtt.Proof.Steps
import Smqtt.Shutdown

/-!
# How far the encoders write

No encoder looks at the capacity it is given. A frame is as long as its arguments make it, so an
encoder keeps within its buffer exactly if the header byte, the length and the body fit; and the
operations of both clients, which give every encoder 1024 bytes, keep within them exactly if what the
caller passes makes a frame of no more.
-/

namespace Smqtt

open Interaction

/-! ### The encoders -/

/-- Nothing is stored at or beyond the capacity: byte for byte, a frame is stored from the start of
the buffer on. -/
def StaysWithin (capacity : Nat) (frame : List UInt8) : Prop :=
  ∀ index, capacity ≤ index → frame[index]? = none

theorem staysWithin_iff {capacity : Nat} {frame : List UInt8} :
    StaysWithin capacity frame ↔ frame.length ≤ capacity := by
  constructor
  · intro hwithin
    exact List.getElem?_eq_none_iff.mp (hwithin capacity le_rfl)
  · intro hlength index hindex
    exact List.getElem?_eq_none (hlength.trans hindex)

/-- How many bytes `encode_size` writes. -/
def lengthBytes (size : Nat) : Nat :=
  if size < 128 then 1 else if size < 128 ^ 2 then 2 else if size < 128 ^ 3 then 3 else 4

theorem length_encodeSize (size : Nat) : (encodeSize size).2.length = lengthBytes size := by
  simp only [encodeSize, encodeSizeLoop, lengthBytes]
  split_ifs <;> first | rfl | omega

/-- How far an encoder writes. -/
def MakeMessage.extent (message : MakeMessage) : Nat :=
  1 + lengthBytes message.declared + message.bodySize

theorem MakeMessage.length_frame (message : MakeMessage) :
    message.frame.length = message.extent := by
  obtain ⟨header, body, hframe, hbody⟩ := message.frame_eq
  calc message.frame.length
      = ((encodeSize message.declared).2 ++ body).length + 1 := by rw [hframe, List.length_cons]
    _ = lengthBytes message.declared + message.bodySize + 1 := by
        rw [List.length_append, length_encodeSize, hbody]
    _ = message.extent := by rw [extent, Nat.add_comm, Nat.add_assoc]

/-! ### The single-threaded client -/

/-- `BUFFER_SIZE` -/
def bufferSize : Nat := 1024

/-- How far an operation writes into `send_buffer`. An acknowledgement takes four bytes, and no
PUBLISH takes less. -/
def Operation.extent (client : SmqttClient) : Operation → Nat
  | publish topic msg qos retain =>
      if client.connected ∧ ¬ QoS2 < qos then
        (MakeMessage.publish topic client.publishPacketId qos retain msg).extent
      else 0
  | subscribe topics =>
      if client.connected then (MakeMessage.subscribe client.subscribePacketId topics).extent else 0
  | unsubscribe topics =>
      if client.connected then (MakeMessage.unsubscribe client.unsubscribePacketId topics).extent
      else 0
  | _ => 4

/-- Every frame that can be sent is stored within the buffer. -/
def StoresWithin {α : Type} (tree : Serve α) : Prop :=
  tree.Every fun call => ∀ frame ∈ call.frame, StaysWithin bufferSize frame

section StoresWithin

variable {server : ServerRef} {buffer : Memory}

theorem storesWithin_sendThen {frame : List UInt8} {failed : Status → Returned}
    {next : Serve Returned} (hframe : frame.length ≤ bufferSize) (hnext : StoresWithin next) :
    StoresWithin (sendThen server frame failed next) := by
  refine every_ask_bind ?_ fun stat => ?_
  · rintro sent ⟨⟩
    exact staysWithin_iff.mpr hframe
  · split
    · exact every_pure _
    · exact hnext

theorem storesWithin_awaitThen {expected : Response → Bool} {null : Status}
    {finish : Status → Memory → Returned} {next : Memory → Serve Returned}
    (hnext : ∀ buffer, StoresWithin (next buffer)) :
    StoresWithin (awaitThen server buffer expected null finish next) := by
  refine every_ask_bind (by simp [ServerCall.frame]) fun reception => ?_
  dsimp only
  split
  · exact every_pure _
  · split
    · exact hnext _
    · exact every_pure _

theorem storesWithin_converse {finish : Status → Memory → Returned} {turns : List Turn}
    (hframes : ∀ frame failed, .say frame failed ∈ turns → frame.length ≤ bufferSize)
    (buffer : Memory) : StoresWithin (converse server finish turns buffer) := by
  refine converse_rule (fun _ _ => every_pure _) ?_ ?_ buffer
  · intro frame failed hmem buffer next hnext
    exact storesWithin_sendThen (hframes frame failed hmem) hnext
  · intro expected null _ buffer next hnext
    exact storesWithin_awaitThen hnext

/-- What is said first is stored, whatever comes of it. -/
theorem mem_sentFrames_converse (finish : Status → Memory → Returned) (frame : List UInt8)
    (failed : Status → Status) (turns : List Turn) (broker : Broker) :
    frame ∈ sentFrames ((converse server finish (.say frame failed :: turns) buffer).run
      (respond broker) []).2 := by
  rw [converse, run_sendThen]
  refine List.mem_filterMap.mpr ⟨.send server frame, ?_, rfl⟩
  split
  · exact (prefix_run_respond broker _ _).subset (List.mem_singleton_self _)
  · exact List.mem_singleton_self _

end StoresWithin

section Operation

variable {client : SmqttClient} {buffer : Memory} {op : Operation}

theorem length_receiptTurns {data : PublishData} {frame : List UInt8} {failed : Status → Status}
    (hmem : .say frame failed ∈ receiptTurns data) : frame.length = 4 := by
  have hack (header : Nat) := length_makeIdMessage header data.packetId
  rw [receiptTurns] at hmem
  split_ifs at hmem
  · cases hmem
  · obtain ⟨rfl, rfl⟩ := Turn.say.inj (List.mem_singleton.mp hmem)
    exact hack _
  · obtain ⟨rfl, -⟩ | ⟨rfl, -⟩ : (frame = makePubrecMessage data.packetId ∧ _) ∨
        (frame = makePubcompMessage data.packetId ∧ _) := by
      simpa [ask] using hmem
    · exact hack _
    · exact hack _
  · cases hmem

/-- How long the frames of a dialogue are: the first of them decides. -/
theorem extent_of_dialogue {after : SmqttClient} {turns : List Turn}
    (hdialogue : op.dialogue client = some (after, turns)) :
    ∃ frame failed rest, turns = .say frame failed :: rest ∧
      frame.length ≤ op.extent client ∧ op.extent client ≤ max 4 frame.length ∧
        ∀ other failed, .say other failed ∈ rest → other.length = 4 := by
  cases op with
  | ping =>
      obtain ⟨-, hsome⟩ := Option.ite_none_right_eq_some.mp hdialogue
      obtain ⟨-, rfl⟩ := Prod.mk.inj (Option.some.inj hsome)
      have hlength : makePingreqMessage.length ≤ 4 := by decide
      exact ⟨_, _, _, rfl, hlength, le_max_left _ _, by simp⟩
  | publish topic msg qos retain =>
      obtain ⟨hsends, hsome⟩ := Option.ite_none_right_eq_some.mp hdialogue
      obtain ⟨-, rfl⟩ := Prod.mk.inj (Option.some.inj hsome)
      obtain ⟨rest, hturns, hrest⟩ := publishTurns_eq topic
        (if qos = QoS0 then client
          else { client with publishPacketId := client.publishPacketId + 1 }).publishPacketId
        qos retain msg
      have hlength (packetId : UInt16) : (makePublishMessage topic packetId qos retain msg).length
          = Operation.extent client (.publish topic msg qos retain) := by
        rw [Operation.extent, if_pos hsends]
        exact MakeMessage.length_frame (.publish topic packetId qos retain msg)
      refine ⟨_, _, rest, hturns, (hlength _).le, (hlength _).ge.trans (le_max_right _ _), ?_⟩
      intro other failed hmem
      rw [hrest other failed hmem, makePubrelMessage, length_makeIdMessage]
  | subscribe topics =>
      obtain ⟨hconnected, hsome⟩ := Option.ite_none_right_eq_some.mp hdialogue
      obtain ⟨-, rfl⟩ := Prod.mk.inj (Option.some.inj hsome)
      have hlength := MakeMessage.length_frame (.subscribe (client.subscribePacketId + 1) topics)
      rw [Operation.extent, if_pos hconnected]
      exact ⟨_, _, _, rfl, hlength.le, hlength.ge.trans (le_max_right _ _), by simp⟩
  | unsubscribe topics =>
      obtain ⟨hconnected, hsome⟩ := Option.ite_none_right_eq_some.mp hdialogue
      obtain ⟨-, rfl⟩ := Prod.mk.inj (Option.some.inj hsome)
      have hlength := MakeMessage.length_frame (.unsubscribe (client.unsubscribePacketId + 1) topics)
      rw [Operation.extent, if_pos hconnected]
      exact ⟨_, _, _, rfl, hlength.le, hlength.ge.trans (le_max_right _ _), by simp⟩
  | getNextMessage => cases hdialogue
  | disconnect => cases hdialogue

theorem extent_of_refused (hdialogue : op.dialogue client = none) : op.extent client ≤ 4 := by
  cases op with
  | publish topic msg qos retain =>
      have hrefused : ¬ (client.connected ∧ ¬ QoS2 < qos) := by
        simpa [Operation.dialogue] using hdialogue
      rw [Operation.extent, if_neg hrefused]
      exact Nat.zero_le _
  | subscribe topics =>
      have hconnected : ¬ client.connected := by simpa [Operation.dialogue] using hdialogue
      rw [Operation.extent, if_neg hconnected]
      exact Nat.zero_le _
  | unsubscribe topics =>
      have hconnected : ¬ client.connected := by simpa [Operation.dialogue] using hdialogue
      rw [Operation.extent, if_neg hconnected]
      exact Nat.zero_le _
  | _ => exact le_rfl

theorem storesWithin_getNextMessage : StoresWithin (smqttGetNextMessage client buffer) := by
  refine every_ask_bind (by simp [ServerCall.frame]) fun reception => ?_
  dsimp only
  split
  · exact every_pure _
  · split
    · exact every_pure _
    · rw [receiveMessage_eq_converse]
      refine storesWithin_converse (fun frame failed hmem => ?_) _
      rw [length_receiptTurns hmem]
      decide
    · exact every_pure _

theorem storesWithin_disconnect : StoresWithin (smqttDisconnect client buffer) := by
  refine every_ask_bind ?_ fun stat => ?_
  · rintro sent ⟨⟩
    exact staysWithin_iff.mpr (by decide)
  · refine every_ask_bind (by simp [ServerCall.frame]) fun _ => ?_
    split
    · exact every_pure _
    · exact every_pure _

/-- The frames of an operation, one by one. -/
theorem storesWithin_perform (hextent : op.extent client ≤ bufferSize) :
    StoresWithin (op.perform client buffer) := by
  cases hdialogue : op.dialogue client with
  | some held =>
      obtain ⟨frame, failed, rest, hturns, hframe, -, hrest⟩ := extent_of_dialogue hdialogue
      rw [perform_eq_converse hdialogue, hturns]
      refine storesWithin_converse (fun other failed' hmem => ?_) buffer
      obtain hfirst | hlater := List.mem_cons.mp hmem
      · obtain ⟨rfl, -⟩ := Turn.say.inj hfirst
        exact hframe.trans hextent
      · rw [hrest other failed' hlater]
        decide
  | none =>
      by_cases hnext : op = .getNextMessage
      · subst hnext
        exact storesWithin_getNextMessage
      · by_cases hdisconnect : op = .disconnect
        · subst hdisconnect
          exact storesWithin_disconnect
        · obtain ⟨status, -, hpure⟩ := perform_of_refused hnext hdisconnect hdialogue buffer
          rw [hpure]
          exact every_pure _

/-- The frame that decides is the first one, which is stored whatever the server answers. -/
theorem operation_staysWithin_iff :
    (∀ broker : Broker, ∀ frame ∈ sentFrames ((op.perform client buffer).run (respond broker) []).2,
        StaysWithin bufferSize frame) ↔ op.extent client ≤ bufferSize := by
  constructor
  · intro hwithin
    cases hdialogue : op.dialogue client with
    | some held =>
        obtain ⟨frame, failed, rest, hturns, -, hextent, -⟩ := extent_of_dialogue hdialogue
        rw [perform_eq_converse hdialogue, hturns] at hwithin
        have hframe := staysWithin_iff.mp
          (hwithin silentBroker frame (mem_sentFrames_converse _ _ _ _ _))
        exact hextent.trans (max_le (by decide) hframe)
    | none => exact (extent_of_refused hdialogue).trans (by decide)
  · intro hextent broker frame hmem
    obtain ⟨call, hcall, hframe⟩ := List.mem_filterMap.mp hmem
    have hevery := (storesWithin_perform hextent).run broker [] call hcall
    exact hevery.resolve_left List.not_mem_nil frame hframe

end Operation

/-! ### Connecting -/

/-- The call of the encoder that both connect functions make. -/
def ConnectArgs.message (args : ConnectArgs) : MakeMessage :=
  .connect args.clientId args.user args.pw (UInt8.ofNat args.keepAliveSec.toNat) args.cleanSession
    args.willQos args.willRetain args.will

theorem sendsConnect_of_fits {args : ConnectArgs} (hfits : args.Fits) :
    SendsConnect args (args.frame args.clientId) := by
  refine .mt none 0 (some System.zeroClient) (fun _ => 0) silentBroker ?_
  have hshort : ¬ (strlen args.clientId + 1 > maxClientIdChars ∨
      strlen args.serverIp + 1 > maxHostnameChars) := by
    rintro (hlong | hlong)
    · exact absurd hfits.1 (by omega)
    · exact absurd hfits.2 (by omega)
  have hserver : ((makeServer args.mode 0).run (respond silentBroker) []).1 = 0 := by
    rw [makeServer, run_ite]
    split <;> rfl
  rw [smqttMtConnectInternal_eq, run_bind, if_neg hshort, Greeting.greet, serverConnect, run_bind,
    run_ask]
  refine List.mem_filterMap.mpr ⟨(args.greeting 0 100).send, ?_, rfl⟩
  rw [hserver]
  simp only [respond, silentBroker, ne_eq, not_true_eq_false, if_false, serverSend, run_bind, run_ask]
  refine (prefix_run_respond _ _ _).subset ?_
  exact List.mem_append_left _ (List.mem_append_right _ (List.mem_singleton_self _))

theorem connect_staysWithin_iff (args : ConnectArgs) :
    (∀ frame, SendsConnect args frame → StaysWithin bufferSize frame) ↔
      (args.Fits → args.message.extent ≤ bufferSize) := by
  have hlength : (args.frame args.clientId).length = args.message.extent :=
    args.message.length_frame
  constructor
  · intro hwithin hfits
    exact hlength ▸ staysWithin_iff.mp (hwithin _ (sendsConnect_of_fits hfits))
  · intro hextent frame hsends
    obtain ⟨hfits, rfl⟩ := hsends.fits_and_eq
    rw [staysWithin_iff, hlength]
    exact hextent hfits

/-! ### The multi-threaded client -/

/-- How far a request writes into its slot. -/
def Request.extent : Request → Nat
  | ping _ _ => 2
  | publish topic msg qos retain _ _ => (MakeMessage.publish topic 0 qos retain msg).extent
  | subscribe topics _ _ => (MakeMessage.subscribe 0 topics).extent
  | unsubscribe topics _ _ => (MakeMessage.unsubscribe 0 topics).extent

theorem Request.length_outgoing (request : Request) (client : Client) :
    (request.outgoing client).bytes.length = request.extent := by
  cases request with
  | ping callback context => rfl
  | publish topic msg qos retain callback context =>
      exact MakeMessage.length_frame (.publish topic client.publishPacketId qos retain msg)
  | subscribe topics subCallback context =>
      exact MakeMessage.length_frame (.subscribe client.subscribePacketId topics)
  | unsubscribe topics callback context =>
      exact MakeMessage.length_frame (.unsubscribe client.subscribePacketId topics)

variable {Tid : Type} [DecidableEq Tid]

/-- What a step stores in a slot, or in one of the static buffers. -/
def Shutdown.stored (state : Shutdown Tid) (label : ShutdownLabel Tid) (_ : Shutdown Tid) :
    List (List UInt8) :=
  match label with
  | .thread (.serialize tid) =>
      match state.system.api tid with
      | .serializing _ request _ => [(request.outgoing state.system.client).bytes]
      | _ => []
  | .thread (.sessionReply _) =>
      match state.system.session with
      | .replying reply => [reply.frame]
      | _ => []
  | .sendDisconnect _ => [makeDisconnectMessage]
  | _ => []

/-- A call that is not turned away makes a frame that fits into a slot. -/
def Shutdown.CallFits (state : Shutdown Tid) : ShutdownLabel Tid → Prop
  | .thread (.call _ request) =>
      request.refused state.system.client = none → request.extent ≤ bufferSize
  | _ => True

def System.Fitting (system : System Tid) : Prop :=
  ∀ tid, ∀ request ∈ (system.api tid).request, request.extent ≤ bufferSize

namespace System

variable {system next : System Tid}

/-- One thread moves on; what it is yet to serialize fits. -/
theorem Fitting.update (hfitting : system.Fitting) {tid : Tid} {pc : ApiPc}
    (hpc : ∀ request ∈ pc.request, request.extent ≤ bufferSize)
    (hapi : next.api = Function.update system.api tid pc) : next.Fitting := by
  intro other request hrequest
  rw [hapi] at hrequest
  by_cases heq : other = tid
  · subst heq
    rw [Function.update_self] at hrequest
    exact hpc request hrequest
  · rw [Function.update_of_ne heq] at hrequest
    exact hfitting other request hrequest

theorem Fitting.trySlot (hfitting : system.Fitting) {tid : Tid} {serial : Nat} {request : Request}
    (hrequest : request.extent ≤ bufferSize) : (system.trySlot tid serial request).Fitting := by
  cases hfree : system.client.freeQueue.toList with
  | nil =>
      rw [trySlot_of_nil hfree]
      exact hfitting.update (by rintro _ ⟨⟩; exact hrequest) rfl
  | cons slot rest =>
      rw [trySlot_of_cons hfree]
      exact hfitting.update (by rintro _ ⟨⟩; exact hrequest) rfl

/-- Only a call brings a request with it. -/
theorem Fitting.step (hfitting : system.Fitting) {label : Label Tid}
    (hcall : ∀ tid request, label = .call tid request → request.refused system.client = none →
      request.extent ≤ bufferSize)
    (hstep : system.step label = some next) : next.Fitting := by
  cases label with
  | call tid request =>
      obtain ⟨-, rfl⟩ := step_call.mp hstep
      cases hrefused : request.refused system.client with
      | some status =>
          rw [call_of_refused hrefused]
          exact hfitting
      | none =>
          rw [call_of_accepted hrefused]
          refine hfitting.update ?_ rfl
          rintro _ ⟨⟩
          exact hcall tid request rfl hrefused
  | lockSlot tid =>
      obtain ⟨serial, request, hpc, -, rfl⟩ := step_lockSlot.mp hstep
      exact hfitting.trySlot (hfitting tid request (by rw [hpc]; rfl))
  | spin tid =>
      obtain ⟨serial, request, hpc, rfl⟩ := step_spin.mp hstep
      exact hfitting.trySlot (hfitting tid request (by rw [hpc]; rfl))
  | serialize tid =>
      obtain ⟨serial, request, slot, hpc, rfl⟩ := step_serialize.mp hstep
      refine hfitting.update ?_ rfl
      rintro _ ⟨⟩
      exact hfitting tid request (by rw [hpc]; rfl)
  | enqueueWaiting tid =>
      obtain ⟨serial, request, slot, outgoing, -, -, rfl⟩ := step_enqueueWaiting.mp hstep
      exact hfitting.update (by rintro _ ⟨⟩) rfl
  | enqueueSlot tid =>
      obtain ⟨serial, slot, outgoing, -, -, rfl⟩ := step_enqueueSlot.mp hstep
      exact hfitting.update (by rintro _ ⟨⟩) rfl
  | signalDisconnect =>
      obtain ⟨-, rfl⟩ := step_signalDisconnect.mp hstep
      exact hfitting
  | _ =>
      have hapi := (sessionFrame_step rfl hstep).api
      intro tid request hrequest
      exact hfitting tid request (hapi ▸ hrequest)

end System

namespace Shutdown

variable {state next : Shutdown Tid}

theorem fitting_step {label : ShutdownLabel Tid} (hfitting : state.system.Fitting)
    (hcall : state.CallFits label) (hstep : state.step label = some next) :
    next.system.Fitting := by
  cases label with
  | thread label =>
      simp only [step] at hstep
      split at hstep
      · cases hstep
      · obtain ⟨system, hsystem, rfl⟩ := Option.map_eq_some_iff.mp hstep
        refine hfitting.step ?_ hsystem
        rintro tid request rfl
        exact hcall
  | signalDisconnect =>
      simp only [step] at hstep
      split at hstep
      · obtain ⟨system, hsystem, rfl⟩ := Option.map_eq_some_iff.mp hstep
        exact hfitting.step (fun _ _ heq => by cases heq) hsystem
      · cases hstep
  | joinSessionThread status =>
      simp only [step] at hstep
      split at hstep
      · obtain rfl := Option.some.inj hstep
        exact hfitting
      · cases hstep
  | sendDisconnect status =>
      simp only [step] at hstep
      split at hstep
      · obtain rfl := Option.some.inj hstep
        exact hfitting
      · cases hstep

omit [DecidableEq Tid] in
theorem stored_staysWithin {label : ShutdownLabel Tid} (hfitting : state.system.Fitting) :
    ∀ frame ∈ state.stored label next, StaysWithin bufferSize frame := by
  intro frame hmem
  rw [staysWithin_iff]
  simp only [stored] at hmem
  split at hmem
  · split at hmem
    · rename_i tid _ serial request slot hpc
      obtain rfl := List.mem_singleton.mp hmem
      rw [request.length_outgoing]
      exact hfitting tid request (by rw [hpc]; rfl)
    · cases hmem
  · split at hmem
    · rename_i reply _
      obtain rfl := List.mem_singleton.mp hmem
      rw [reply.length_frame]
      decide
    · cases hmem
  · obtain rfl := List.mem_singleton.mp hmem
    decide
  · cases hmem

/-- Along a run, as long as every call fits. -/
theorem observe_staysWithin {labels : List (ShutdownLabel Tid)} (hfitting : state.system.Fitting)
    (halong : Run.Along step CallFits state labels) :
    ∀ frame ∈ Run.observe step stored state labels, StaysWithin bufferSize frame :=
  Run.forall_mem_observe (fun state => state.system.Fitting)
    (fun _ _ _ hfitting hcall hstep => fitting_step hfitting hcall hstep)
    (fun _ _ _ hfitting => stored_staysWithin hfitting) hfitting halong

end Shutdown

/-- **When the encoders keep within their buffers.** An encoder does exactly if its frame is no longer
than the capacity; so does a connect of either client, and an operation of the single-threaded one; and
the threads of the other one do in every run whose calls make frames that fit into a slot. -/
theorem keeps_within_iff (message : MakeMessage) (capacity : Nat) (args : ConnectArgs)
    (client : SmqttClient) (buffer : Memory) (op : Operation) (mtClient : Client)
    (bufferCount : UInt16) (labels : List (ShutdownLabel Tid)) :
    (StaysWithin capacity message.frame ↔ message.extent ≤ capacity) ∧
    ((∀ frame, SendsConnect args frame → StaysWithin bufferSize frame) ↔
      (args.Fits → args.message.extent ≤ bufferSize)) ∧
    ((∀ broker : Broker,
        ∀ frame ∈ sentFrames ((op.perform client buffer).run (respond broker) []).2,
          StaysWithin bufferSize frame) ↔ op.extent client ≤ bufferSize) ∧
    (Run.Along Shutdown.step Shutdown.CallFits (.init mtClient bufferCount bufferSize) labels →
      ∀ frame ∈ Run.observe Shutdown.step Shutdown.stored (.init mtClient bufferCount bufferSize)
        labels, StaysWithin bufferSize frame) := by
  refine ⟨?_, connect_staysWithin_iff args, operation_staysWithin_iff, fun halong => ?_⟩
  · rw [staysWithin_iff, message.length_frame]
  · exact Shutdown.observe_staysWithin (fun tid => by rintro request ⟨⟩) halong

/-- A client that is still alone pings, and the PINGREQ goes into its slot. -/
theorem pingreq_stays_within :
    let start : Shutdown Unit := .init { System.zeroClient with connected := true } 1 bufferSize
    let labels : List (ShutdownLabel Unit) :=
      [.thread (.call () (.ping none 0)), .thread (.lockSlot ()), .thread (.serialize ())]
    Run.observe Shutdown.step Shutdown.stored start labels = [[0xc0, 0]] ∧
      ∀ frame ∈ Run.observe Shutdown.step Shutdown.stored start labels,
        StaysWithin bufferSize frame := by
  intro start labels
  have halong : Run.Along Shutdown.step Shutdown.CallFits start labels := by
    refine ⟨fun _ => ?_, ?_⟩
    · decide
    · exact ⟨trivial, trivial, trivial⟩
  have hwithin := keeps_within_iff .pingreq 2 (requestArgs 30) ⟨[], [], 1883, true, 0, 1, 0, 0⟩
    (fun _ => 0) .ping { System.zeroClient with connected := true } 1 labels
  exact ⟨rfl, hwithin.2.2.2 halong⟩

/-- A topic of 1100 bytes on a connected client. -/
theorem publish_not_within : ¬ ∀ (client : SmqttClient) (buffer : Memory) (op : Operation)
    (broker : Broker), ∀ frame ∈ sentFrames ((op.perform client buffer).run (respond broker) []).2,
      StaysWithin bufferSize frame := by
  intro hwithin
  let client : SmqttClient := ⟨[], [], 1883, true, 0, 1, 0, 0⟩
  let topic : CString :=
    ⟨List.replicate 1100 97, fun hmem => absurd (List.eq_of_mem_replicate hmem) (by decide)⟩
  have hlength : strlen topic = 1100 := List.length_replicate
  have hextent := operation_staysWithin_iff.mp
    (hwithin client (fun _ => 0) (.publish topic none QoS0 false))
  have hpublish : (MakeMessage.publish topic 0 QoS0 false none).extent = 1105 := by
    simp [MakeMessage.extent, MakeMessage.declared, MakeMessage.bodySize, hlength, lengthBytes, QoS0,
      QoS1]
  have hsends : Operation.extent client (.publish topic none QoS0 false) = 1105 := hpublish
  rw [hsends] at hextent
  exact absurd hextent (by decide)

end Smqtt
