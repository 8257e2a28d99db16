import Smqtt.Program
import Smqtt.Proof.Agreement
import Smqtt.Proof.Connect

/-!
# What memory for the client can be told from

Of the memory that `malloc` returns for a client one field is used that is not set on the way:
`unsubscribe_packet_id`, which shows in the frames of unsubscribes by its low byte, and in their
results by whether an id above 255 can be acknowledged at all. Without a remote server the pointer to
the server is not set either.
-/

namespace Smqtt

open Interaction

/-- Connected clients that differ in nothing that an operation uses, but for the ids of
unsubscribes. -/
structure Twin (left right : SmqttClient) : Prop where
  connected : left.connected = true
  same : ∃ hostname clientid port unsubscribePacketId,
    right = { left with hostname, clientid, port, unsubscribePacketId }

/-- The same was returned, and the clients are twins with these ids of unsubscribes. -/
structure Alike (leftId rightId : UInt16) (left right : Returned) : Prop where
  status : left.status = right.status
  receiveBuffer : left.receiveBuffer = right.receiveBuffer
  twin : Twin left.client right.client
  leftId : left.client.unsubscribePacketId = leftId
  rightId : right.client.unsubscribePacketId = rightId

section Operations

variable {left right : SmqttClient} {rel : Returned → Returned → Prop}

theorem Twin.alike_finish (htwin : Twin left right) (status : Status) (buffer : Memory) :
    Alike left.unsubscribePacketId right.unsubscribePacketId (finish left status buffer)
      (finish right status buffer) :=
  ⟨rfl, rfl, htwin, rfl, rfl⟩

theorem related_sendThen {server : ServerRef} {frame : List UInt8}
    {failed failed' : Status → Returned} {next next' : Serve Returned}
    (hfailed : ∀ status, rel (failed status) (failed' status)) (hnext : Related rel next next') :
    Related rel (sendThen server frame failed next) (sendThen server frame failed' next') := by
  refine related_ask_bind fun stat => ?_
  cases stat with
  | ok => exact hnext
  | socket => exact related_pure (hfailed _)

/-- The two may expect different packets, as long as none that can be parsed is one of them only. -/
theorem related_awaitThen {server : ServerRef} {buffer : Memory} {expected expected' : Response → Bool}
    {null : Status} {finish finish' : Status → Memory → Returned} {next next' : Memory → Serve Returned}
    (hexpected : ∀ buffer size resp, parseBuffer buffer size = some resp →
      expected resp = expected' resp)
    (hfinish : ∀ status buffer, rel (finish status buffer) (finish' status buffer))
    (hnext : ∀ buffer, Related rel (next buffer) (next' buffer)) :
    Related rel (awaitThen server buffer expected null finish next)
      (awaitThen server buffer expected' null finish' next') := by
  refine related_ask_bind fun reception => ?_
  dsimp only
  cases hparse : parseBuffer (buffer.patch reception.stored) reception.size with
  | none => exact related_pure (hfinish _ _)
  | some resp =>
      dsimp only
      rw [hexpected _ _ _ hparse]
      split
      · exact hnext _
      · exact related_pure (hfinish _ _)

/-- A request and its acknowledgement. -/
theorem related_ask (htwin : Twin left right) {server : ServerRef} {frame : List UInt8}
    {buffer : Memory} {expected expected' : Response → Bool} {failed failed' : Status → Returned}
    (hexpected : ∀ buffer size resp, parseBuffer buffer size = some resp →
      expected resp = expected' resp)
    (hfailed : ∀ status, Alike left.unsubscribePacketId right.unsubscribePacketId (failed status)
      (failed' status)) :
    Related (Alike left.unsubscribePacketId right.unsubscribePacketId)
      (sendThen server frame failed (awaitThen server buffer expected .badMessage
        (finish left) fun buffer => pure (finish left .ok buffer)))
      (sendThen server frame failed' (awaitThen server buffer expected' .badMessage
        (finish right) fun buffer => pure (finish right .ok buffer))) := by
  refine related_sendThen hfailed (related_awaitThen hexpected htwin.alike_finish fun buffer => ?_)
  exact related_pure (htwin.alike_finish _ _)

/-- An id that a packet is parsed to have is one byte long. -/
theorem packetId_lt_of_parse {buffer : Memory} {size : Int} {resp : Response} {packetId : UInt16}
    (hparse : parseBuffer buffer size = some resp) (hid : resp.packetId = some packetId) :
    packetId.toNat < 256 := by
  obtain ⟨type, totalSize, offset, -, rfl⟩ := exists_deserializeBody_of_eval hparse
  cases type with
  | publish =>
      simp only [deserializeBody, deserializePublish, eval_bind, eval_ite, eval_pure] at hid
      split at hid <;> cases hid
  | puback | pubrec | pubrel | pubcomp | suback | unsuback =>
      simp only [deserializeBody, eval_bind, eval_map, eval_pure, eval_shortFromBuffer,
        Response.packetId, Option.some.injEq] at hid
      rw [← hid]
      exact toUInt16_lt _
  | _ =>
      simp [deserializeBody, deserializeConnect, Response.packetId] at hid

theorem acknowledges_eq_false {buffer : Memory} {size : Int} {resp : Response} {type : MessageType}
    {packetId : UInt16} (hparse : parseBuffer buffer size = some resp) (hid : 256 ≤ packetId.toNat) :
    resp.acknowledges type packetId = false := by
  rw [Response.acknowledges, decide_eq_false_iff_not]
  rintro ⟨-, hpacketId⟩
  have hlow := packetId_lt_of_parse hparse hpacketId
  omega

theorem related_publish (htwin : Twin left right) (buffer : Memory) (topic : CString)
    (msg : Option CString) (qos : QoS) (retain : Bool) :
    Related (Alike left.unsubscribePacketId right.unsubscribePacketId)
      (smqttPublish left buffer topic msg qos retain)
      (smqttPublish right buffer topic msg qos retain) := by
  obtain ⟨hostname, clientid, port, unsubscribePacketId, rfl⟩ := htwin.same
  have hnext : Twin { left with publishPacketId := left.publishPacketId + 1 }
      { left with hostname, clientid, port, unsubscribePacketId,
                  publishPacketId := left.publishPacketId + 1 } :=
    ⟨htwin.connected, _, _, _, _, rfl⟩
  rw [smqttPublish, smqttPublish]
  dsimp only
  split
  · split
    · exact related_pure (htwin.alike_finish _ _)
    · split
      · exact related_sendThen (fun _ => htwin.alike_finish _ _)
          (related_pure (htwin.alike_finish _ _))
      · refine related_sendThen (fun _ => hnext.alike_finish _ _) ?_
        split
        · refine related_awaitThen (fun _ _ _ _ => rfl) hnext.alike_finish fun buffer => ?_
          exact related_pure (hnext.alike_finish _ _)
        · refine related_awaitThen (fun _ _ _ _ => rfl) hnext.alike_finish fun buffer => ?_
          exact related_ask hnext (fun _ _ _ _ => rfl) fun _ => hnext.alike_finish _ _
  · exact related_pure (htwin.alike_finish _ _)

theorem related_receiveMessage (htwin : Twin left right) (buffer : Memory) (data : PublishData) :
    Related (Alike left.unsubscribePacketId right.unsubscribePacketId)
      (receiveMessage left buffer data) (receiveMessage right buffer data) := by
  obtain ⟨hostname, clientid, port, unsubscribePacketId, rfl⟩ := htwin.same
  have hfinish (status : Status) (last : Memory) :
      Alike left.unsubscribePacketId unsubscribePacketId
        (finishMessage left buffer data status last)
        (finishMessage { left with hostname, clientid, port, unsubscribePacketId } buffer data status
          last) :=
    ⟨rfl, rfl, htwin, rfl, rfl⟩
  rw [receiveMessage, receiveMessage]
  dsimp only
  split
  · exact related_pure (hfinish _ _)
  · split
    · exact related_sendThen (fun _ => hfinish _ _) (related_pure (hfinish _ _))
    · split
      · refine related_sendThen (fun _ => hfinish _ _) ?_
        refine related_awaitThen (fun _ _ _ _ => rfl) hfinish fun buffer => ?_
        exact related_sendThen (fun _ => hfinish _ _) (related_pure (hfinish _ _))
      · exact related_pure (hfinish _ _)

theorem related_getNextMessage (htwin : Twin left right) (buffer : Memory) :
    Related (Alike left.unsubscribePacketId right.unsubscribePacketId)
      (smqttGetNextMessage left buffer) (smqttGetNextMessage right buffer) := by
  obtain ⟨hostname, clientid, port, unsubscribePacketId, rfl⟩ := htwin.same
  refine related_ask_bind fun reception => ?_
  dsimp only
  split
  · exact related_pure (htwin.alike_finish _ _)
  · split
    · exact related_pure (htwin.alike_finish _ _)
    · exact related_receiveMessage htwin _ _
    · exact related_pure (htwin.alike_finish _ _)

/-- An operation that is not an unsubscribe does the same for twins. -/
theorem related_perform (htwin : Twin left right) (buffer : Memory) {op : Operation}
    (hop : ∀ topics, op ≠ .unsubscribe topics) :
    Related (Alike left.unsubscribePacketId right.unsubscribePacketId) (op.perform left buffer)
      (op.perform right buffer) := by
  obtain ⟨hostname, clientid, port, unsubscribePacketId, rfl⟩ := htwin.same
  cases op with
  | ping =>
      rw [Operation.perform, Operation.perform, smqttPing, smqttPing]
      dsimp only
      split
      · exact related_ask htwin (fun _ _ _ _ => rfl) fun _ => htwin.alike_finish _ _
      · exact related_pure (htwin.alike_finish _ _)
  | publish topic msg qos retain => exact related_publish htwin buffer topic msg qos retain
  | subscribe topics =>
      have hnext : Twin { left with subscribePacketId := left.subscribePacketId + 1 }
          { left with hostname, clientid, port, unsubscribePacketId,
                      subscribePacketId := left.subscribePacketId + 1 } :=
        ⟨htwin.connected, _, _, _, _, rfl⟩
      rw [Operation.perform, Operation.perform, smqttSubscribe, smqttSubscribe]
      dsimp only
      split
      · exact related_ask hnext (fun _ _ _ _ => rfl) fun _ => hnext.alike_finish _ _
      · exact related_pure (htwin.alike_finish _ _)
  | unsubscribe topics => exact absurd rfl (hop topics)
  | getNextMessage => exact related_getNextMessage htwin buffer
  | disconnect =>
      refine related_ask_bind fun stat => related_ask_bind fun _ => ?_
      split
      · exact related_pure (htwin.alike_finish _ _)
      · exact related_pure (htwin.alike_finish _ _)

theorem makeUnsubscribeMessage_inj {leftId rightId : UInt16} {topics : List CString} :
    makeUnsubscribeMessage leftId topics = makeUnsubscribeMessage rightId topics ↔
      leftId.toNat % 256 = rightId.toNat % 256 := by
  rw [makeUnsubscribeMessage_eq, makeUnsubscribeMessage_eq, List.cons.injEq, and_iff_right rfl,
    List.append_cancel_left_eq, List.cons.injEq, List.cons.injEq, and_iff_right rfl,
    and_iff_left rfl, ← UInt8.toNat_inj, UInt8.toNat_ofNat', UInt8.toNat_ofNat']

/-- The ids show the same to the broker and accept the same acknowledgements. -/
def SameId (left right : UInt16) : Prop :=
  left = right ∨ 256 ≤ left.toNat ∧ 256 ≤ right.toNat ∧ left.toNat % 256 = right.toNat % 256

theorem SameId.low_eq {leftId rightId : UInt16} (hsame : SameId leftId rightId) :
    leftId.toNat % 256 = rightId.toNat % 256 := by
  obtain rfl | ⟨-, -, hlow⟩ := hsame
  · rfl
  · exact hlow

theorem SameId.acknowledges_eq {leftId rightId : UInt16} (hsame : SameId leftId rightId)
    {buffer : Memory} {size : Int} {resp : Response} (hparse : parseBuffer buffer size = some resp)
    (type : MessageType) : resp.acknowledges type leftId = resp.acknowledges type rightId := by
  obtain rfl | ⟨hleft, hright, -⟩ := hsame
  · rfl
  · rw [acknowledges_eq_false hparse hleft, acknowledges_eq_false hparse hright]

theorem Twin.right_connected (htwin : Twin left right) : right.connected = true := by
  obtain ⟨hostname, clientid, port, unsubscribePacketId, rfl⟩ := htwin.same
  exact htwin.connected

theorem Twin.next_unsubscribe (htwin : Twin left right) :
    Twin { left with unsubscribePacketId := left.unsubscribePacketId + 1 }
      { right with unsubscribePacketId := right.unsubscribePacketId + 1 } := by
  obtain ⟨hostname, clientid, port, unsubscribePacketId, rfl⟩ := htwin.same
  exact ⟨htwin.connected, _, _, _, _, rfl⟩

theorem related_unsubscribe (htwin : Twin left right) (buffer : Memory) (topics : List CString)
    (hsame : SameId (left.unsubscribePacketId + 1) (right.unsubscribePacketId + 1)) :
    Related (Alike (left.unsubscribePacketId + 1) (right.unsubscribePacketId + 1))
      (smqttUnsubscribe left buffer topics) (smqttUnsubscribe right buffer topics) := by
  have hnext := htwin.next_unsubscribe
  rw [smqttUnsubscribe, smqttUnsubscribe, if_pos htwin.connected, if_pos htwin.right_connected]
  obtain ⟨hostname, clientid, port, unsubscribePacketId, rfl⟩ := htwin.same
  dsimp only at hsame hnext ⊢
  rw [makeUnsubscribeMessage_inj.mpr hsame.low_eq]
  refine related_ask hnext ?_ fun _ => hnext.alike_finish _ _
  exact fun _ _ _ hparse => hsame.acknowledges_eq hparse _

end Operations

/-! ### Whole programs -/

def Operation.isUnsubscribe : Operation → Bool
  | unsubscribe _ => true
  | _ => false

/-- The unsubscribes among the operations. -/
def unsubscribes (ops : List Operation) : Nat := ops.countP Operation.isUnsubscribe

section Programs

variable {left right : SmqttClient}

theorem unsubscribes_cons_unsubscribe (topics : List CString) (ops : List Operation) :
    unsubscribes (.unsubscribe topics :: ops) = unsubscribes ops + 1 :=
  List.countP_cons_of_pos rfl

theorem unsubscribes_cons_other {op : Operation} (hop : ∀ topics, op ≠ .unsubscribe topics)
    (ops : List Operation) : unsubscribes (op :: ops) = unsubscribes ops := by
  apply List.countP_cons_of_neg
  cases op <;> first | exact Bool.false_ne_true | exact absurd rfl (hop _)

theorem unsubscribe_or (op : Operation) :
    (∃ topics, op = .unsubscribe topics) ∨ ∀ topics, op ≠ .unsubscribe topics := by
  cases op <;> simp

/-- The id of the unsubscribe that comes so many after the next. -/
theorem id_succ (packetId : UInt16) (count : Nat) :
    packetId + 1 + UInt16.ofNat count = packetId + UInt16.ofNat (count + 1) := by
  rw [UInt16.ofNat_add, UInt16.add_assoc, UInt16.add_comm 1]
  rfl

/-- Twins return the same for all operations, if the ids of the unsubscribes cannot be told apart. -/
theorem related_performAll (htwin : Twin left right) (buffer : Memory) (ops : List Operation)
    (hsame : ∀ count, 1 ≤ count → count ≤ unsubscribes ops →
      SameId (left.unsubscribePacketId + UInt16.ofNat count)
        (right.unsubscribePacketId + UInt16.ofNat count)) :
    Related (fun returned returned' => returned.map Returned.status = returned'.map Returned.status)
      (performAll left buffer ops) (performAll right buffer ops) := by
  induction ops generalizing left right buffer with
  | nil => exact related_pure rfl
  | cons op ops ih =>
      rw [performAll, performAll]
      obtain ⟨topics, rfl⟩ | hop := unsubscribe_or op
      · have hfirst : SameId (left.unsubscribePacketId + 1) (right.unsubscribePacketId + 1) :=
          hsame 1 le_rfl (by rw [unsubscribes_cons_unsubscribe]; omega)
        refine (related_unsubscribe htwin buffer topics hfirst).bind fun returned other halike => ?_
        rw [halike.receiveBuffer]
        refine (ih halike.twin _ ?_).bind fun rest rest' hrest => related_pure ?_
        · intro count hpos hcount
          rw [halike.leftId, halike.rightId, id_succ, id_succ]
          exact hsame _ (by omega) (by rw [unsubscribes_cons_unsubscribe]; omega)
        · rw [List.map_cons, List.map_cons, halike.status, hrest]
      · refine (related_perform htwin buffer hop).bind fun returned other halike => ?_
        rw [halike.receiveBuffer]
        refine (ih halike.twin _ ?_).bind fun rest rest' hrest => related_pure ?_
        · intro count hpos hcount
          rw [halike.leftId, halike.rightId]
          exact hsame _ hpos (by rwa [unsubscribes_cons_other hop])
        · rw [List.map_cons, List.map_cons, halike.status, hrest]

end Programs

/-! ### Connecting -/

section Connect

variable {args : ConnectArgs} {memory memory' : SmqttClient} {buffer : Memory}

/-- The same was returned by a connect, and there are no clients or twins. -/
inductive ConnectedAlike (memory memory' : SmqttClient) : Connected → Connected → Prop
  | unchanged (status : Status) (buffer : Memory) :
      ConnectedAlike memory memory' ⟨status, .unchanged, buffer⟩ ⟨status, .unchanged, buffer⟩
  | set (status : Status) (buffer : Memory) {left right : SmqttClient} (htwin : Twin left right)
      (hleft : left.unsubscribePacketId = memory.unsubscribePacketId)
      (hright : right.unsubscribePacketId = memory'.unsubscribePacketId) :
      ConnectedAlike memory memory' ⟨status, .set left, buffer⟩ ⟨status, .set right, buffer⟩

theorem related_greet {γ : Type} {rel : γ → γ → Prop} (greeting : Greeting)
    {leave leave' : Greeting.Leaving → Memory → γ}
    (hleave : ∀ leaving buffer, rel (leave leaving buffer) (leave' leaving buffer)) :
    Related rel (greeting.greet buffer leave) (greeting.greet buffer leave') := by
  refine related_ask_bind fun stat => ?_
  split
  · exact related_pure (hleave _ _)
  · refine related_ask_bind fun stat => ?_
    split
    · exact related_pure (hleave _ _)
    · refine related_ask_bind fun reception => ?_
      rw [Greeting.conclude, Greeting.conclude]
      split
      · split
        · exact related_pure (hleave _ _)
        · split
          · exact related_ask_bind fun _ => related_pure (hleave _ _)
          · exact related_pure (hleave _ _)
        · exact related_pure (hleave _ _)
      · exact related_ask_bind fun _ => related_pure (hleave _ _)

theorem alike_leaveConnect (server : ServerRef) (leaving : Greeting.Leaving) (buffer : Memory) :
    ConnectedAlike memory memory' (leaveConnect (initialise args memory server) leaving buffer)
      (leaveConnect (initialise args memory' server) leaving buffer) := by
  cases leaving with
  | welcomed => exact .set _ _ ⟨rfl, _, _, _, _, rfl⟩ rfl rfl
  | _ => exact .unchanged _ _

theorem related_connect (hfits : args.Fits)
    (hserver : args.mode = .remoteServer ∨ memory.server = memory'.server) :
    Related (ConnectedAlike memory memory') (smqttConnectInternal args (some memory) buffer)
      (smqttConnectInternal args (some memory') buffer) := by
  have hmake : Related Eq (makeServer args.mode memory.server)
      (makeServer args.mode memory'.server) := by
    rw [makeServer, makeServer]
    split
    · exact .call _ fun server => .done rfl
    · rename_i hmode
      exact related_pure (hserver.resolve_left hmode)
  rw [smqttConnectInternal_eq, smqttConnectInternal_eq]
  apply hmake.bind
  rintro server _ rfl
  rw [if_neg (not_long hfits), if_neg (not_long hfits)]
  exact related_greet _ (alike_leaveConnect server)

/-- Without a client there is nothing to tell the memories apart by. -/
theorem related_connect_long (hfits : ¬ args.Fits) :
    Related (fun out out' => out = ⟨.ok, .unchanged, buffer⟩ ∧ out' = ⟨.ok, .unchanged, buffer⟩)
      (smqttConnectInternal args (some memory) buffer)
      (smqttConnectInternal args (some memory') buffer) := by
  have hmake : Related (fun _ _ => True) (makeServer args.mode memory.server)
      (makeServer args.mode memory'.server) := by
    rw [makeServer, makeServer]
    split
    · exact .call _ fun server => .done trivial
    · exact related_pure trivial
  rw [smqttConnectInternal_eq, smqttConnectInternal_eq]
  refine hmake.bind fun server server' _ => ?_
  rw [if_pos (long_of_not_fits hfits), if_pos (long_of_not_fits hfits)]
  exact related_pure ⟨rfl, rfl⟩

/-- The two contents of the memory cannot be told apart by these calls. -/
def Indistinct (args : ConnectArgs) (ops : List Operation) (memory memory' : SmqttClient) : Prop :=
  args.Fits → (args.mode = .remoteServer ∨ memory.server = memory'.server) ∧
    ∀ count, 1 ≤ count → count ≤ unsubscribes ops →
      SameId (memory.unsubscribePacketId + UInt16.ofNat count)
        (memory'.unsubscribePacketId + UInt16.ofNat count)

theorem related_connectAndPerform {ops : List Operation}
    (hindistinct : Indistinct args ops memory memory') :
    Related Eq (connectAndPerform args memory buffer ops)
      (connectAndPerform args memory' buffer ops) := by
  by_cases hfits : args.Fits
  · obtain ⟨hserver, hsame⟩ := hindistinct hfits
    refine (related_connect hfits hserver).bind fun out out' halike => ?_
    cases halike with
    | unchanged status buffer => exact related_pure rfl
    | set status buffer htwin hleft hright =>
        rw [← hleft, ← hright] at hsame
        refine (related_performAll htwin buffer ops hsame).bind fun returned returned' hreturned => ?_
        exact related_pure (congrArg (status :: ·) hreturned)
  · refine (related_connect_long hfits).bind ?_
    rintro _ _ ⟨rfl, rfl⟩
    exact related_pure rfl

end Connect

/-! ### Telling memories apart -/

section Distinct

variable {left right : SmqttClient} {table : ServerTable} {buffer : Memory} {ops : List Operation}

/-- Every packet acknowledges an unsubscribe with this id. -/
def unsubacks (low : UInt8) : ServerTable
  | .createNetworkServer => (0 : Nat)
  | .connect _ _ _ _ => .ok
  | .send _ _ => .ok
  | .receive _ => ⟨4, fun index => [0xB0, 2, 0, low][index]?⟩
  | .disconnect _ => .ok

theorem packet_unsubacks (low : UInt8) (server : ServerRef) (buffer : Memory) :
    (unsubacks low).packet server buffer = some (.unsuback low.toUInt16) := by
  have htype : (0xB0 : UInt8).toNat >>> 4 = MessageType.unsuback.code := by decide
  change parseBuffer (buffer.patch fun index => [0xB0, 2, 0, low][index]?) 4 = _
  rw [parse_four rfl htype]
  simp only [deserializeBody, eval_map, eval_shortFromBuffer]
  rfl

/-- The first unsubscribe shows the low byte of its id. -/
theorem low_eq_of_frames (htwin : Twin left right)
    (hframes : sentFrames ((performAll left buffer ops).calls table)
      = sentFrames ((performAll right buffer ops).calls table))
    (hops : 1 ≤ unsubscribes ops) :
    (left.unsubscribePacketId + 1).toNat % 256 = (right.unsubscribePacketId + 1).toNat % 256 := by
  induction ops generalizing left right buffer with
  | nil => simp [unsubscribes] at hops
  | cons op ops ih =>
      simp only [performAll, calls_bind, calls_pure, List.append_nil, sentFrames_append] at hframes
      obtain ⟨topics, rfl⟩ | hop := unsubscribe_or op
      · rw [Operation.perform, Operation.perform, smqttUnsubscribe, smqttUnsubscribe,
          if_pos htwin.connected, if_pos htwin.right_connected] at hframes
        have hhead := (List.cons.inj hframes).1
        exact makeUnsubscribeMessage_inj.mp hhead
      · have hrelated := related_perform htwin buffer hop
        have halike := hrelated.eval table
        rw [hrelated.calls table, List.append_cancel_left_eq, halike.receiveBuffer] at hframes
        have hlow := ih halike.twin hframes (by rwa [unsubscribes_cons_other hop] at hops)
        rwa [halike.leftId, halike.rightId] at hlow

theorem eval_sendThen {server : ServerRef} {frame : List UInt8} {failed : Status → Returned}
    {next : Serve Returned} (hsend : table (.send server frame) = .ok) :
    (sendThen server frame failed next).eval table = next.eval table := by
  rw [sendThen, eval_bind, serverSend, eval_ask, hsend]
  rfl

theorem eval_awaitThen {server : ServerRef} {expected : Response → Bool} {null : Status}
    {finish : Status → Memory → Returned} {next : Memory → Serve Returned} {resp : Response}
    (hparse : table.packet server buffer = some resp) :
    (awaitThen server buffer expected null finish next).eval table
      = if expected resp then (next (buffer.patch (table (.receive server)).stored)).eval table
        else finish .unexpected (buffer.patch (table (.receive server)).stored) := by
  rw [ServerTable.packet] at hparse
  rw [awaitThen, eval_bind, serverReceive, eval_ask]
  dsimp only
  rw [hparse]
  exact eval_ite _ _ _ _

/-- An unsubscribe that is answered by an UNSUBACK. -/
theorem eval_unsubscribe (hconnected : left.connected = true) (topics : List CString) (low : UInt8) :
    (smqttUnsubscribe left buffer topics).eval (unsubacks low)
      = finish { left with unsubscribePacketId := left.unsubscribePacketId + 1 }
        (if left.unsubscribePacketId + 1 = low.toUInt16 then .ok else .unexpected)
        (buffer.patch fun index => [0xB0, 2, 0, low][index]?) := by
  have hacknowledges : (Response.unsuback low.toUInt16).acknowledges .unsuback
      (left.unsubscribePacketId + 1) = decide (left.unsubscribePacketId + 1 = low.toUInt16) := by
    simp [Response.acknowledges, Response.type, Response.packetId, eq_comm]
  rw [smqttUnsubscribe, if_pos hconnected]
  dsimp only
  rw [eval_sendThen rfl, eval_awaitThen (packet_unsubacks low _ buffer), hacknowledges]
  by_cases hid : left.unsubscribePacketId + 1 = low.toUInt16
  · rw [if_pos hid, if_pos (decide_eq_true hid)]
    rfl
  · rw [if_neg hid, if_neg (by simpa using hid)]
    rfl

/-- An unsubscribe that is acknowledged tells whether the id acknowledged is its own. -/
theorem id_iff_of_statuses (htwin : Twin left right) {low : UInt8}
    (hstatuses : ((performAll left buffer ops).eval (unsubacks low)).map Returned.status
      = ((performAll right buffer ops).eval (unsubacks low)).map Returned.status)
    {count : Nat} (hpos : 1 ≤ count) (hcount : count ≤ unsubscribes ops) :
    left.unsubscribePacketId + UInt16.ofNat count = low.toUInt16 ↔
      right.unsubscribePacketId + UInt16.ofNat count = low.toUInt16 := by
  induction ops generalizing left right buffer count with
  | nil => simp [unsubscribes] at hcount; omega
  | cons op ops ih =>
      simp only [performAll, eval_bind, eval_pure, List.map_cons, List.cons.injEq] at hstatuses
      obtain ⟨hhead, htail⟩ := hstatuses
      obtain ⟨topics, rfl⟩ | hop := unsubscribe_or op
      · rw [Operation.perform, Operation.perform, eval_unsubscribe htwin.connected,
          eval_unsubscribe htwin.right_connected] at hhead htail
        rw [unsubscribes_cons_unsubscribe] at hcount
        obtain rfl | hlater := Nat.eq_or_lt_of_le hpos
        · change (if left.unsubscribePacketId + 1 = low.toUInt16 then Status.ok else .unexpected)
            = (if right.unsubscribePacketId + 1 = low.toUInt16 then .ok else .unexpected) at hhead
          change left.unsubscribePacketId + 1 = low.toUInt16 ↔
            right.unsubscribePacketId + 1 = low.toUInt16
          split at hhead <;> split at hhead <;> simp_all
        · obtain ⟨earlier, rfl⟩ : ∃ earlier, count = earlier + 1 := ⟨count - 1, by omega⟩
          have hiff := ih htwin.next_unsubscribe htail (show 1 ≤ earlier by omega) (by omega)
          rwa [id_succ, id_succ] at hiff
      · have halike := (related_perform htwin buffer hop).eval (unsubacks low)
        rw [halike.receiveBuffer] at htail
        have hiff := ih halike.twin htail hpos (by rwa [unsubscribes_cons_other hop] at hcount)
        rwa [halike.leftId, halike.rightId] at hiff

theorem exit_failed {greeting : Greeting} {calls : List ServerCall} {leaving : Greeting.Leaving}
    (hexit : greeting.Exit table buffer calls leaving) (hconnect : table greeting.connect ≠ .ok) :
    leaving = .failed := by
  cases hexit with
  | notConnected => rfl
  | notSent hok => exact absurd hok hconnect
  | nothing hok => exact absurd hok hconnect
  | unparsable hanswered => exact absurd hanswered.connected hconnect
  | refused hanswered => exact absurd hanswered.connected hconnect
  | welcomed hanswered => exact absurd hanswered.connected hconnect

theorem exit_welcomed {greeting : Greeting} {calls : List ServerCall} {leaving : Greeting.Leaving}
    {resp : Response} (hexit : greeting.Exit table buffer calls leaving)
    (hanswered : greeting.Answered table buffer (some resp)) (hresp : resp.type ≠ .connack) :
    leaving = .welcomed := by
  cases hexit with
  | notConnected hconnect => exact absurd hanswered.connected hconnect
  | notSent _ hsend => exact absurd hanswered.sent hsend
  | nothing _ _ hsize => exact absurd hanswered.size hsize
  | unparsable hnone => cases hnone.packet.symm.trans hanswered.packet
  | refused hconnack =>
      obtain rfl := Option.some.inj (hconnack.packet.symm.trans hanswered.packet)
      exact absurd rfl hresp
  | welcomed => rfl

variable {args : ConnectArgs} {memory memory' : SmqttClient}

/-- What a connect comes to, by how its greeting ends. -/
theorem eval_connect (hfits : args.Fits) (memory : SmqttClient) (buffer : Memory)
    (table : ServerTable) : ∃ calls leaving received,
    (smqttConnectInternal args (some memory) buffer).eval table
        = leaveConnect (initialise args memory (args.server table memory.server)) leaving received ∧
      (args.greeting (args.server table memory.server) 30000).Exit table buffer calls leaving := by
  obtain ⟨calls, leaving, received, hgreet, hexit⟩ :=
    (args.greeting (args.server table memory.server) 30000).greet_exit table buffer
      (leaveConnect (initialise args memory (args.server table memory.server)))
  refine ⟨calls, leaving, received, ?_, hexit⟩
  rw [smqttConnectInternal_eq]
  exact ((makeServer_takes memory.server).bind (takes_if_neg (not_long hfits) hgreet)).eval

theorem eval_connectAndPerform {status : Status} {client : SmqttClient} {received : Memory}
    (hconnect : (smqttConnectInternal args (some memory) buffer).eval table
      = ⟨status, .set client, received⟩) :
    (connectAndPerform args memory buffer ops).eval table
      = status :: ((performAll client received ops).eval table).map Returned.status ∧
    (connectAndPerform args memory buffer ops).calls table
      = (smqttConnectInternal args (some memory) buffer).calls table
        ++ (performAll client received ops).calls table := by
  constructor
  · rw [connectAndPerform, eval_bind, hconnect]
    simp
  · rw [connectAndPerform, calls_bind, hconnect]
    simp

end Distinct

/-- Whatever the broker answers, the same frames are sent and the same statuses returned. -/
def SameRuns (args : ConnectArgs) (ops : List Operation) (buffer : Memory)
    (memory memory' : SmqttClient) : Prop :=
  ∀ broker : Broker,
    let out := (connectAndPerform args memory buffer ops).run (respond broker) []
    let out' := (connectAndPerform args memory' buffer ops).run (respond broker) []
    out.1 = out'.1 ∧ sentFrames out.2 = sentFrames out'.2

section SameRuns

variable {args : ConnectArgs} {memory memory' : SmqttClient} {buffer : Memory}
  {ops : List Operation}

theorem SameRuns.table (hsame : SameRuns args ops buffer memory memory') (table : ServerTable) :
    (connectAndPerform args memory buffer ops).eval table
        = (connectAndPerform args memory' buffer ops).eval table ∧
      sentFrames ((connectAndPerform args memory buffer ops).calls table)
        = sentFrames ((connectAndPerform args memory' buffer ops).calls table) := by
  have htable := hsame fun _ => table
  simp only [run_respond_table, List.nil_append] at htable
  exact htable

/-- A broker that only the server of the first memory leads to. -/
theorem SameRuns.server_eq (hsame : SameRuns args ops buffer memory memory') (hfits : args.Fits)
    (hmode : args.mode ≠ .remoteServer) : memory.server = memory'.server := by
  by_contra hne
  let table : ServerTable
    | .createNetworkServer => (0 : Nat)
    | .connect server _ _ _ => if server = memory.server then .ok else .socket
    | .send _ _ => .ok
    | .receive _ => unsubacks 0 (.receive 0)
    | .disconnect _ => .ok
  obtain ⟨calls, leaving, received, heval, hexit⟩ := eval_connect hfits memory buffer table
  obtain ⟨calls', leaving', received', heval', hexit'⟩ := eval_connect hfits memory' buffer table
  have hserver (otherwise : ServerRef) : args.server table otherwise = otherwise := if_neg hmode
  rw [hserver] at heval hexit heval' hexit'
  have hanswered : (args.greeting memory.server 30000).Answered table buffer
      (some (.unsuback (0 : UInt8).toUInt16)) :=
    ⟨if_pos rfl, rfl, show (0 : Int) < 4 by decide, packet_unsubacks 0 memory.server buffer⟩
  have hfailed : table (args.greeting memory'.server 30000).connect ≠ .ok := by
    have hsocket : table (args.greeting memory'.server 30000).connect = .socket :=
      if_neg (Ne.symm hne)
    exact fun hok => nomatch hsocket.symm.trans hok
  obtain rfl := exit_welcomed hexit hanswered (by simp [Response.type])
  obtain rfl := exit_failed hexit' hfailed
  have hstatuses := (hsame.table table).1
  rw [(eval_connectAndPerform heval).1, connectAndPerform, eval_bind, heval'] at hstatuses
  cases hstatuses

/-- Both connect to a broker that sends nothing but UNSUBACKs, and are twins then. -/
theorem connect_unsubacks (hfits : args.Fits)
    (hserver : args.mode = .remoteServer ∨ memory.server = memory'.server) (buffer : Memory)
    (low : UInt8) :
    ∃ left right received,
      (smqttConnectInternal args (some memory) buffer).eval (unsubacks low)
        = ⟨.ok, .set left, received⟩ ∧
      (smqttConnectInternal args (some memory') buffer).eval (unsubacks low)
        = ⟨.ok, .set right, received⟩ ∧
      Twin left right ∧ left.unsubscribePacketId = memory.unsubscribePacketId ∧
      right.unsubscribePacketId = memory'.unsubscribePacketId := by
  obtain ⟨calls, leaving, received, heval, hexit⟩ := eval_connect hfits memory buffer (unsubacks low)
  have hanswered : (args.greeting (args.server (unsubacks low) memory.server) 30000).Answered
      (unsubacks low) buffer (some (.unsuback low.toUInt16)) :=
    ⟨rfl, rfl, show (0 : Int) < 4 by decide, packet_unsubacks low _ buffer⟩
  obtain rfl := exit_welcomed hexit hanswered (by simp [Response.type])
  have halike : ConnectedAlike memory memory'
      ((smqttConnectInternal args (some memory) buffer).eval (unsubacks low))
      ((smqttConnectInternal args (some memory') buffer).eval (unsubacks low)) :=
    (related_connect hfits hserver).eval (unsubacks low)
  rw [heval] at halike
  generalize (smqttConnectInternal args (some memory') buffer).eval (unsubacks low) = out at halike ⊢
  cases halike with
  | set _ _ htwin hleft hright => exact ⟨_, _, _, heval, rfl, htwin, hleft, hright⟩

/-- Ids with the same low byte are the same to a broker if one of one byte is equal to the other. -/
theorem sameId_of_low {leftId rightId : UInt16} {count : Nat}
    (hlow : (leftId + 1).toNat % 256 = (rightId + 1).toNat % 256)
    (hiff : leftId + UInt16.ofNat count
          = (UInt8.ofNat (leftId + UInt16.ofNat count).toNat).toUInt16 ↔
        rightId + UInt16.ofNat count
          = (UInt8.ofNat (leftId + UInt16.ofNat count).toNat).toUInt16) :
    SameId (leftId + UInt16.ofNat count) (rightId + UInt16.ofNat count) := by
  have hsum : (leftId + UInt16.ofNat count).toNat % 256
      = (rightId + UInt16.ofNat count).toNat % 256 := by
    simp only [UInt16.toNat_add, UInt16.toNat_ofNat', UInt16.toNat_one] at hlow ⊢
    omega
  simp only [← UInt16.toNat_inj, UInt8.toNat_toUInt16, UInt8.toNat_ofNat'] at hiff
  rw [SameId, ← UInt16.toNat_inj]
  omega

theorem SameRuns.sameId (hsame : SameRuns args ops buffer memory memory') (hfits : args.Fits)
    (hserver : args.mode = .remoteServer ∨ memory.server = memory'.server) {count : Nat}
    (hpos : 1 ≤ count) (hcount : count ≤ unsubscribes ops) :
    SameId (memory.unsubscribePacketId + UInt16.ofNat count)
      (memory'.unsubscribePacketId + UInt16.ofNat count) := by
  let low := UInt8.ofNat (memory.unsubscribePacketId + UInt16.ofNat count).toNat
  obtain ⟨left, right, received, heval, heval', htwin, hleft, hright⟩ :=
    connect_unsubacks hfits hserver buffer low
  obtain ⟨hstatuses, hframes⟩ := hsame.table (unsubacks low)
  rw [(eval_connectAndPerform heval).1, (eval_connectAndPerform heval').1, List.cons.injEq,
    and_iff_right rfl] at hstatuses
  have hcalls : (smqttConnectInternal args (some memory) buffer).calls (unsubacks low)
      = (smqttConnectInternal args (some memory') buffer).calls (unsubacks low) :=
    (related_connect hfits hserver).calls (unsubacks low)
  rw [(eval_connectAndPerform heval).2, (eval_connectAndPerform heval').2, hcalls,
    sentFrames_append, sentFrames_append, List.append_cancel_left_eq] at hframes
  have hlow := low_eq_of_frames htwin hframes (by omega)
  have hiff := id_iff_of_statuses htwin hstatuses hpos hcount
  rw [hleft, hright] at hlow hiff
  exact sameId_of_low hlow hiff

end SameRuns

/-- **Independence from uninitialised memory.** Two contents of the memory for a client give the same
frames and statuses, whatever the broker answers, exactly if the ids they hold for unsubscribes cannot
be told apart. -/
theorem same_runs_iff (args : ConnectArgs) (memory memory' : SmqttClient) (buffer : Memory)
    (ops : List Operation) :
    SameRuns args ops buffer memory memory' ↔ Indistinct args ops memory memory' := by
  constructor
  · intro hsame hfits
    have hserver : args.mode = .remoteServer ∨ memory.server = memory'.server :=
      or_iff_not_imp_left.mpr (hsame.server_eq hfits)
    exact ⟨hserver, fun count hpos hcount => hsame.sameId hfits hserver hpos hcount⟩
  · intro hindistinct broker
    have hrelated : Related Eq (connectAndPerform args memory buffer ops)
        (connectAndPerform args memory' buffer ops) := related_connectAndPerform hindistinct
    obtain ⟨hstatuses, hhistory⟩ := hrelated.run (respond broker) []
    exact ⟨hstatuses, congrArg sentFrames hhistory⟩

/-- With a broker that accepts, the first unsubscribe shows which number the memory held. -/
theorem unsubscribe_shows_memory : ∃ (args : ConnectArgs) (memory memory' : SmqttClient)
    (broker : Broker) (topic : CString),
    (sentFrames ((connectAndPerform args memory (fun _ => 0) [.unsubscribe [topic]]).run
      (respond broker) []).2).getLast? = some [0xA2, 5, 0, 1, 0, 1, 116] ∧
    (sentFrames ((connectAndPerform args memory' (fun _ => 0) [.unsubscribe [topic]]).run
      (respond broker) []).2).getLast? = some [0xA2, 5, 0, 2, 0, 1, 116] ∧
    ¬ SameRuns args [.unsubscribe [topic]] (fun _ => 0) memory memory' := by
  let args : ConnectArgs := ⟨.remoteServer, ⟨[104], by decide⟩, 1883, ⟨[99], by decide⟩, none, none,
    0, false, QoS0, false, none⟩
  let memory (packetId : UInt16) : SmqttClient := ⟨[], [], 0, false, 0, 0, packetId, 0⟩
  let topic : CString := ⟨[116], by decide⟩
  have hzero : (sentFrames ((connectAndPerform args (memory 0) (fun _ => 0)
      [.unsubscribe [topic]]).run (respond welcomingBroker) []).2).getLast?
        = some [0xA2, 5, 0, 1, 0, 1, 116] := by decide +kernel
  have hone : (sentFrames ((connectAndPerform args (memory 1) (fun _ => 0)
      [.unsubscribe [topic]]).run (respond welcomingBroker) []).2).getLast?
        = some [0xA2, 5, 0, 2, 0, 1, 116] := by decide +kernel
  refine ⟨args, memory 0, memory 1, welcomingBroker, topic, hzero, hone, fun hsame => ?_⟩
  rw [(hsame welcomingBroker).2, hone] at hzero
  exact absurd hzero (by decide)

end Smqtt
