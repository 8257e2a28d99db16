import Smqtt.Proof.ConnectFrame
import Smqtt.Proof.SameFrames

/-!
# What the CONNECT says of the caller's request

The keep-alive passes through a `uint8_t`, and every string length is sent as its low byte. A reader
that keeps to the standard gets the request exactly if neither needs the high byte.
-/

namespace Smqtt

open Interaction

/-! ### Reading what is sent -/

section Read

variable {α : Type} {rest : List UInt8}

/-- A string is read back if its length fits into a byte; if not, a shorter one is. -/
theorem readString_topicFrame (str : CString) (rest : List UInt8) :
    Wire.readString (topicFrame str rest)
      = some ((str.bytes ++ rest).take (strlen str % 256),
          (str.bytes ++ rest).drop (strlen str % 256)) := by
  have hsize : 256 * (0 : UInt8).toNat + (UInt8.ofNat (strlen str)).toNat = strlen str % 256 := by
    rw [UInt8.toNat_ofNat']
    simp
  have hle : strlen str % 256 ≤ (str.bytes ++ rest).length := by
    have hmod := Nat.mod_le (strlen str) 256
    rw [List.length_append]
    exact hmod.trans (Nat.le_add_right _ _)
  simp only [Wire.readString, topicFrame, Wire.readShort, Option.bind_eq_bind, Option.bind_some, hsize,
    if_pos hle]

theorem readString_bind_eq_some_iff {str : CString} {f : List UInt8 × List UInt8 → Option α}
    {value : α}
    (hshows : ∀ name after, f (name, after) = some value → name = str.bytes) :
    (Wire.readString (topicFrame str rest)).bind f = some value ↔
      strlen str < 256 ∧ f (str.bytes, rest) = some value := by
  rw [readString_topicFrame, Option.bind_some]
  by_cases hshort : strlen str < 256
  · have hlength : str.bytes.length = strlen str := rfl
    rw [Nat.mod_eq_of_lt hshort, List.take_left' hlength, List.drop_left' hlength]
    exact (and_iff_right hshort).symm
  · refine iff_of_false (fun hvalue => ?_) (fun hshort' => hshort hshort'.1)
    have hlength := congrArg List.length (hshows _ _ hvalue)
    rw [List.length_take] at hlength
    have hmod : strlen str % 256 < 256 := Nat.mod_lt _ (by decide)
    have hbytes : str.bytes.length = strlen str := rfl
    omega

theorem readOptional_bind_eq_some_iff {str : Option CString}
    {f : Option (List UInt8) × List UInt8 → Option α} {value : α}
    (hshows : ∀ name after, f (name, after) = some value → name = str.map CString.bytes) :
    (Wire.readOptional str.isSome (optionalFrame str ++ rest)).bind f = some value ↔
      (∀ present ∈ str, strlen present < 256) ∧ f (str.map CString.bytes, rest) = some value := by
  cases str with
  | none => simp [Wire.readOptional, optionalFrame]
  | some str =>
      have hread : (Wire.readString (topicFrame str rest)).bind
            (fun read => f (some read.1, read.2)) = some value ↔
          strlen str < 256 ∧ f (some str.bytes, rest) = some value :=
        readString_bind_eq_some_iff fun name after hvalue => Option.some.inj (hshows _ _ hvalue)
      simp only [optionalFrame, Option.elim_some, topicFrame_append, List.nil_append,
        Wire.readOptional, Option.isSome_some, if_true, Option.bind_map, Option.mem_def,
        Option.some.injEq, forall_eq', Option.map_some]
      exact hread

theorem ofCode_qosCode (qos : Wire.Qos) : Wire.Qos.ofCode qos.code = some qos := by
  cases qos <;> rfl

/-- The flag byte says what is there, and the QoS and the retain flag of the will. -/
theorem connectFlags_testBit (user pw : Option CString) (cleanSession : Bool) (willQos : QoS)
    (willRetain : Bool) (will : Option Will) :
    let flags := (connectFlags user pw cleanSession willQos willRetain will).toNat
    flags.testBit 7 = user.isSome ∧ flags.testBit 6 = pw.isSome ∧ flags.testBit 2 = will.isSome ∧
      flags.testBit 5 = willRetain ∧ flags.testBit 1 = cleanSession ∧
        flags / 8 % 4 = willQos.toNat % 4 := by
  have hmask : willQos.toNat &&& 0x03 = willQos.toNat % 4 := Nat.and_two_pow_sub_one_eq_mod _ 2
  have hlt : willQos.toNat % 4 < 4 := Nat.mod_lt _ (by decide)
  simp only [connectFlags, packConnectFlags, hmask]
  generalize willQos.toNat % 4 = qos at hlt
  generalize user.isSome = hasUser
  generalize pw.isSome = hasPw
  generalize will.isSome = hasWill
  interval_cases qos <;> cases hasUser <;> cases hasPw <;> cases hasWill <;> cases willRetain <;>
    cases cleanSession <;> decide

/-- A will, as the wire has it. -/
def testamentOf (qos : Wire.Qos) (retain : Bool) (will : Will) : Wire.Testament :=
  ⟨qos, retain, will.topic.bytes, will.message.bytes⟩

theorem readWill_bind_eq_some_iff {will : Option Will} {flags : UInt8} {qos : Wire.Qos}
    {retain : Bool} {f : Option Wire.Testament × List UInt8 → Option α} {value : α}
    (hflag : flags.toNat.testBit 2 = will.isSome) (hretain : flags.toNat.testBit 5 = retain)
    (hqos : will.isSome → flags.toNat / 8 % 4 = qos.code)
    (hshows : ∀ testament after, f (testament, after) = some value →
      testament = will.map (testamentOf qos retain)) :
    (Wire.readWill flags (willFrame will ++ rest)).bind f = some value ↔
      (∀ str ∈ will.map Will.topic, strlen str < 256) ∧
        (∀ str ∈ will.map Will.message, strlen str < 256) ∧
          f (will.map (testamentOf qos retain), rest) = some value := by
  cases will with
  | none => simp [Wire.readWill, hflag, willFrame, optionalFrame]
  | some will =>
      have hcode : Wire.Qos.ofCode (flags.toNat / 8 % 4) = some qos := by
        rw [hqos rfl, ofCode_qosCode]
      have hframe : willFrame (some will) ++ rest
          = topicFrame will.topic (topicFrame will.message rest) := by
        simp [willFrame, optionalFrame, topicFrame_append]
      have hmessage : (Wire.readString (topicFrame will.message rest)).bind
          (fun read => f (some ⟨qos, retain, will.topic.bytes, read.1⟩, read.2)) = some value ↔
            strlen will.message < 256 ∧
              f (some (testamentOf qos retain will), rest) = some value :=
        readString_bind_eq_some_iff fun name after hvalue => by
          have hsame := Option.some.inj (hshows _ _ hvalue)
          exact congrArg Wire.Testament.message hsame
      have htopic : (Wire.readString (topicFrame will.topic (topicFrame will.message rest))).bind
          (fun read => (Wire.readString read.2).bind
            fun read' => f (some ⟨qos, retain, read.1, read'.1⟩, read'.2)) = some value ↔
          strlen will.topic < 256 ∧ (Wire.readString (topicFrame will.message rest)).bind
            (fun read => f (some ⟨qos, retain, will.topic.bytes, read.1⟩, read.2)) = some value :=
        readString_bind_eq_some_iff fun name after hvalue => by
          obtain ⟨read, -, hvalue⟩ := Option.bind_eq_some_iff.mp hvalue
          have hsame := Option.some.inj (hshows _ _ hvalue)
          exact congrArg Wire.Testament.topic hsame
      rw [hmessage] at htopic
      rw [hframe]
      simp only [Wire.readWill, hflag, hretain, hcode, Option.isSome_some, if_true,
        Option.bind_eq_bind, Option.bind_some, Option.bind_assoc, Option.map_some, Option.mem_def,
        Option.some.injEq, forall_eq']
      exact htopic

end Read

/-! ### The request -/

/-- What the caller of a connect function asks for. -/
def ConnectArgs.request (args : ConnectArgs) (willQos : Wire.Qos) : Wire.Connect where
  clientId := args.clientId.bytes
  keepAlive := args.keepAliveSec
  cleanSession := args.cleanSession
  will := args.will.map (testamentOf willQos args.willRetain)
  user := args.user.map CString.bytes
  password := args.pw.map CString.bytes

/-- The strings that go into the CONNECT. -/
def ConnectArgs.strings (args : ConnectArgs) : List CString :=
  connectStrings args.clientId args.user args.pw args.will

theorem readConnectPayload_eq_some_iff (args : ConnectArgs) {willQos : Wire.Qos} {keepAlive : Nat}
    (hwillQos : args.will.isSome → args.willQos = UInt32.ofNat willQos.code) :
    Wire.readConnectPayload
        (connectFlags args.user args.pw args.cleanSession args.willQos args.willRetain args.will)
        keepAlive
        (topicFrame args.clientId [] ++
          (willFrame args.will ++ (optionalFrame args.user ++ optionalFrame args.pw)))
        = some (args.request willQos) ↔
      UInt16.ofNat keepAlive = args.keepAliveSec ∧ ∀ str ∈ args.strings, strlen str < 256 := by
  obtain ⟨huser, hpw, hwill, hretain, hclean, hqos⟩ := connectFlags_testBit args.user args.pw
    args.cleanSession args.willQos args.willRetain args.will
  generalize hflags : connectFlags args.user args.pw args.cleanSession args.willQos args.willRetain
    args.will = flags at huser hpw hwill hretain hclean hqos ⊢
  have hcode : args.will.isSome → flags.toNat / 8 % 4 = willQos.code := fun hpresent => by
    rw [hqos, hwillQos hpresent]
    cases willQos <;> rfl
  rw [topicFrame_append, List.nil_append, ← List.append_nil (optionalFrame args.pw),
    Wire.readConnectPayload, huser, hpw]
  simp only [Option.bind_eq_bind]
  rw [readString_bind_eq_some_iff, readWill_bind_eq_some_iff hwill hretain hcode,
    readOptional_bind_eq_some_iff, readOptional_bind_eq_some_iff]
  · rw [ConnectArgs.strings, forall_mem_connectStrings]
    simp only [if_true, Option.some.injEq, ConnectArgs.request, Wire.Connect.mk.injEq, hclean, true_and,
      and_true]
    tauto
  -- each part that is read shows in the result
  all_goals
    intro name after hvalue
    simp only [Option.bind_eq_some_iff] at hvalue
  · split at hvalue
    · exact congrArg Wire.Connect.password (Option.some.inj hvalue)
    · cases hvalue
  · obtain ⟨_, -, hvalue⟩ := hvalue
    split at hvalue
    · exact congrArg Wire.Connect.user (Option.some.inj hvalue)
    · cases hvalue
  · obtain ⟨_, -, _, -, hvalue⟩ := hvalue
    split at hvalue
    · exact congrArg Wire.Connect.will (Option.some.inj hvalue)
    · cases hvalue
  · obtain ⟨_, -, _, -, _, -, hvalue⟩ := hvalue
    split at hvalue
    · exact congrArg Wire.Connect.clientId (Option.some.inj hvalue)
    · cases hvalue

theorem readConnect_cons {body : List UInt8} (hbody : body.length < Wire.lengthLimit) :
    Wire.readConnect (0x10 :: (Base128.encode 4 body.length ++ body)) = Wire.readConnectBody body := by
  have hdecode := Base128.decode_encode_append body (show body.length < 128 ^ (3 + 1) from hbody)
  simp only [Nat.reduceAdd] at hdecode
  simp [Wire.readConnect, hdecode]

/-- The keep-alive is passed as a `uint8_t`. -/
theorem args_frame_eq (args : ConnectArgs) :
    args.frame args.clientId = 0x10 :: ((encodeSize (connectBody args.clientId args.user args.pw
        (UInt8.ofNat args.keepAliveSec.toNat) args.cleanSession args.willQos args.willRetain
        args.will).length).2
      ++ connectBody args.clientId args.user args.pw (UInt8.ofNat args.keepAliveSec.toNat)
        args.cleanSession args.willQos args.willRetain args.will) :=
  makeConnectMessage_eq _ _ _ _ _ _ _ _

theorem readConnect_frame_eq_some_iff (args : ConnectArgs) {willQos : Wire.Qos}
    (hwillQos : args.will.isSome → args.willQos = UInt32.ofNat willQos.code)
    (hstrings : ∀ str ∈ args.strings, strlen str ≤ 65535) :
    Wire.readConnect (args.frame args.clientId) = some (args.request willQos) ↔
      args.keepAliveSec.toNat < 256 ∧ ∀ str ∈ args.strings, strlen str < 256 := by
  have hlimit : (connectBody args.clientId args.user args.pw (UInt8.ofNat args.keepAliveSec.toNat)
      args.cleanSession args.willQos args.willRetain args.will).length < Wire.lengthLimit :=
    (length_connectBody_le hstrings _ _ _ _).trans_lt (by decide)
  have hkeepAlive : UInt16.ofNat (256 * (0 : UInt8).toNat
      + (UInt8.ofNat args.keepAliveSec.toNat).toNat) = args.keepAliveSec ↔
        args.keepAliveSec.toNat < 256 := by
    rw [← UInt16.toNat_inj, UInt16.toNat_ofNat', UInt8.toNat_ofNat', UInt8.toNat_zero]
    omega
  have hbody : Wire.readConnectBody (connectBody args.clientId args.user args.pw
      (UInt8.ofNat args.keepAliveSec.toNat) args.cleanSession args.willQos args.willRetain args.will)
        = some (args.request willQos) ↔
      args.keepAliveSec.toNat < 256 ∧ ∀ str ∈ args.strings, strlen str < 256 := by
    rw [← hkeepAlive, ← readConnectPayload_eq_some_iff args hwillQos, connectBody, topicFrame_append,
      Wire.readConnectBody, readString_topicFrame]
    have hname : strlen protocolName % 256 = protocolName.bytes.length := rfl
    rw [hname, List.take_left, List.drop_left]
    rfl
  rw [args_frame_eq, encodeSize_snd hlimit, readConnect_cons hlimit, hbody]

/-! ### The frame that is sent -/

/-- A frame that a connect function of either client passes to `server_send`, whatever the server
answers. -/
inductive SendsConnect (args : ConnectArgs) (frame : List UInt8) : Prop
  | single (memory : Option SmqttClient) (buffer : Memory) (broker : Broker)
      (hsent : frame ∈ sentFrames
        ((smqttConnectInternal args memory buffer).run (respond broker) []).2)
  | mt (msgCallback : Callback) (msgCbContext : Nat) (memory : Option Client) (buffer : Memory)
      (broker : Broker)
      (hsent : frame ∈ sentFrames ((smqttMtConnectInternal args msgCallback msgCbContext memory
        buffer).run (respond broker) []).2)

theorem SendsConnect.fits_and_eq {args : ConnectArgs} {frame : List UInt8}
    (hsends : SendsConnect args frame) : args.Fits ∧ frame = args.frame args.clientId := by
  cases hsends with
  | single memory buffer broker hsent =>
      cases memory with
      | none => cases hsent
      | some memory =>
          generalize hout : (smqttConnectInternal args (some memory) buffer).run (respond broker) []
            = out at hsent
          exact (run_connect (smqttConnectInternal_eq args memory buffer) hout).2 frame hsent
  | mt msgCallback msgCbContext memory buffer broker hsent =>
      cases memory with
      | none => cases hsent
      | some memory =>
          generalize hout : (smqttMtConnectInternal args msgCallback msgCbContext (some memory)
            buffer).run (respond broker) [] = out at hsent
          exact (run_connect (smqttMtConnectInternal_eq args msgCallback msgCbContext memory buffer)
            hout).2 frame hsent

/-- **The CONNECT says what the caller asked for.** A reader of the frame that keeps to the standard
gets the caller's values exactly if the keep-alive and every length fit into one byte. -/
theorem connect_carries_request_iff (args : ConnectArgs) (willQos : Wire.Qos) (frame : List UInt8)
    (hsends : SendsConnect args frame)
    (hwillQos : args.will.isSome → args.willQos = UInt32.ofNat willQos.code)
    (hstrings : ∀ str ∈ args.strings, strlen str ≤ 65535) :
    Wire.readConnect frame = some (args.request willQos) ↔
      args.keepAliveSec.toNat < 256 ∧ ∀ str ∈ args.strings, strlen str < 256 := by
  rw [hsends.fits_and_eq.2]
  exact readConnect_frame_eq_some_iff args hwillQos hstrings

theorem noNul_topic : (0 : UInt8) ∉ [116] := by decide

/-- A client with a user, and with a will that is to be retained. -/
def requestArgs (keepAliveSec : UInt16) : ConnectArgs where
  mode := .remoteServer
  serverIp := ⟨[104], by decide⟩
  port := 1883
  clientId := ⟨[99], by decide⟩
  user := some ⟨[117], by decide⟩
  pw := none
  keepAliveSec
  cleanSession := true
  willQos := QoS1
  willRetain := true
  will := some ⟨⟨[116], noNul_topic⟩, ⟨[109], by decide⟩⟩

theorem sendsConnect_requestArgs (keepAliveSec : UInt16) :
    SendsConnect (requestArgs keepAliveSec) ((requestArgs keepAliveSec).frame ⟨[99], by decide⟩) :=
  .mt none 0 (some System.zeroClient) (fun _ => 0) silentBroker List.mem_cons_self

theorem connect_carries_request_thirty :
    Wire.readConnect ((requestArgs 30).frame ⟨[99], by decide⟩)
      = some ((requestArgs 30).request .atLeastOnce) :=
  (connect_carries_request_iff (requestArgs 30) .atLeastOnce _ (sendsConnect_requestArgs 30)
    (fun _ => rfl) (by decide)).mpr ⟨by decide, by decide⟩

/-- A keep-alive of 300 seconds is announced as one of 44. -/
theorem keep_alive_not_carried : ¬ ∀ (args : ConnectArgs) (willQos : Wire.Qos) (frame : List UInt8),
    SendsConnect args frame → strlen args.clientId ≤ 23 →
      (args.will.isSome → args.willQos = UInt32.ofNat willQos.code) →
        (∀ str ∈ args.strings, strlen str ≤ 65535) →
          Wire.readConnect frame = some (args.request willQos) := by
  intro hcarries
  have hread := hcarries (requestArgs 300) .atLeastOnce _ (sendsConnect_requestArgs 300) (by decide)
    (fun _ => rfl) (by decide)
  revert hread
  decide

end Smqtt
