import Smqtt.Proof.RoundTrip

/-!
# The CONNECT frame

Three optional sections follow the client id, and what stands where follows from the lengths in front.
The parser finds its way through the sections exactly if every length fits into the one byte that is
sent and read of it.
-/

namespace Smqtt

/-- A call of `make_connect_message`. -/
structure ConnectCall where
  clientId : CString
  user : Option CString
  pw : Option CString
  keepAliveSec : UInt8
  cleanSession : Bool
  willQos : Wire.Qos
  willRetain : Bool
  will : Option Will

/-- The strings that are present. -/
def connectStrings (clientId : CString) (user pw : Option CString) (will : Option Will) :
    List CString :=
  clientId :: ((will.map Will.topic).toList ++ (will.map Will.message).toList
    ++ user.toList ++ pw.toList)

theorem forall_mem_connectStrings {p : CString → Prop} {clientId : CString} {user pw : Option CString}
    {will : Option Will} :
    (∀ str ∈ connectStrings clientId user pw will, p str) ↔
      p clientId ∧ (∀ str ∈ will.map Will.topic, p str) ∧
        (∀ str ∈ will.map Will.message, p str) ∧ (∀ str ∈ user, p str) ∧ ∀ str ∈ pw, p str := by
  simp only [connectStrings, List.forall_mem_cons, List.forall_mem_append, Option.mem_toList,
    Option.mem_def, and_assoc]

namespace ConnectCall

/-- The bytes the encoder produces. -/
def frame (call : ConnectCall) : List UInt8 :=
  makeConnectMessage call.clientId call.user call.pw call.keepAliveSec call.cleanSession
    (UInt32.ofNat call.willQos.code) call.willRetain call.will

def strings (call : ConnectCall) : List CString :=
  connectStrings call.clientId call.user call.pw call.will

end ConnectCall

/-! ### The frame, written out -/

def optionalFrame (str : Option CString) : List UInt8 :=
  str.elim [] fun str => topicFrame str []

def willFrame (will : Option Will) : List UInt8 :=
  optionalFrame (will.map Will.topic) ++ optionalFrame (will.map Will.message)

/-- The flag byte. -/
def connectFlags (user pw : Option CString) (cleanSession : Bool) (willQos : QoS) (willRetain : Bool)
    (will : Option Will) : UInt8 :=
  UInt8.ofNat (packConnectFlags user.isSome pw.isSome will.isSome willQos willRetain cleanSession)

def connectBody (clientId : CString) (user pw : Option CString) (keepAliveSec : UInt8)
    (cleanSession : Bool) (willQos : QoS) (willRetain : Bool) (will : Option Will) : List UInt8 :=
  topicFrame protocolName
      [3, connectFlags user pw cleanSession willQos willRetain will, 0, keepAliveSec]
    ++ (topicFrame clientId [] ++ (willFrame will ++ (optionalFrame user ++ optionalFrame pw)))

@[simp]
theorem length_optionalFrame (str : Option CString) :
    (optionalFrame str).length = optionalLen str := by
  cases str with
  | none => rfl
  | some str => simp [optionalFrame, optionalLen]

@[simp]
theorem length_willFrame (will : Option Will) : (willFrame will).length = willLen will := by
  cases will with
  | none => rfl
  | some will => simp [willFrame, optionalLen, willLen]; omega

theorem written_serOptional (cursor : Cursor) (str : Option CString) :
    (serOptional cursor str).written = cursor.written ++ optionalFrame str := by
  cases str with
  | none => simp [serOptional, optionalFrame]
  | some str => simp [serOptional, optionalFrame, topicFrame]

theorem written_serWill (cursor : Cursor) (will : Option Will) :
    (serWill cursor will).written = cursor.written ++ willFrame will := by
  cases will with
  | none => simp [serWill, willFrame, optionalFrame]
  | some will => simp [serWill, willFrame, optionalFrame, topicFrame]

theorem length_connectBody (clientId : CString) (user pw : Option CString) (keepAliveSec : UInt8)
    (cleanSession : Bool) (willQos : QoS) (willRetain : Bool) (will : Option Will) :
    (connectBody clientId user pw keepAliveSec cleanSession willQos willRetain will).length
      = 8 + strlen protocolName + strlen clientId + willLen will + optionalLen user
        + optionalLen pw := by
  simp [connectBody]
  omega

/-- The length that is announced is that of the body, in a `size_t`. -/
theorem makeConnectMessage_eq (clientId : CString) (user pw : Option CString) (keepAliveSec : UInt8)
    (cleanSession : Bool) (willQos : QoS) (willRetain : Bool) (will : Option Will) :
    makeConnectMessage clientId user pw keepAliveSec cleanSession willQos willRetain will
      = 0x10 :: ((encodeSize (connectBody clientId user pw keepAliveSec cleanSession willQos
          willRetain will).length).2
        ++ connectBody clientId user pw keepAliveSec cleanSession willQos willRetain will) := by
  rw [length_connectBody]
  simp only [makeConnectMessage, written_serOptional, written_serWill, written_serString,
    written_serShort, written_serByte, serLen, written_cursorInit]
  simp [connectBody, connectFlags, topicFrame, protocolLevel, packMessageType, MessageType.code]

theorem optionalLen_le {bound : Nat} {str : Option CString}
    (hbound : ∀ present ∈ str, strlen present ≤ bound) : optionalLen str ≤ 2 + bound := by
  cases str with
  | none => exact Nat.zero_le _
  | some str => exact Nat.add_le_add_left (hbound str rfl) 2

theorem length_connectBody_le {bound : Nat} {clientId : CString} {user pw : Option CString}
    {will : Option Will} (hbound : ∀ str ∈ connectStrings clientId user pw will, strlen str ≤ bound)
    (keepAliveSec : UInt8) (cleanSession : Bool) (willQos : QoS) (willRetain : Bool) :
    (connectBody clientId user pw keepAliveSec cleanSession willQos willRetain will).length
      ≤ 22 + 5 * bound := by
  obtain ⟨hclientId, htopic, hmessage, huser, hpw⟩ := forall_mem_connectStrings.mp hbound
  have hwill : willLen will = optionalLen (will.map Will.topic)
      + optionalLen (will.map Will.message) := by
    cases will with
    | none => rfl
    | some will => simp [willLen, optionalLen, Nat.add_assoc]
  have htopic := optionalLen_le htopic
  have hmessage := optionalLen_le hmessage
  have huser := optionalLen_le huser
  have hpw := optionalLen_le hpw
  have hprotocol : strlen protocolName = 6 := rfl
  rw [length_connectBody, hwill, hprotocol]
  omega

namespace ConnectCall

def body (call : ConnectCall) : List UInt8 :=
  connectBody call.clientId call.user call.pw call.keepAliveSec call.cleanSession
    (UInt32.ofNat call.willQos.code) call.willRetain call.will

theorem frame_eq (call : ConnectCall) :
    call.frame = 0x10 :: ((encodeSize call.body.length).2 ++ call.body) :=
  makeConnectMessage_eq _ _ _ _ _ _ _ _

end ConnectCall

/-! ### Reading it back -/

section Parse

variable {memory : Memory} {offset : Nat}

theorem eval_parseString_topicFrame {str : CString} {last : List UInt8} (hshort : strlen str < 256)
    (hholds : memory.Holds offset (topicFrame str last)) :
    ((parseString offset).eval memory).bytes memory = str.bytes ∧
      ((parseString offset).eval memory).size.toNat = strlen str ∧
      memory.Holds (offset + 2 + strlen str) last := by
  rw [topicFrame, Memory.holds_cons, Memory.holds_cons, Memory.holds_append] at hholds
  obtain ⟨-, hlow, hbytes, hlast⟩ := hholds
  have hsize : (memory (offset + 1)).toUInt16.toNat = strlen str := by
    rw [hlow, UInt8.toNat_toUInt16, UInt8.toNat_ofNat']
    exact Nat.mod_eq_of_lt hshort
  rw [eval_parseString]
  refine ⟨?_, hsize, hlast⟩
  rw [Slice.bytes, hsize]
  exact hbytes.slice_eq

theorem eval_parseOptional {str : Option CString} {rest : List UInt8}
    (hshort : ∀ present ∈ str, strlen present < 256)
    (hholds : memory.Holds offset (optionalFrame str ++ rest)) :
    ∃ slice, (parseOptional str.isSome offset).eval memory = (slice, offset + optionalLen str) ∧
      slice.map (Slice.bytes · memory) = str.map CString.bytes ∧
      memory.Holds (offset + optionalLen str) rest := by
  rw [Memory.holds_append, length_optionalFrame] at hholds
  cases str with
  | none => exact ⟨none, rfl, rfl, hholds.2⟩
  | some str =>
      obtain ⟨hbytes, hsize, -⟩ := eval_parseString_topicFrame (hshort str rfl) hholds.1
      refine ⟨some ((parseString offset).eval memory), ?_, congrArg some hbytes, hholds.2⟩
      simp only [parseOptional, Option.isSome_some, if_true, Interaction.eval_bind,
        Interaction.eval_pure, hsize, optionalLen, Nat.add_assoc]

/-- A string that is parsed is shorter than 256 bytes, whatever stands in memory. -/
theorem strlen_lt_of_parseString {str : CString}
    (hbytes : ((parseString offset).eval memory).bytes memory = str.bytes) : strlen str < 256 := by
  have hlength := congrArg List.length hbytes
  rw [Slice.bytes, Memory.length_slice, eval_parseString] at hlength
  calc strlen str = (memory (offset + 1)).toUInt16.toNat := hlength.symm
    _ < 256 := toUInt16_lt _

theorem strlen_lt_of_parseOptional {present : Bool} {str : Option CString}
    (hbytes : ((parseOptional present offset).eval memory).1.map (Slice.bytes · memory)
      = str.map CString.bytes) : ∀ found ∈ str, strlen found < 256 := by
  rintro found ⟨⟩
  cases present with
  | false => simp [parseOptional] at hbytes
  | true =>
      simp only [parseOptional, if_true, Interaction.eval_bind, Interaction.eval_pure,
        Option.map_some, Option.some.injEq] at hbytes
      exact strlen_lt_of_parseString hbytes

end Parse

/-- The parsed packet is the one that was asked for, every string in its own field. -/
structure ConnectData.Carries (memory : Memory) (call : ConnectCall) (data : ConnectData) : Prop where
  name : data.name.bytes memory = protocolName.bytes
  version : data.version = 3
  hasUser : data.hasUser = call.user.isSome
  hasPw : data.hasPw = call.pw.isSome
  hasWill : data.hasWill = call.will.isSome
  willQos : data.willQos = UInt32.ofNat call.willQos.code
  willRetain : data.willRetain = call.willRetain
  hasClean : data.hasClean = call.cleanSession
  keepAlive : data.keepAlive = call.keepAliveSec.toUInt16
  clientId : data.clientId.bytes memory = call.clientId.bytes
  willTopic : data.willTopic.map (Slice.bytes · memory)
    = (call.will.map Will.topic).map CString.bytes
  willMessage : data.willMessage.map (Slice.bytes · memory)
    = (call.will.map Will.message).map CString.bytes
  user : data.user.map (Slice.bytes · memory) = call.user.map CString.bytes
  pw : data.pw.map (Slice.bytes · memory) = call.pw.map CString.bytes

/-- The parser gets the frame, whatever stands behind it, and returns what was asked for. -/
def ConnectCall.RoundTrips (call : ConnectCall) (behind : Memory) : Prop :=
  ∃ data, (deserializeResponse call.frame.length).eval (behind.write call.frame)
      = some (.connect data) ∧ data.Carries (behind.write call.frame) call

section RoundTrip

variable {memory : Memory} {offset : Nat} {call : ConnectCall}

/-- The flags are read as they were packed. -/
theorem flags_unpack (user pw will retain clean : Bool) (qos : Wire.Qos) :
    let bits := UInt8.ofNat (packConnectFlags user pw will (UInt32.ofNat qos.code) retain clean)
    flagBit bits 0x80 7 = user ∧ flagBit bits 0x40 6 = pw ∧ flagBit bits 0x04 2 = will ∧
      UInt32.ofNat ((bits.toNat &&& 0x18) >>> 3) = UInt32.ofNat qos.code ∧
      flagBit bits 0x20 5 = retain ∧ flagBit bits 0x02 1 = clean := by
  cases user <;> cases pw <;> cases will <;> cases retain <;> cases clean <;> cases qos <;> decide

theorem eval_deserializeConnect (hshort : ∀ str ∈ call.strings, strlen str < 256)
    (hholds : memory.Holds offset call.body) :
    ∃ data, (deserializeConnect offset).eval memory = .connect data ∧ data.Carries memory call := by
  obtain ⟨hclientShort, htopicShort, hmessageShort, huserShort, hpwShort⟩ :=
    forall_mem_connectStrings.mp hshort
  rw [ConnectCall.body, connectBody, Memory.holds_append, Memory.holds_append, length_topicFrame,
    length_topicFrame, willFrame, List.append_assoc] at hholds
  obtain ⟨hheader, hclient, hsections⟩ := hholds
  have hclientAt : offset + (2 + strlen protocolName + 4) = offset + 2 + 6 + 4 := rfl
  have hsectionsAt : offset + 2 + 6 + 4 + (2 + strlen call.clientId + 0)
      = offset + 2 + 6 + 6 + strlen call.clientId := by omega
  simp only [List.length_cons, List.length_nil] at hclient hsections
  rw [hclientAt] at hclient hsections
  rw [hsectionsAt] at hsections
  obtain ⟨hname, hnameSize, hfields⟩ := eval_parseString_topicFrame (by decide) hheader
  simp only [Memory.holds_cons] at hfields
  obtain ⟨hversion, hflags, -, hkeepAlive, -⟩ := hfields
  obtain ⟨hclientBytes, hclientSize, -⟩ := eval_parseString_topicFrame hclientShort hclient
  obtain ⟨willTopic, htopicEval, htopic, hsections⟩ := eval_parseOptional htopicShort hsections
  obtain ⟨willMessage, hmessageEval, hmessage, hsections⟩ :=
    eval_parseOptional hmessageShort hsections
  obtain ⟨user, huserEval, huser, hsections⟩ := eval_parseOptional huserShort hsections
  rw [← List.append_nil (optionalFrame call.pw)] at hsections
  obtain ⟨pw, hpwEval, hpw, -⟩ := eval_parseOptional hpwShort hsections
  obtain ⟨hunpackUser, hunpackPw, hunpackWill, hunpackQos, hunpackRetain, hunpackClean⟩ :=
    flags_unpack call.user.isSome call.pw.isSome call.will.isSome call.willRetain call.cleanSession
      call.willQos
  rw [Option.isSome_map] at htopicEval hmessageEval
  change (((parseString offset).eval memory).size.toNat = 6) at hnameSize
  change memory (offset + 2 + 6) = 3 at hversion
  change memory (offset + 2 + 6 + 1) = _ at hflags
  change memory (offset + 2 + 6 + 2 + 1) = _ at hkeepAlive
  simp only [connectFlags] at hflags
  simp only [deserializeConnect, Interaction.eval_bind, Interaction.eval_pure, hnameSize, eval_readByte,
    eval_shortFromBuffer, hversion, hflags, hkeepAlive, hunpackUser, hunpackPw, hunpackWill, hunpackQos,
    hunpackRetain, hunpackClean, hclientSize, htopicEval, hmessageEval, huserEval, hpwEval]
  exact ⟨_, rfl, hname, rfl, rfl, rfl, rfl, rfl, rfl, rfl, rfl, hclientBytes, htopic, hmessage, huser,
    hpw⟩

theorem strlen_lt_of_carries {data : ConnectData}
    (heval : (deserializeConnect offset).eval memory = .connect data)
    (hcarries : data.Carries memory call) : ∀ str ∈ call.strings, strlen str < 256 := by
  simp only [deserializeConnect, Interaction.eval_bind, Interaction.eval_pure,
    Response.connect.injEq] at heval
  subst heval
  refine forall_mem_connectStrings.mpr ?_
  exact ⟨strlen_lt_of_parseString hcarries.clientId, strlen_lt_of_parseOptional hcarries.willTopic,
    strlen_lt_of_parseOptional hcarries.willMessage, strlen_lt_of_parseOptional hcarries.user,
    strlen_lt_of_parseOptional hcarries.pw⟩

end RoundTrip

theorem connect_roundTrips_iff (call : ConnectCall) (behind : Memory) :
    call.RoundTrips behind ↔ ∀ str ∈ call.strings, strlen str < 256 := by
  constructor
  · rintro ⟨data, heval, hcarries⟩
    obtain ⟨type, totalSize, offset, -, hbody⟩ := exists_deserializeBody_of_eval heval
    obtain rfl : type = .connect := by
      have htype := congrArg Response.type hbody
      rwa [type_deserializeBody, eq_comm] at htype
    exact strlen_lt_of_carries hbody.symm hcarries
  · intro hshort
    have hlimit : call.body.length < Wire.lengthLimit :=
      calc call.body.length ≤ 22 + 5 * 256 :=
            length_connectBody_le (fun str hmem => (hshort str hmem).le) _ _ _ _
        _ < Wire.lengthLimit := by decide
    have hframe := call.frame_eq
    rw [encodeSize_snd hlimit] at hframe
    have hholds := Memory.holds_write behind call.frame
    generalize hsent : call.body.length = sent at hlimit hframe
    rw [ConnectCall.RoundTrips]
    generalize behind.write call.frame = memory at hholds ⊢
    rw [hframe] at hholds
    have hlength : (Base128.encode 4 sent).length ≤ call.frame.length := by
      rw [hframe, List.length_cons, List.length_append]
      omega
    have htype : (0x10 : UInt8).toNat >>> 4 = MessageType.connect.code := by decide
    obtain ⟨heval, hafter⟩ := eval_deserializeResponse_frame hlimit htype hlength hholds
    obtain ⟨data, hdata, hcarries⟩ := eval_deserializeConnect hshort hafter
    exact ⟨data, heval.trans (congrArg some hdata), hcarries⟩

end Smqtt
