import Smqtt.Client
import Smqtt.Connection

/-!
# Connecting the multi-threaded client

`smqtt_mt_connect_internal` of `smqttc_mt.c`. Its `receive_buffer` is static, and not the one that
the session thread uses.
-/

namespace Smqtt

def mtStatusFromNet : NetStatus → MtStatus
  | .ok => .ok
  | .socket => .socket

def mtRefusal (type : UInt8) : MtStatus :=
  match type.toNat with
  | 1 => .protocol
  | 2 => .identifier
  | 3 => .server
  | 4 => .notAuthenticated
  | 5 => .notAuthorized
  | _ => .noack

/-- `client` is what `*client` is set to, unless it is left alone. -/
structure MtConnected where
  status : MtStatus
  client : Option Client
  receiveBuffer : Memory

/-- `smqtt_mt_connect_internal` from the packet that was received on. -/
def mtAnswerConnect (connected : Client) (server : ServerRef) (buffer : Memory) (size : Int) :
    Serve MtConnected :=
  if size > 0 then
    match parseBuffer buffer size with
    | none => pure ⟨.number 99, none, buffer⟩
    | some (.connack type) =>
        if type ≠ connectionAccepted then do
          let _ ← serverDisconnect server
          pure ⟨mtRefusal type, none, buffer⟩
        else pure ⟨.ok, some connected, buffer⟩
    | some _ => pure ⟨.ok, some connected, buffer⟩
  else do
    let _ ← serverDisconnect server
    pure ⟨.nomessage, none, buffer⟩

/-- `smqtt_mt_connect_internal` from `server_connect` on. -/
def mtGreetServer (args : ConnectArgs) (connected : Client) (server : ServerRef) (buffer : Memory) :
    Serve MtConnected := do
  let stat ← serverConnect server args.serverIp (UInt16.ofNat args.port.toNat) 100
  if mtStatusFromNet stat ≠ .ok then pure ⟨mtStatusFromNet stat, none, buffer⟩
  else
    let stat ← serverSend server (args.frame args.clientId)
    if mtStatusFromNet stat ≠ .ok then pure ⟨mtStatusFromNet stat, none, buffer⟩
    else
      let reception ← serverReceive server
      mtAnswerConnect connected server (buffer.patch reception.stored) reception.size

/-- `memory` is what `malloc` returns for the client. The copies of the two strings in it are not
used again. -/
def smqttMtConnectInternal (args : ConnectArgs) (msgCallback : Callback) (msgCbContext : Nat)
    (memory : Option Client) (buffer : Memory) : Serve MtConnected :=
  match memory with
  | none => pure ⟨.nomem, none, buffer⟩
  | some memory => do
      let server ← makeServer args.mode 0
      if strlen args.clientId + 1 > maxClientIdChars ∨ strlen args.serverIp + 1 > maxHostnameChars
      then pure ⟨.ok, none, buffer⟩
      else
        mtGreetServer args
          (startSessionThread (connectedClient memory msgCallback msgCbContext) 10 1024) server
          buffer

end Smqtt
