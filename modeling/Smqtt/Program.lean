import Smqtt.Client

/-!
# Programs of the single-threaded client

A program connects and makes one call after the other, against a broker that may answer every call
of the server by all that was called before.
-/

namespace Smqtt

open Interaction

abbrev Broker := List ServerCall → (call : ServerCall) → ServerAnswer call

/-- Frames can be sent, and nothing is received. -/
def silentBroker : Broker
  | _, .createNetworkServer => (0 : Nat)
  | _, .connect _ _ _ _ => .ok
  | _, .send _ _ => .ok
  | _, .receive _ => ⟨0, fun _ => none⟩
  | _, .disconnect _ => .ok

/-- Whatever is received is a CONNACK that accepts. -/
def welcomingBroker : Broker
  | _, .createNetworkServer => (0 : Nat)
  | _, .connect _ _ _ _ => .ok
  | _, .send _ _ => .ok
  | _, .receive _ => ⟨4, fun index => [0x20, 2, 0, 0][index]?⟩
  | _, .disconnect _ => .ok

/-- One call after the other, whatever they return. -/
def performAll (client : SmqttClient) (buffer : Memory) : List Operation → Serve (List Returned)
  | [] => pure []
  | op :: ops => do
      let returned ← op.perform client buffer
      let rest ← performAll returned.client returned.receiveBuffer ops
      pure (returned :: rest)

/-- Connect, and make the calls if there is a client to make them on; what is returned each time. -/
def connectAndPerform (args : ConnectArgs) (memory : SmqttClient) (buffer : Memory)
    (ops : List Operation) : Serve (List Status) := do
  let connected ← smqttConnectInternal args (some memory) buffer
  match connected.client with
  | .set client =>
      let returned ← performAll client connected.receiveBuffer ops
      pure (connected.status :: returned.map Returned.status)
  | _ => pure [connected.status]

/-- The frames that were handed to `server_send`. -/
def sentFrames (history : List ServerCall) : List (List UInt8) := history.filterMap ServerCall.frame

@[simp]
theorem sentFrames_append (left right : List ServerCall) :
    sentFrames (left ++ right) = sentFrames left ++ sentFrames right :=
  List.filterMap_append

/-! ### Two steps of an operation -/

section Steps

variable {server : ServerRef} {broker : Broker} {history : List ServerCall}

theorem run_sendThen (frame : List UInt8) (failed : Status → Returned) (next : Serve Returned) :
    (sendThen server frame failed next).run (respond broker) history
      = if broker history (.send server frame) = .ok then
          next.run (respond broker) (history ++ [.send server frame])
        else (failed .socket, history ++ [.send server frame]) := by
  rw [sendThen, serverSend, run_bind, run_ask, respond]
  dsimp only
  cases broker history (.send server frame) with
  | ok => rfl
  | socket => rfl

/-- What `deserialize_response` makes of the buffer behind a receive. -/
def Broker.packet (broker : Broker) (history : List ServerCall) (server : ServerRef)
    (buffer : Memory) : Option Response :=
  parseBuffer (buffer.patch (broker history (.receive server)).stored)
    (broker history (.receive server)).size

theorem run_awaitThen (buffer : Memory) (expected : Response → Bool) (null : Status)
    (finish : Status → Memory → Returned) (next : Memory → Serve Returned) :
    (awaitThen server buffer expected null finish next).run (respond broker) history
      = match (broker.packet history server buffer).map expected with
        | none => (finish null (buffer.patch (broker history (.receive server)).stored),
            history ++ [.receive server])
        | some false => (finish .unexpected (buffer.patch (broker history (.receive server)).stored),
            history ++ [.receive server])
        | some true => (next (buffer.patch (broker history (.receive server)).stored)).run
            (respond broker) (history ++ [.receive server]) := by
  rw [awaitThen, serverReceive, run_bind, run_ask, respond, Broker.packet]
  dsimp only
  cases parseBuffer (buffer.patch (broker history (.receive server)).stored)
    (broker history (.receive server)).size with
  | none => rfl
  | some resp => cases hexpected : expected resp <;> simp [hexpected]

end Steps

end Smqtt
