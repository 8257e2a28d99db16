import Smqtt.Client

/-!
# Clients on the network server

The functions of a `server_t` as `network_server.c` has them: they use the socket in `impl`, and a
failed connect or send, as well as a disconnect, releases it. A call that finds `impl` null crashes.
-/

namespace Smqtt

/-- What the operating system answers, by the number of the call. A `send` fails with -1 or accepts
some of the bytes; of `network_receive` only the result is looked at here, as it keeps `impl` whatever
its `recv` calls return. -/
structure OperatingSystem where
  connect : Nat → Bool
  send : Nat → (length : Nat) → { result : Int // -1 ≤ result ∧ result ≤ length }
  receive : Nat → Reception

/-- `impl` is whether the pointer is not null. `clock` counts the calls and `sends` remembers what was
given to `send` and what it returned. -/
structure NetworkServer where
  impl : Bool
  clock : Nat
  sends : List (List UInt8 × Int)

/-- `send(..) < length`, a comparison of an `ssize_t` with a `size_t`: the result is converted. -/
def sendShort (result : Int) (length : Nat) : Bool := (result % 2 ^ 64).toNat < length

namespace NetworkServer

/-- Before the server is made. -/
def absent : NetworkServer := ⟨false, 0, []⟩

variable (os : OperatingSystem)

def createNetworkServer (server : NetworkServer) : NetworkServer := { server with impl := true }

def connect (server : NetworkServer) : NetStatus × NetworkServer :=
  if os.connect server.clock then (.ok, { server with clock := server.clock + 1 })
  else (.socket, { server with impl := false, clock := server.clock + 1 })

def send (server : NetworkServer) (frame : List UInt8) : NetStatus × NetworkServer :=
  let result := (os.send server.clock frame.length).1
  let sends := server.sends ++ [(frame, result)]
  if sendShort result frame.length then (.socket, ⟨false, server.clock + 1, sends⟩)
  else (.ok, { server with clock := server.clock + 1, sends })

def receive (server : NetworkServer) : Reception × NetworkServer :=
  (os.receive server.clock, { server with clock := server.clock + 1 })

def disconnect (server : NetworkServer) : NetStatus × NetworkServer :=
  (.ok, { server with impl := false, clock := server.clock + 1 })

/-- Every function but the one that makes a server goes through `impl`. -/
def handle (server : NetworkServer) : (call : ServerCall) → Option (ServerAnswer call × NetworkServer)
  | .createNetworkServer => some ((0 : Nat), server.createNetworkServer)
  | .connect _ _ _ _ => if server.impl then some (server.connect os) else none
  | .send _ frame => if server.impl then some (server.send os frame) else none
  | .receive _ => if server.impl then some (server.receive os) else none
  | .disconnect _ => if server.impl then some server.disconnect else none

end NetworkServer

/-- A client between two calls, with what its last call returned. -/
structure Session where
  client : SmqttClient
  receiveBuffer : Memory
  network : NetworkServer
  status : Status

namespace Session

/-- One call of the interface; it has no outcome if it uses a null `impl`. -/
def step (os : OperatingSystem) (session : Session) (op : Operation) : Option Session :=
  ((op.perform session.client session.receiveBuffer).execute (NetworkServer.handle os)
    session.network).map fun (returned, network) =>
      ⟨returned.client, returned.receiveBuffer, network, returned.status⟩

end Session

end Smqtt
