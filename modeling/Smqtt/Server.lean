import Smqtt.Lib.Interaction
import Smqtt.Protocol

/-!
# The server interface

`server.h`: the clients reach their server through the four functions of a `server_t`. A call names
the `server_t` it goes through; what answers is not said here.
-/

namespace Smqtt

/-- `smqtt_net_status_t` -/
inductive NetStatus where
  | ok
  | socket
  deriving DecidableEq

/-- `server_mode_t` -/
inductive ServerMode where
  | localServer
  | remoteServer
  deriving DecidableEq

/-- A pointer to a `server_t`. -/
abbrev ServerRef := Nat

inductive ServerCall where
  | createNetworkServer
  | connect (server : ServerRef) (hostname : CString) (port timeoutMsec : UInt16)
  | send (server : ServerRef) (frame : List UInt8)
  | receive (server : ServerRef)
  | disconnect (server : ServerRef)
  deriving DecidableEq

/-- What `server_receive` returns, and the bytes that it has stored in the buffer. -/
structure Reception where
  size : Int
  stored : Nat → Option UInt8

abbrev ServerAnswer : ServerCall → Type
  | .createNetworkServer => ServerRef
  | .connect _ _ _ _ => NetStatus
  | .send _ _ => NetStatus
  | .receive _ => Reception
  | .disconnect _ => NetStatus

/-- A computation that uses servers. -/
abbrev Serve (α : Type) := Interaction ServerCall ServerAnswer α

def createNetworkServer : Serve ServerRef := Interaction.ask ServerCall.createNetworkServer

def serverConnect (server : ServerRef) (hostname : CString) (port timeoutMsec : UInt16) :
    Serve NetStatus :=
  Interaction.ask (ServerCall.connect server hostname port timeoutMsec)

def serverSend (server : ServerRef) (frame : List UInt8) : Serve NetStatus :=
  Interaction.ask (ServerCall.send server frame)

def serverReceive (server : ServerRef) : Serve Reception :=
  Interaction.ask (ServerCall.receive server)

def serverDisconnect (server : ServerRef) : Serve NetStatus :=
  Interaction.ask (ServerCall.disconnect server)

def ServerCall.frame : ServerCall → Option (List UInt8)
  | send _ frame => some frame
  | _ => none

end Smqtt
