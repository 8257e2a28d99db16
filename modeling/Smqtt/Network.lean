import Smqtt.Lib.Interaction
import Smqtt.Lib.Memory

/-!
# The network server

`network_receive` of `network_server.c`: wait for the socket, ask it for the two bytes of a fixed
header, and then for as many bytes as the second of them says.
-/

namespace Smqtt

/-- The system calls that `network_receive` makes; `recv` stores what it gets at an offset of the
buffer. -/
inductive SocketCall where
  | select
  | recv (offset count : Nat)

/-- `select` fails or not. `recv` fails, or returns at most what was asked for; the empty list is
the end of the stream. -/
abbrev SocketAnswer : SocketCall → Type
  | .select => Bool
  | .recv _ count => Option { bytes : List UInt8 // bytes.length ≤ count }

/-- One way for the operating system to answer. -/
abbrev Socket := (call : SocketCall) → SocketAnswer call

def select : Interaction SocketCall SocketAnswer Bool := Interaction.ask SocketCall.select

def recv (offset count : Nat) :
    Interaction SocketCall SocketAnswer (Option { bytes : List UInt8 // bytes.length ≤ count }) :=
  Interaction.ask (SocketCall.recv offset count)

/-- The result and the buffer. The length byte is looked at even if it has not been received. -/
def networkReceive (buffer : Memory) : Interaction SocketCall SocketAnswer (Int × Memory) := do
  let selected ← select
  if selected then
    let header ← recv 0 2
    match header with
    | none => pure (0, buffer)
    | some header =>
        let buffer := buffer.writeAt 0 header.1
        let remaining := (buffer 1).toNat
        let consumed := 2
        if remaining > 0 then
          let body ← recv 2 remaining
          match body with
          | none => pure (0, buffer)
          | some body => pure (body.1.length + consumed, buffer.writeAt 2 body.1)
        else pure (consumed, buffer)
  else pure (0, buffer)

end Smqtt
