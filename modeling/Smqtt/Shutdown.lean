import Smqtt.MtConnect
import Smqtt.System

/-!
# Disconnecting the multi-threaded client

`smqtt_mt_disconnect` of `smqttc_mt.c`, called once, among the other threads. It sets the flag, waits
for the session thread to end and sends the DISCONNECT frame itself. `join_session_thread` frees the
client, which is used after that as if it were still there, and ends without a `return`: what its
caller takes for the result is chosen by the environment.
-/

namespace Smqtt

/-- Between which of its actions `smqtt_mt_disconnect` stands. -/
inductive DisconnectPc where
  | uncalled
  | joining
  | joined
  | returned (status : MtStatus)
  deriving DecidableEq

structure Shutdown (Tid : Type) where
  system : System Tid
  pc : DisconnectPc

inductive ShutdownLabel (Tid : Type) where
  | thread (label : Label Tid)
  | signalDisconnect
  | joinSessionThread (status : MtStatus)
  | sendDisconnect (status : NetStatus)

/-- The flag is set by `smqtt_mt_disconnect` only. -/
def Label.signals {Tid : Type} : Label Tid → Bool
  | signalDisconnect => true
  | _ => false

namespace Shutdown

variable {Tid : Type} [DecidableEq Tid]

def init (client : Client) (bufferCount : UInt16) (bufferSize : Nat) : Shutdown Tid :=
  ⟨.init client bufferCount bufferSize, .uncalled⟩

def join (state : Shutdown Tid) (status : MtStatus) : Shutdown Tid :=
  { state with pc := if status ≠ .ok then .returned status else .joined }

def step (state : Shutdown Tid) : ShutdownLabel Tid → Option (Shutdown Tid)
  | .thread label =>
      if label.signals then none
      else (state.system.step label).map fun system => { state with system }
  | .signalDisconnect =>
      match state.pc with
      | .uncalled =>
          (state.system.step .signalDisconnect).map fun system => ⟨system, .joining⟩
      | _ => none
  | .joinSessionThread status =>
      match state.pc, state.system.session with
      | .joining, .ended => some (state.join status)
      | _, _ => none
  | .sendDisconnect status =>
      match state.pc with
      | .joined => some { state with pc := .returned (mtStatusFromNet status) }
      | _ => none

end Shutdown

end Smqtt
