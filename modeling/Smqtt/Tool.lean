import Smqtt.CommandLine
import Smqtt.Program

/-!
# The command-line tool

`main` of `smqttc` from its call of `smqtt_connect` on: one message is published, or a topic is
subscribed to and one message after another is printed. The lines are those that `main.c` prints
itself, in order. The library's own lines, which it prints with `puts` and in its traces, stand
between them and are left out.
-/

namespace Smqtt

/-- A line of `main.c`. The complaints that come before the usage message are left out of it. -/
inductive MainLine where
  | usage
  | stderr (text : String)
  | stdout (text : String)
  | gotMessage (text : List UInt8)
  deriving DecidableEq

/-- How the process ends, if it does. -/
inductive Ending where
  | exit (code : Nat)
  | nullRead
  | uninitialisedRead
  | running
  deriving DecidableEq

/-- The lines of `main.c`, and how the process ends. -/
structure ToolRun where
  lines : List MainLine
  ending : Ending
  deriving DecidableEq

def ToolRun.behind (lines : List MainLine) (run : ToolRun) : ToolRun :=
  { run with lines := lines ++ run.lines }

/-! ### Connecting -/

/-- The strings of the will, which must be there if there is to be one. -/
def SmqttConnectArgs.will (args : SmqttConnectArgs) : Option (Option Will) :=
  if args.lastWillAndTestament then do
    let topic ← args.willTopic
    let message ← args.willMessage
    pure (some ⟨topic, message⟩)
  else pure none

/-- What `smqtt_connect` passes on, if no string that is read is null. -/
def SmqttConnectArgs.internal (args : SmqttConnectArgs) : Option ConnectArgs := do
  let clientId ← args.clientId
  let will ← args.will
  pure {
    mode := .remoteServer
    serverIp := args.serverIp
    port := args.port
    clientId
    user := args.user
    pw := args.pw
    keepAliveSec := args.keepAliveSec
    cleanSession := args.cleanSession
    willQos := args.willQos
    willRetain := args.willRetain
    will }

/-- `smqtt_connect` -/
def smqttConnect (args : SmqttConnectArgs) (memory : Option SmqttClient) (buffer : Memory) :
    Serve (Option Connected) :=
  match args.internal with
  | none => pure none
  | some args => do
      let connected ← smqttConnectInternal args memory buffer
      pure (some connected)

/-! ### The two operations -/

/-- `case PUBLISH`. The option `-q` is not asked, and a failure does not show in the exit code. The
line is the one of `main`; what `smqtt_publish` and `smqtt_disconnect` complain of stands before and
behind it. -/
def publishOnce (client : SmqttClient) (buffer : Memory) (topic : CString)
    (publishMessage : Option CString) : Serve ToolRun := do
  let returned ← smqttPublish client buffer topic publishMessage QoS1 false
  let line := if returned.status = .ok then MainLine.stdout "Sent message\n"
    else .stderr "publish failed\n"
  let _ ← smqttDisconnect returned.client returned.receiveBuffer
  pure ⟨[line], .exit 0⟩

/-- `Got message [%.*s]`: as many characters as were stored, or up to a NUL. -/
def gotMessage (message : List UInt8) (messageSize : UInt16) : MainLine :=
  .gotMessage (cString (message.take messageSize.toNat))

/-- The `while` loop, for `fuel` messages. -/
def messageLoop (client : SmqttClient) (buffer : Memory) : Nat → Serve ToolRun
  | 0 => pure ⟨[], .running⟩
  | fuel + 1 => do
      let returned ← smqttGetNextMessage client buffer
      if returned.status ≠ .ok then pure ⟨[.stderr "Failed to retrieve message\n"], .exit 1⟩
      else
        match returned.message with
        | none => pure ⟨[], .uninitialisedRead⟩
        | some (message, messageSize) => do
            let run ← messageLoop returned.client returned.receiveBuffer fuel
            pure (run.behind [gotMessage message messageSize])

/-- `case SUBSCRIBE` -/
def subscribeAndPrint (client : SmqttClient) (buffer : Memory) (topic : CString) (qos : QoS)
    (fuel : Nat) : Serve ToolRun := do
  let returned ← smqttSubscribe client buffer [(topic, qos)]
  if returned.status ≠ .ok then pure ⟨[.stderr "Failed to Subscribe\n"], .exit 1⟩
  else
    let run ← messageLoop returned.client returned.receiveBuffer fuel
    pure (run.behind [.stdout "Subscribed\n"])

/-- The `switch` over the operation. -/
def operate (settings : Settings) (client : SmqttClient) (buffer : Memory) (fuel : Nat) :
    Serve ToolRun :=
  match settings.topic with
  | none => pure ⟨[], .nullRead⟩
  | some topic =>
      match settings.operation with
      | .publish => publishOnce client buffer topic settings.publishMessage
      | .subscribe => subscribeAndPrint client buffer topic settings.qos fuel

/-- `main` from the call of `smqtt_connect` on. `client` is null before the call. -/
def connectAndOperate (settings : Settings) (memory : Option SmqttClient) (buffer : Memory)
    (fuel : Nat) : Serve ToolRun := do
  let connected ← smqttConnect settings.connectArgs memory buffer
  match connected with
  | none => pure ⟨[], .nullRead⟩
  | some connected =>
      if connected.status ≠ .ok then pure ⟨[.stderr "Failed to connect\n"], .exit 1⟩
      else
        match connected.client with
        | .set client => operate settings client connected.receiveBuffer fuel
        | _ => pure ⟨[], .nullRead⟩

/-- The whole of `main`. -/
def runTool (argv : List CString) (memory : Option SmqttClient) (buffer : Memory) (fuel : Nat) :
    Serve ToolRun :=
  match main argv with
  | .error .usage => pure ⟨[.usage], .exit 1⟩
  | .error .nullRead => pure ⟨[], .nullRead⟩
  | .ok settings => connectAndOperate settings memory buffer fuel

end Smqtt
