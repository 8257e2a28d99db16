import Smqtt.Protocol

/-!
# The command line of `smqttc`

`main` up to its call of `smqtt_connect`. It walks through `argv` with an index; `argv[argc]` is the
null pointer, and `ADVANCE_ARG` lets the index go there.
-/

namespace Smqtt

/-- How `main` can end before it connects: with the usage message, or by a read through a null
pointer. -/
inductive Exit where
  | usage
  | nullRead
  deriving DecidableEq

abbrev Scan := Except Exit

theorem ok_bind {α β : Type} (value : α) (next : α → Scan β) :
    ((.ok value : Scan α) >>= next) = next value := rfl

theorem error_bind {α β : Type} (exit : Exit) (next : α → Scan β) :
    ((.error exit : Scan α) >>= next) = .error exit := rfl

/-- The character at a place in the string; NUL at its end. -/
def CString.charAt (str : CString) (index : Nat) : Char :=
  Char.ofNat (str.bytes.getD index 0).toNat

def CString.drop (str : CString) (count : Nat) : CString where
  bytes := str.bytes.drop count
  noNul hmem := str.noNul (List.mem_of_mem_drop hmem)

/-- `strchr`, and `strstr` for a text of one character. -/
def strchr (str : CString) (char : UInt8) : Option CString :=
  if char ∈ str.bytes then some (str.drop (str.bytes.findIdx (· = char))) else none

def ERANGE : Nat := 34
def ENOMSG : Nat := 42

def isSpace (byte : UInt8) : Bool := byte = 32 ∨ (9 ≤ byte ∧ byte ≤ 13)

def isDigit (byte : UInt8) : Bool := 48 ≤ byte ∧ byte ≤ 57

def decimal (digits : List UInt8) : Nat :=
  digits.foldl (fun value digit => 10 * value + (digit.toNat - 48)) 0

/-- `strtoul` to the base 10: the value, and `errno` afterwards. -/
def strtoul (str : CString) (errno : Nat) : Nat × Nat :=
  let text := str.bytes.dropWhile isSpace
  let negative := text.head? = some 45
  let text := if text.head? = some 45 ∨ text.head? = some 43 then text.tail else text
  let value := decimal (text.takeWhile isDigit)
  if 2 ^ 64 ≤ value then (2 ^ 64 - 1, ERANGE)
  else if negative then ((2 ^ 64 - value) % 2 ^ 64, errno)
  else (value, errno)

inductive MainOperation where
  | publish
  | subscribe
  deriving DecidableEq

/-- The locals of `main`, and `errno`. -/
structure Settings where
  operation : MainOperation
  user : Option CString
  pw : Option CString
  keepAliveSec : UInt32
  qos : QoS
  cleanSession : Bool
  lastWill : Bool
  lastWillQos : QoS
  lastWillRetain : Bool
  lastWillTopic : Option CString
  lastWillMessage : Option CString
  publishMessage : Option CString
  host : CString
  port : UInt16
  clientId : Option CString
  topic : Option CString
  errno : Nat
  deriving DecidableEq

def initialSettings : Settings where
  operation := .publish
  user := none
  pw := none
  keepAliveSec := 30
  qos := QoS0
  cleanSession := false
  lastWill := false
  lastWillQos := QoS0
  lastWillRetain := false
  lastWillTopic := none
  lastWillMessage := none
  publishMessage := none
  host := ⟨[49, 50, 55, 46, 48, 46, 48, 46, 49], by decide⟩
  port := 1883
  clientId := none
  topic := none
  errno := 0

/-- The arguments of `smqtt_connect`. -/
structure SmqttConnectArgs where
  serverIp : CString
  port : UInt32
  clientId : Option CString
  user : Option CString
  pw : Option CString
  keepAliveSec : UInt16
  cleanSession : Bool
  lastWillAndTestament : Bool
  willQos : QoS
  willRetain : Bool
  willTopic : Option CString
  willMessage : Option CString
  deriving DecidableEq

/-- The call that `main` makes; the keep-alive is passed as a `uint16_t`. -/
def Settings.connectArgs (settings : Settings) : SmqttConnectArgs where
  serverIp := settings.host
  port := UInt32.ofNat settings.port.toNat
  clientId := settings.clientId
  user := settings.user
  pw := settings.pw
  keepAliveSec := UInt16.ofNat settings.keepAliveSec.toNat
  cleanSession := settings.cleanSession
  lastWillAndTestament := settings.lastWill
  willQos := settings.lastWillQos
  willRetain := settings.lastWillRetain
  willTopic := settings.lastWillTopic
  willMessage := settings.lastWillMessage

/-- `argv[arg]`, null at `argc`. -/
def argAt (argv : List CString) (arg : Nat) : Option CString := argv[arg]?

/-- The first character of an argument. -/
def deref (pointer : Option CString) : Scan Char :=
  match pointer with
  | none => .error .nullRead
  | some word => .ok (word.charAt 0)

/-- `ADVANCE_ARG` -/
def advanceArg (argv : List CString) (arg : Nat) : Scan Nat :=
  if argv.length < arg + 1 then .error .usage else .ok (arg + 1)

/-- `case 'k'` -/
def readKeepAlive (argv : List CString) (arg : Nat) (settings : Settings) :
    Scan (Nat × Settings) := do
  let arg ← advanceArg argv arg
  match argAt argv arg with
  | none => .error .nullRead
  | some word =>
      let (value, errno) := strtoul word settings.errno
      if errno ≠ ENOMSG then .error .usage
      else .ok (arg, { settings with keepAliveSec := UInt32.ofNat value, errno })

/-- `case 'q'`, which runs on into `case 'c'`. -/
def readQos (argv : List CString) (arg : Nat) (settings : Settings) : Scan (Nat × Settings) := do
  let arg ← advanceArg argv arg
  let q ← deref (argAt argv arg)
  match q with
  | '0' => .ok (arg, { settings with cleanSession := true })
  | '1' => .ok (arg, { settings with qos := QoS1, cleanSession := true })
  | '2' => .ok (arg, { settings with qos := QoS2, cleanSession := true })
  | _ => .error .usage

def readWillQos (settings : Settings) (wq : Char) : Scan Settings :=
  match wq with
  | '0' => .ok settings
  | '1' => .ok { settings with lastWillQos := QoS1 }
  | '2' => .ok { settings with lastWillQos := QoS2 }
  | _ => .error .usage

def readWillRetain (settings : Settings) (wr : Char) : Scan Settings :=
  match wr with
  | 'Y' => .ok { settings with lastWillRetain := true }
  | 'N' => .ok settings
  | _ => .error .usage

/-- `case 'W'`, up to its end. -/
def readWill (argv : List CString) (arg : Nat) (settings : Settings) : Scan (Nat × Settings) := do
  let settings := { settings with lastWill := true }
  let arg ← advanceArg argv arg
  let wq ← deref (argAt argv arg)
  let settings ← readWillQos settings wq
  let arg ← advanceArg argv arg
  let wr ← deref (argAt argv arg)
  let settings ← readWillRetain settings wr
  let arg ← advanceArg argv arg
  let settings := { settings with lastWillTopic := argAt argv arg }
  let arg ← advanceArg argv arg
  .ok (arg, { settings with lastWillMessage := argAt argv arg })

/-- The `switch` over the letter of an option. -/
def readOption (argv : List CString) (arg : Nat) (sw : Char) (settings : Settings) :
    Scan (Nat × Settings) :=
  match sw with
  | 'u' => do
      let arg ← advanceArg argv arg
      .ok (arg, { settings with user := argAt argv arg })
  | 'p' => do
      let arg ← advanceArg argv arg
      .ok (arg, { settings with pw := argAt argv arg })
  | 'k' => readKeepAlive argv arg settings
  | 'q' => readQos argv arg settings
  | 'c' => .ok (arg, { settings with cleanSession := true })
  | 'W' => do
      let _ ← readWill argv arg settings
      -- there is no `break`: what was read runs on into `default`
      .error .usage
  | _ => .error .usage

/-- The `while` loop, at most `fuel` options long. `arg < argc` is that there is a word. -/
def optionLoop (argv : List CString) : Nat → Nat → Settings → Scan (Nat × Settings)
  | 0, arg, settings => .ok (arg, settings)
  | fuel + 1, arg, settings =>
      match argAt argv arg with
      | none => .ok (arg, settings)
      | some word =>
          if word.charAt 0 = '-' then do
            let (arg, settings) ← readOption argv arg (word.charAt 1) settings
            optionLoop argv fuel (arg + 1) settings
          else .ok (arg, settings)

/-- `-P` -/
def publishSwitch : CString := ⟨[45, 80], by decide⟩

/-- `-S` -/
def subscribeSwitch : CString := ⟨[45, 83], by decide⟩

/-- What is to be done, and where the options begin. -/
def readOperation (argv : List CString) (settings : Settings) : Scan (Nat × Settings) :=
  if argAt argv 1 = some publishSwitch then
    if argv.length ≤ 2 then .error .usage
    else .ok (3, { settings with operation := .publish, publishMessage := argAt argv 2 })
  else if argAt argv 1 = some subscribeSwitch then
    .ok (2, { settings with operation := .subscribe })
  else .error .usage

/-- The `:` of `strchr` stays in front of the host. -/
def readHost (settings : Settings) (hostPort : CString) : Settings :=
  match strchr hostPort 58 with
  | none => { settings with host := hostPort }
  | some pos =>
      let (port, errno) := strtoul (pos.drop 1) settings.errno
      { settings with host := pos, port := UInt16.ofNat port, errno }

/-- Words behind the topic are not looked at. -/
def readPositionals (argv : List CString) (arg : Nat) (settings : Settings) : Scan Settings :=
  if argv.length ≤ arg + 2 then .error .usage
  else
    match argAt argv arg with
    | none => .error .nullRead
    | some hostPort =>
        .ok { readHost settings hostPort with
          clientId := argAt argv (arg + 1)
          topic := argAt argv (arg + 2) }

/-- `main`, to the point where it calls `smqtt_connect`. -/
def main (argv : List CString) : Scan Settings :=
  if 1 < argv.length then do
    let (arg, settings) ← readOperation argv initialSettings
    let (arg, settings) ← optionLoop argv argv.length arg settings
    readPositionals argv arg settings
  else .error .usage

end Smqtt
