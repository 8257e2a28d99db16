import Smqtt.CommandLine
import Smqtt.Lib.FirstItem
import Smqtt.Wire

/-!
# The command line and its usage message

What the usage message generates, beside what `main` makes of any arguments at all. `main` is more
liberal in some places, stricter in others, and at the end of the arguments it can read through the
null pointer; the conditions at the end say where.
-/

namespace Smqtt

/-! ### The grammar of the usage message -/

/-- A number, in decimal digits. -/
structure Number where
  digits : List UInt8
  nonempty : digits ≠ []
  allDigits : ∀ digit ∈ digits, isDigit digit

def Number.value (number : Number) : Nat := decimal number.digits

theorem Number.noNul (number : Number) : 0 ∉ number.digits :=
  fun hmem => absurd (number.allDigits 0 hmem) (by decide)

def Number.word (number : Number) : CString := ⟨number.digits, number.noNul⟩

/-- An option of the usage message, with its arguments. -/
inductive UsageOption where
  | user (userid : CString)
  | password (pw : CString)
  | keepAlive (seconds : Number)
  | qos (level : Wire.Qos)
  | clean
  | will (level : Wire.Qos) (retain : Bool) (topic message : CString)

/-- `0`, `1` or `2` -/
def Wire.Qos.word : Wire.Qos → CString
  | .atMostOnce => ⟨[48], by decide⟩
  | .atLeastOnce => ⟨[49], by decide⟩
  | .exactlyOnce => ⟨[50], by decide⟩

/-- `Y` or `N` -/
def retainWord (retain : Bool) : CString :=
  if retain then ⟨[89], by decide⟩ else ⟨[78], by decide⟩

def UsageOption.words : UsageOption → List CString
  | user userid => [⟨[45, 117], by decide⟩, userid]
  | password pw => [⟨[45, 112], by decide⟩, pw]
  | keepAlive seconds => [⟨[45, 107], by decide⟩, seconds.word]
  | qos level => [⟨[45, 113], by decide⟩, level.word]
  | clean => [⟨[45, 99], by decide⟩]
  | will level retain topic message =>
      [⟨[45, 87], by decide⟩, level.word, retainWord retain, topic, message]

/-- What an option says about the call; a later one overrides an earlier one. The QoS is that of the
subscription. -/
def UsageOption.give (call : SmqttConnectArgs) : UsageOption → SmqttConnectArgs
  | user userid => { call with user := some userid }
  | password pw => { call with pw := some pw }
  | keepAlive seconds => { call with keepAliveSec := UInt16.ofNat seconds.value }
  | qos _ => call
  | clean => { call with cleanSession := true }
  | will level retain topic message =>
      { call with
        lastWillAndTestament := true
        willQos := UInt32.ofNat level.code
        willRetain := retain
        willTopic := some topic
        willMessage := some message }

/-- A command line as the usage message has it: to publish a message, or to subscribe. -/
structure UsageLine where
  message : Option CString
  options : List UsageOption
  host : CString
  noColon : 58 ∉ host.bytes
  port : Option Number
  clientId : CString
  topic : CString

namespace UsageLine

def operation (line : UsageLine) : List CString :=
  match line.message with
  | some message => [publishSwitch, message]
  | none => [subscribeSwitch]

/-- The host, and the port behind a colon if it is given. -/
def hostPort (line : UsageLine) : CString :=
  match line.port with
  | none => line.host
  | some port => ⟨line.host.bytes ++ 58 :: port.digits, by
      simp [line.host.noNul, port.noNul]⟩

def words (line : UsageLine) : List CString :=
  line.operation ++ line.options.flatMap UsageOption.words ++
    [line.hostPort, line.clientId, line.topic]

/-- The call that the line asks for. -/
def call (line : UsageLine) : SmqttConnectArgs :=
  line.options.foldl UsageOption.give
    { serverIp := line.host
      port := UInt32.ofNat ((line.port.map Number.value).getD 1883)
      clientId := some line.clientId
      user := none
      pw := none
      keepAliveSec := 30
      cleanSession := false
      lastWillAndTestament := false
      willQos := QoS0
      willRetain := false
      willTopic := none
      willMessage := none }

end UsageLine

/-- `main` calls `smqtt_connect` with these arguments. -/
def Connects (argv : List CString) (call : SmqttConnectArgs) : Prop :=
  ∃ settings, main argv = .ok settings ∧ settings.connectArgs = call

/-- What `main` should do: connect as a line of the usage message asks, and print the message at
anything else. -/
structure Conforms (argv : List CString) : Prop where
  generated : ∀ line : UsageLine, argv.tail = line.words → Connects argv line.call
  otherwise : (∃ line : UsageLine, argv.tail = line.words ∧ Connects argv line.call) ∨
    main argv = .error .usage

/-! ### What `main` accepts -/

/-- A word that is taken for the option with this letter, whatever follows the letter. -/
structure CString.IsSwitch (word : CString) (letter : Char) : Prop where
  dash : word.charAt 0 = '-'
  letter : word.charAt 1 = letter

/-- The first character of a QoS. -/
def Wire.Qos.digit : Wire.Qos → Char
  | .atMostOnce => '0'
  | .atLeastOnce => '1'
  | .exactlyOnce => '2'

/-- A QoS of 0 is not stored. -/
def Settings.withQos (settings : Settings) : Wire.Qos → Settings
  | .atMostOnce => settings
  | .atLeastOnce => { settings with qos := QoS1 }
  | .exactlyOnce => { settings with qos := QoS2 }

/-- An option that `main` reads, and its effect. -/
inductive Loose : List CString → (Settings → Settings) → Prop
  | user {word value : CString} (hword : word.IsSwitch 'u') :
      Loose [word, value] fun settings => { settings with user := some value }
  | password {word value : CString} (hword : word.IsSwitch 'p') :
      Loose [word, value] fun settings => { settings with pw := some value }
  | qos {word value : CString} (hword : word.IsSwitch 'q') {level : Wire.Qos}
      (hvalue : value.charAt 0 = level.digit) :
      Loose [word, value] fun settings => { settings.withQos level with cleanSession := true }
  | clean {word : CString} (hword : word.IsSwitch 'c') :
      Loose [word] fun settings => { settings with cleanSession := true }

inductive LooseOptions : List CString → (Settings → Settings) → Prop
  | nil : LooseOptions [] id
  | cons {first rest : List CString} {effect effects : Settings → Settings}
      (hfirst : Loose first effect) (hrest : LooseOptions rest effects) :
      LooseOptions (first ++ rest) (effects ∘ effect)

/-- An option at the end of the arguments for which `main` reads through `argv[argc]`. -/
inductive Dangling : List CString → Prop
  | keepAlive {word : CString} (hword : word.IsSwitch 'k') : Dangling [word]
  | qos {word : CString} (hword : word.IsSwitch 'q') : Dangling [word]
  | will {word : CString} (hword : word.IsSwitch 'W') : Dangling [word]
  | willQos {word value : CString} (hword : word.IsSwitch 'W') {level : Wire.Qos}
      (hvalue : value.charAt 0 = level.digit) : Dangling [word, value]

/-! ### One option -/

section Option

variable {argv words rest tail : List CString} {arg : Nat} {word value : CString}
  {settings : Settings} {effect effects : Settings → Settings} {level : Wire.Qos}

theorem argAt_of_drop (index : Nat) (hdrop : argv.drop arg = rest) :
    argAt argv (arg + index) = rest[index]? := by
  rw [argAt, ← hdrop, List.getElem?_drop]

theorem advanceArg_of_drop (hdrop : argv.drop arg = word :: tail) :
    advanceArg argv arg = .ok (arg + 1) := by
  have hlength : 0 < (argv.drop arg).length := by simp [hdrop]
  rw [List.length_drop] at hlength
  exact if_neg (by omega)

theorem deref_of_drop (hdrop : argv.drop arg = word :: value :: rest) :
    deref (argAt argv (arg + 1)) = .ok (value.charAt 0) := by
  rw [argAt_of_drop 1 hdrop]
  rfl

theorem deref_at_end (hdrop : argv.drop arg = [word]) :
    deref (argAt argv (arg + 1)) = .error .nullRead := by
  rw [argAt_of_drop 1 hdrop]
  rfl

theorem drop_tail (hdrop : argv.drop arg = words ++ rest) :
    argv.drop (arg + words.length) = rest := by
  rw [← List.drop_drop, hdrop, List.drop_left]

theorem qos_digit_cases (char : Char) :
    (∃ level : Wire.Qos, char = level.digit) ∨ char ≠ '0' ∧ char ≠ '1' ∧ char ≠ '2' := by
  by_cases hzero : char = '0'
  · exact .inl ⟨.atMostOnce, hzero⟩
  · by_cases hone : char = '1'
    · exact .inl ⟨.atLeastOnce, hone⟩
    · by_cases htwo : char = '2'
      · exact .inl ⟨.exactlyOnce, htwo⟩
      · exact .inr ⟨hzero, hone, htwo⟩

theorem readQos_of_digit (hdrop : argv.drop arg = word :: value :: rest)
    (hvalue : value.charAt 0 = level.digit) (settings : Settings) :
    readQos argv arg settings
      = .ok (arg + 1, { settings.withQos level with cleanSession := true }) := by
  rw [readQos, advanceArg_of_drop hdrop, ok_bind, deref_of_drop hdrop, ok_bind, hvalue]
  cases level <;> rfl

theorem readOption_of_loose (hloose : Loose words effect) (hdrop : argv.drop arg = words ++ rest)
    (settings : Settings) : ∃ word tail, words = word :: tail ∧ word.charAt 0 = '-' ∧
      readOption argv arg (word.charAt 1) settings = .ok (arg + tail.length, effect settings) := by
  cases hloose with
  | user hword =>
      refine ⟨_, _, rfl, hword.dash, ?_⟩
      rw [hword.letter, readOption, advanceArg_of_drop hdrop]
      exact congrArg (fun user => Except.ok (arg + 1, { settings with user })) (argAt_of_drop 1 hdrop)
  | password hword =>
      refine ⟨_, _, rfl, hword.dash, ?_⟩
      rw [hword.letter, readOption, advanceArg_of_drop hdrop]
      exact congrArg (fun pw => Except.ok (arg + 1, { settings with pw })) (argAt_of_drop 1 hdrop)
  | qos hword hvalue =>
      refine ⟨_, _, rfl, hword.dash, ?_⟩
      rw [hword.letter, readOption]
      exact readQos_of_digit hdrop hvalue settings
  | clean hword =>
      refine ⟨_, _, rfl, hword.dash, ?_⟩
      rw [hword.letter]
      rfl

/-- No option that `main` reads touches `errno`. -/
theorem Loose.errno (hloose : Loose words effect) (settings : Settings) :
    (effect settings).errno = settings.errno := by
  cases hloose with
  | qos hword hvalue =>
      rename_i level
      cases level <;> rfl
  | _ => rfl

theorem strtoul_errno {str : CString} {errno : Nat} (herrno : errno ≠ ENOMSG) :
    (strtoul str errno).2 ≠ ENOMSG := by
  unfold strtoul
  dsimp only
  generalize decimal _ = value
  split
  · decide
  · split
    · exact herrno
    · exact herrno

/-- `errno` is never the one that `case 'k'` asks for. -/
theorem readKeepAlive_of_drop (hdrop : argv.drop arg = word :: tail)
    (herrno : settings.errno ≠ ENOMSG) :
    readKeepAlive argv arg settings = .error (if tail = [] then .nullRead else .usage) := by
  rw [readKeepAlive, advanceArg_of_drop hdrop, ok_bind, argAt_of_drop 1 hdrop]
  cases tail with
  | nil => rfl
  | cons value tail => exact if_pos (strtoul_errno herrno)

theorem readQos_of_no_digit (hdrop : argv.drop arg = word :: value :: rest)
    (hvalue : value.charAt 0 ≠ '0' ∧ value.charAt 0 ≠ '1' ∧ value.charAt 0 ≠ '2') :
    readQos argv arg settings = .error .usage := by
  rw [readQos, advanceArg_of_drop hdrop, ok_bind, deref_of_drop hdrop, ok_bind]
  split
  · exact absurd ‹_› hvalue.1
  · exact absurd ‹_› hvalue.2.1
  · exact absurd ‹_› hvalue.2.2
  · rfl

theorem readQos_at_end (hdrop : argv.drop arg = [word]) :
    readQos argv arg settings = .error .nullRead := by
  rw [readQos, advanceArg_of_drop hdrop, ok_bind, deref_at_end hdrop, error_bind]

/-- It does not come to a read through the null pointer. -/
def Safe {α : Type} (scan : Scan α) : Prop := scan ≠ .error .nullRead

theorem Safe.bind {α β : Type} {scan : Scan α} {next : α → Scan β} (hscan : Safe scan)
    (hnext : ∀ value, Safe (next value)) : Safe (scan >>= next) := by
  cases scan with
  | ok value => exact hnext value
  | error exit =>
      intro heq
      obtain rfl := Except.error.inj heq
      exact hscan rfl

theorem safe_advanceArg : Safe (advanceArg argv arg) := by
  rw [advanceArg]
  split <;> nofun

theorem safe_readWillQos (char : Char) : Safe (readWillQos settings char) := by
  unfold readWillQos
  split <;> nofun

theorem safe_readWillRetain (char : Char) : Safe (readWillRetain settings char) := by
  unfold readWillRetain
  split <;> nofun

theorem readWillQos_of_no_digit {char : Char} (hchar : char ≠ '0' ∧ char ≠ '1' ∧ char ≠ '2') :
    readWillQos settings char = .error .usage := by
  unfold readWillQos
  split
  · exact absurd rfl hchar.1
  · exact absurd rfl hchar.2.1
  · exact absurd rfl hchar.2.2
  · rfl

/-- With two more words, none of the characters is missing. -/
theorem safe_readWill {flag : CString} (hdrop : argv.drop arg = word :: value :: flag :: rest) :
    Safe (readWill argv arg settings) := by
  have hnext : argv.drop (arg + 1) = value :: flag :: rest := @drop_tail argv [word] _ arg hdrop
  simp only [readWill, advanceArg_of_drop hdrop, ok_bind, deref_of_drop hdrop]
  refine (safe_readWillQos (value.charAt 0)).bind fun settings => ?_
  simp only [advanceArg_of_drop hnext, ok_bind, deref_of_drop hnext]
  refine (safe_readWillRetain (flag.charAt 0)).bind fun settings => ?_
  exact safe_advanceArg.bind fun arg => safe_advanceArg.bind fun arg => nofun

theorem readOption_will_eq : readOption argv arg 'W' settings
    = readWill argv arg settings >>= fun _ => .error .usage := rfl

/-- `case 'W'` reads through the null pointer if there is no QoS, -/
theorem readOption_will_at_end (hdrop : argv.drop arg = [word]) :
    readOption argv arg 'W' settings = .error .nullRead := by
  simp only [readOption_will_eq, readWill, advanceArg_of_drop hdrop, ok_bind, deref_at_end hdrop,
    error_bind]

/-- or if there is one and no retain flag; -/
theorem readOption_will_of_value (hdrop : argv.drop arg = [word, value]) :
    readOption argv arg 'W' settings
      = readWillQos { settings with lastWill := true } (value.charAt 0) >>= fun _ =>
          .error .nullRead := by
  have hnext : argv.drop (arg + 1) = [value] := @drop_tail argv [word] _ arg hdrop
  simp only [readOption_will_eq, readWill, advanceArg_of_drop hdrop, ok_bind, deref_of_drop hdrop,
    advanceArg_of_drop hnext, deref_at_end hnext, error_bind]
  cases readWillQos { settings with lastWill := true } (value.charAt 0) <;> rfl

/-- otherwise it ends with the usage message. -/
theorem readOption_will_of_words {flag : CString}
    (hdrop : argv.drop arg = word :: value :: flag :: rest) :
    readOption argv arg 'W' settings = .error .usage := by
  rw [readOption_will_eq]
  cases hwill : readWill argv arg settings with
  | ok result => rfl
  | error exit =>
      cases exit with
      | usage => rfl
      | nullRead => exact absurd hwill (safe_readWill hdrop)

/-- A `-W` that ends the arguments, or stands before one word, can end in the read. -/
theorem readOption_will_cases (hdrop : argv.drop arg = word :: tail) (hword : word.IsSwitch 'W') :
    readOption argv arg 'W' settings = .error .usage ∨
      (readOption argv arg 'W' settings = .error .nullRead ∧ Dangling (word :: tail)) := by
  match tail, hdrop with
  | [], hdrop => exact .inr ⟨readOption_will_at_end hdrop, .will hword⟩
  | [value], hdrop =>
      rw [readOption_will_of_value hdrop]
      obtain ⟨level, hlevel⟩ | hnone := qos_digit_cases (value.charAt 0)
      · refine .inr ⟨?_, .willQos hword hlevel⟩
        rw [hlevel]
        cases level <;> rfl
      · rw [readWillQos_of_no_digit hnone]
        exact .inl rfl
  | value :: flag :: rest, hdrop => exact .inl (readOption_will_of_words hdrop)

/-- What can come of a word that begins with a dash. -/
theorem readOption_cases (hdrop : argv.drop arg = word :: tail) (hdash : word.charAt 0 = '-')
    (herrno : settings.errno ≠ ENOMSG) :
    (∃ words rest effect, word :: tail = words ++ rest ∧ Loose words effect) ∨
      (∃ settings', readOption argv arg (word.charAt 1) settings = .ok (argv.length, settings')) ∨
      readOption argv arg (word.charAt 1) settings = .error .usage ∨
      (readOption argv arg (word.charAt 1) settings = .error .nullRead ∧
        Dangling (word :: tail)) := by
  have hend : tail = [] → arg + 1 = argv.length := by
    rintro rfl
    have hlength := congrArg List.length hdrop
    rw [List.length_drop, List.length_singleton] at hlength
    omega
  by_cases huser : word.charAt 1 = 'u'
  · cases tail with
    | cons value rest => exact .inl ⟨[word, value], rest, _, rfl, .user ⟨hdash, huser⟩⟩
    | nil =>
        refine .inr (.inl ?_)
        rw [huser, readOption, advanceArg_of_drop hdrop, ← hend rfl]
        exact ⟨_, rfl⟩
  by_cases hpassword : word.charAt 1 = 'p'
  · cases tail with
    | cons value rest => exact .inl ⟨[word, value], rest, _, rfl, .password ⟨hdash, hpassword⟩⟩
    | nil =>
        refine .inr (.inl ?_)
        rw [hpassword, readOption, advanceArg_of_drop hdrop, ← hend rfl]
        exact ⟨_, rfl⟩
  by_cases hkeepAlive : word.charAt 1 = 'k'
  · rw [hkeepAlive, readOption, readKeepAlive_of_drop hdrop herrno]
    cases tail with
    | nil => exact .inr (.inr (.inr ⟨rfl, .keepAlive ⟨hdash, hkeepAlive⟩⟩))
    | cons value rest => exact .inr (.inr (.inl rfl))
  by_cases hqos : word.charAt 1 = 'q'
  · cases tail with
    | nil =>
        rw [hqos, readOption, readQos_at_end hdrop]
        exact .inr (.inr (.inr ⟨rfl, .qos ⟨hdash, hqos⟩⟩))
    | cons value rest =>
        obtain ⟨level, hlevel⟩ | hnone := qos_digit_cases (value.charAt 0)
        · exact .inl ⟨[word, value], rest, _, rfl, .qos ⟨hdash, hqos⟩ hlevel⟩
        · rw [hqos, readOption, readQos_of_no_digit hdrop hnone]
          exact .inr (.inr (.inl rfl))
  by_cases hclean : word.charAt 1 = 'c'
  · exact .inl ⟨[word], tail, _, rfl, .clean ⟨hdash, hclean⟩⟩
  by_cases hwill : word.charAt 1 = 'W'
  · rw [hwill]
    exact .inr (.inr (readOption_will_cases hdrop ⟨hdash, hwill⟩))
  · refine .inr (.inr (.inl ?_))
    unfold readOption
    split <;> first | contradiction | rfl

end Option

/-! ### The loop over the options -/

/-- The options from some place on, and the positional arguments. -/
def readRest (argv : List CString) (fuel arg : Nat) (settings : Settings) : Scan Settings :=
  optionLoop argv fuel arg settings >>= fun read => readPositionals argv read.1 read.2

section Loop

variable {argv words rest extra : List CString} {arg fuel : Nat} {word host clientId topic : CString}
  {settings : Settings} {effect effects : Settings → Settings}

theorem Loose.ne_nil (hloose : Loose words effect) : words ≠ [] := by
  cases hloose <;> simp

theorem optionLoop_of_loose (hloose : Loose words effect) (hdrop : argv.drop arg = words ++ rest)
    (fuel : Nat) (settings : Settings) :
    optionLoop argv (fuel + 1) arg settings
      = optionLoop argv fuel (arg + words.length) (effect settings) := by
  obtain ⟨word, tail, rfl, hdash, hread⟩ := readOption_of_loose hloose hdrop settings
  have hword : argAt argv arg = some word := argAt_of_drop 0 hdrop
  simp only [optionLoop, hword, if_pos hdash, hread]
  rfl

theorem optionLoop_of_looseOptions (hloose : LooseOptions words effects)
    (hdrop : argv.drop arg = words ++ rest) (hfuel : words.length ≤ fuel) (settings : Settings) :
    ∃ spare, fuel ≤ words.length + spare ∧
      optionLoop argv fuel arg settings
        = optionLoop argv spare (arg + words.length) (effects settings) := by
  induction hloose generalizing arg fuel settings with
  | nil => exact ⟨fuel, by simp, rfl⟩
  | @cons first words effect effects hfirst _ ih =>
      have hpositive := List.length_pos_of_ne_nil hfirst.ne_nil
      rw [List.length_append] at hfuel
      rw [List.append_assoc] at hdrop
      obtain ⟨fuel, rfl⟩ : ∃ fuel', fuel = fuel' + 1 := ⟨fuel - 1, by omega⟩
      obtain ⟨spare, hspare, hloop⟩ :=
        ih (drop_tail hdrop) (show words.length ≤ fuel by omega) (effect settings)
      refine ⟨spare, by rw [List.length_append]; omega, ?_⟩
      rw [optionLoop_of_loose hfirst hdrop, hloop, List.length_append, Nat.add_assoc]
      rfl

theorem LooseOptions.errno (hloose : LooseOptions words effects) (settings : Settings) :
    (effects settings).errno = settings.errno := by
  induction hloose generalizing settings with
  | nil => rfl
  | cons hfirst _ ih => exact (ih _).trans (hfirst.errno settings)

/-- The loop stops at a word that does not begin with a dash. -/
theorem optionLoop_stops (hdrop : argv.drop arg = word :: rest) (hdash : word.charAt 0 ≠ '-')
    (fuel : Nat) : optionLoop argv fuel arg settings = .ok (arg, settings) := by
  have hword : argAt argv arg = some word := argAt_of_drop 0 hdrop
  cases fuel with
  | zero => rfl
  | succ fuel => simp only [optionLoop, hword, if_neg hdash]

theorem optionLoop_at_end (hend : argv.length ≤ arg) (fuel : Nat) :
    optionLoop argv fuel arg settings = .ok (arg, settings) := by
  have hnone : argAt argv arg = none := List.getElem?_eq_none hend
  cases fuel with
  | zero => rfl
  | succ fuel => simp only [optionLoop, hnone]

theorem readRest_of_loose (hloose : Loose words effect) (hdrop : argv.drop arg = words ++ rest)
    (fuel : Nat) (settings : Settings) :
    readRest argv (fuel + 1) arg settings
      = readRest argv fuel (arg + words.length) (effect settings) := by
  rw [readRest, readRest, optionLoop_of_loose hloose hdrop]

/-- An option that cannot be read ends everything. -/
theorem readRest_of_error {exit : Exit} (hdrop : argv.drop arg = word :: rest)
    (hdash : word.charAt 0 = '-')
    (hread : readOption argv arg (word.charAt 1) settings = .error exit) (fuel : Nat) :
    readRest argv (fuel + 1) arg settings = .error exit := by
  have hword : argAt argv arg = some word := argAt_of_drop 0 hdrop
  simp only [readRest, optionLoop, hword, if_pos hdash, hread, error_bind]

theorem readRest_at_end (hend : argv.length ≤ arg) (fuel : Nat) :
    readRest argv fuel arg settings = .error .usage := by
  rw [readRest, optionLoop_at_end hend]
  exact if_pos (by omega)

theorem readRest_of_few (hdrop : argv.drop arg = word :: rest) (hdash : word.charAt 0 ≠ '-')
    (hfew : rest.length ≤ 1) (fuel : Nat) : readRest argv fuel arg settings = .error .usage := by
  have hlength := congrArg List.length hdrop
  rw [List.length_drop, List.length_cons] at hlength
  rw [readRest, optionLoop_stops hdrop hdash]
  exact if_pos (by omega)

theorem readRest_of_positionals (hdrop : argv.drop arg = host :: clientId :: topic :: extra)
    (hdash : host.charAt 0 ≠ '-') (fuel : Nat) :
    readRest argv fuel arg settings
      = .ok { readHost settings host with clientId := some clientId, topic := some topic } := by
  have hlength := congrArg List.length hdrop
  simp only [List.length_drop, List.length_cons] at hlength
  rw [readRest, optionLoop_stops hdrop hdash]
  change readPositionals argv arg settings = _
  have hhost : argAt argv arg = some host := argAt_of_drop 0 hdrop
  have hclientId : argAt argv (arg + 1) = some clientId := argAt_of_drop 1 hdrop
  have htopic : argAt argv (arg + 2) = some topic := argAt_of_drop 2 hdrop
  rw [readPositionals, if_neg (by omega), hhost, hclientId, htopic]

theorem readRest_of_dangling (hdangling : Dangling rest) (hdrop : argv.drop arg = rest)
    (herrno : settings.errno ≠ ENOMSG) (fuel : Nat) :
    readRest argv (fuel + 1) arg settings = .error .nullRead := by
  cases hdangling with
  | keepAlive hword =>
      refine readRest_of_error hdrop hword.dash ?_ fuel
      rw [hword.letter, readOption, readKeepAlive_of_drop hdrop herrno]
      rfl
  | qos hword =>
      refine readRest_of_error hdrop hword.dash ?_ fuel
      rw [hword.letter, readOption, readQos_at_end hdrop]
  | will hword =>
      refine readRest_of_error hdrop hword.dash ?_ fuel
      rw [hword.letter, readOption_will_at_end hdrop]
  | @willQos word value hword level hvalue =>
      refine readRest_of_error hdrop hword.dash ?_ fuel
      rw [hword.letter, readOption_will_of_value hdrop, hvalue]
      cases level <;> rfl

/-- The options come to positional arguments, to the usage message, or to a read through the null
pointer. -/
theorem readRest_cases (hfuel : (argv.drop arg).length ≤ fuel) (herrno : settings.errno ≠ ENOMSG) :
    (∃ words effects host clientId topic extra, LooseOptions words effects ∧
        argv.drop arg = words ++ host :: clientId :: topic :: extra ∧ host.charAt 0 ≠ '-') ∨
      readRest argv fuel arg settings = .error .usage ∨
      (readRest argv fuel arg settings = .error .nullRead ∧
        ∃ words effects rest, LooseOptions words effects ∧ argv.drop arg = words ++ rest ∧
          Dangling rest) := by
  induction fuel generalizing arg settings with
  | zero =>
      rw [List.length_drop] at hfuel
      exact .inr (.inl (readRest_at_end (by omega) 0))
  | succ fuel ih =>
      cases hdrop : argv.drop arg with
      | nil => exact .inr (.inl (readRest_at_end (List.drop_eq_nil_iff.mp hdrop) _))
      | cons word tail =>
          have hword : argAt argv arg = some word := argAt_of_drop 0 hdrop
          by_cases hdash : word.charAt 0 = '-'
          · obtain ⟨words, rest, effect, hsplit, hloose⟩ | ⟨settings', hread⟩ | hread |
              ⟨hread, hdangling⟩ := readOption_cases hdrop hdash herrno
            · rw [hsplit] at hdrop
              have hnext := drop_tail hdrop
              have hrun := readRest_of_loose hloose hdrop fuel settings
              have hpositive := List.length_pos_of_ne_nil hloose.ne_nil
              rw [List.length_drop] at hfuel
              rw [hsplit, hrun]
              obtain ⟨words', effects, host, clientId, topic, extra, hwords', hrest, hhost⟩ | husage |
                ⟨hnull, words', effects, rest', hwords', hrest, hdangling⟩ :=
                @ih (arg + words.length) (effect settings) (by rw [List.length_drop]; omega)
                  ((hloose.errno settings).trans_ne herrno)
              · refine .inl ⟨words ++ words', effects ∘ effect, host, clientId, topic, extra,
                  .cons hloose hwords', ?_, hhost⟩
                rw [← hnext, hrest, List.append_assoc]
              · exact .inr (.inl husage)
              · refine .inr (.inr ⟨hnull, words ++ words', effects ∘ effect, rest',
                  .cons hloose hwords', ?_, hdangling⟩)
                rw [← hnext, hrest, List.append_assoc]
            · refine .inr (.inl ?_)
              simp only [readRest, optionLoop, hword, if_pos hdash, hread]
              exact readRest_at_end (Nat.le_succ _) fuel
            · exact .inr (.inl (readRest_of_error hdrop hdash hread fuel))
            · exact .inr (.inr
                ⟨readRest_of_dangling hdangling hdrop herrno fuel, [], id, _, .nil, rfl, hdangling⟩)
          · match tail, hdrop with
            | clientId :: topic :: extra, hdrop =>
                exact .inl ⟨[], id, word, clientId, topic, extra, .nil, rfl, hdash⟩
            | [], hdrop => exact .inr (.inl (readRest_of_few hdrop hdash (by simp) _))
            | [clientId], hdrop => exact .inr (.inl (readRest_of_few hdrop hdash (by simp) _))

end Loop

/-! ### All arguments -/

/-- How a command line begins. -/
inductive OperationWords : List CString → (Settings → Settings) → Prop
  | publish (message : CString) : OperationWords [publishSwitch, message] fun settings =>
      { settings with operation := .publish, publishMessage := some message }
  | subscribe : OperationWords [subscribeSwitch] fun settings =>
      { settings with operation := .subscribe }

/-- Arguments that `main` accepts: options with anything behind their letter and behind the digit of a
QoS, a host that does not begin with a dash, and anything behind the topic. -/
def LooseLine (arguments : List CString) : Prop :=
  ∃ operation start words effects host clientId topic extra, OperationWords operation start ∧
    LooseOptions words effects ∧ host.charAt 0 ≠ '-' ∧
    arguments = operation ++ (words ++ host :: clientId :: topic :: extra)

/-- Arguments that end in the middle of an option that `main` reads through the null pointer for. -/
def DanglingLine (arguments : List CString) : Prop :=
  ∃ operation start words effects rest, OperationWords operation start ∧
    LooseOptions words effects ∧ Dangling rest ∧ arguments = operation ++ (words ++ rest)

section Main

variable {argv operation words rest : List CString} {start effects : Settings → Settings}
  {program : CString}

theorem readOperation_of_words (hoperation : OperationWords operation start) (settings : Settings) :
    readOperation (program :: (operation ++ rest)) settings
      = .ok (1 + operation.length, start settings) := by
  cases hoperation with
  | publish message =>
      have hfirst : argAt (program :: ([publishSwitch, message] ++ rest)) 1 = some publishSwitch :=
        rfl
      rw [readOperation, if_pos hfirst, if_neg (by simp)]
      rfl
  | subscribe =>
      have hfirst : argAt (program :: ([subscribeSwitch] ++ rest)) 1 = some subscribeSwitch := rfl
      rw [readOperation, hfirst, if_neg (by decide), if_pos rfl]
      rfl

theorem main_of_operation (hoperation : OperationWords operation start) :
    main (program :: (operation ++ rest))
      = readRest (program :: (operation ++ rest)) (program :: (operation ++ rest)).length
          (1 + operation.length) (start initialSettings) := by
  have hlong : 1 < (program :: (operation ++ rest)).length := by
    cases hoperation <;> simp
  rw [main, if_pos hlong, readOperation_of_words hoperation]
  rfl

theorem drop_operation :
    (program :: (operation ++ rest)).drop (1 + operation.length) = rest := by
  rw [Nat.add_comm, List.drop_succ_cons, List.drop_left]

theorem errno_start (hoperation : OperationWords operation start) :
    (start initialSettings).errno ≠ ENOMSG := by
  have herrno : initialSettings.errno ≠ ENOMSG := by decide
  cases hoperation <;> exact herrno

/-- Without `-P` and its message, and without `-S`, there is only the usage message. -/
theorem main_cases_operation (argv : List CString) :
    main argv = .error .usage ∨ ∃ program operation start rest,
      OperationWords operation start ∧ argv = program :: (operation ++ rest) := by
  match argv with
  | [] => exact .inl rfl
  | [_] => exact .inl rfl
  | program :: first :: rest =>
      by_cases hpublish : first = publishSwitch
      · subst hpublish
        cases rest with
        | nil => exact .inl rfl
        | cons message rest => exact .inr ⟨program, _, _, rest, .publish message, rfl⟩
      by_cases hsubscribe : first = subscribeSwitch
      · subst hsubscribe
        exact .inr ⟨program, _, _, rest, .subscribe, rfl⟩
      · refine .inl ?_
        have hfirst : argAt (program :: first :: rest) 1 = some first := rfl
        rw [main, if_pos (by simp), readOperation, hfirst, if_neg (by simpa using hpublish),
          if_neg (by simpa using hsubscribe)]
        rfl

theorem main_cases (argv : List CString) :
    LooseLine argv.tail ∨ main argv = .error .usage ∨ DanglingLine argv.tail := by
  obtain husage | ⟨program, operation, start, rest, hoperation, rfl⟩ := main_cases_operation argv
  · exact .inr (.inl husage)
  · have hfuel : ((program :: (operation ++ rest)).drop (1 + operation.length)).length
        ≤ (program :: (operation ++ rest)).length := by
      rw [List.length_drop]
      exact Nat.sub_le _ _
    obtain ⟨words, effects, host, clientId, topic, extra, hwords, hrest, hhost⟩ | husage |
      ⟨-, words, effects, rest', hwords, hrest, hdangling⟩ :=
        readRest_cases hfuel (errno_start hoperation)
    · rw [drop_operation] at hrest
      exact .inl ⟨operation, start, words, effects, host, clientId, topic, extra, hoperation, hwords,
        hhost, by rw [List.tail_cons, hrest]⟩
    · exact .inr (.inl ((main_of_operation hoperation).trans husage))
    · rw [drop_operation] at hrest
      exact .inr (.inr ⟨operation, start, words, effects, rest', hoperation, hwords, hdangling,
        by rw [List.tail_cons, hrest]⟩)

/-- The options are read, and then the rest. -/
theorem main_of_looseOptions (hoperation : OperationWords operation start)
    (hwords : LooseOptions words effects) (hrest : rest ≠ [])
    (harguments : argv.tail = operation ++ (words ++ rest)) : ∃ spare arg,
    main argv = readRest argv (spare + 1) arg (effects (start initialSettings)) ∧
      argv.drop arg = rest ∧ rest.length ≤ spare + 1 ∧
      (effects (start initialSettings)).errno ≠ ENOMSG := by
  obtain ⟨program, rfl⟩ : ∃ program, argv = program :: (operation ++ (words ++ rest)) := by
    cases argv with
    | nil => cases hoperation <;> simp at harguments
    | cons program arguments => exact ⟨program, congrArg (program :: ·) harguments⟩
  have hdrop := @drop_operation operation (words ++ rest) program
  have hlong : words.length + rest.length ≤ (program :: (operation ++ (words ++ rest))).length := by
    simp only [List.length_cons, List.length_append]
    omega
  have hpositive := List.length_pos_of_ne_nil hrest
  obtain ⟨spare, hspare, hloop⟩ := optionLoop_of_looseOptions hwords hdrop
    ((Nat.le_add_right _ _).trans hlong) (start initialSettings)
  obtain ⟨spare, rfl⟩ : ∃ spare', spare = spare' + 1 := ⟨spare - 1, by omega⟩
  refine ⟨spare, _, ?_, drop_tail hdrop, by omega, ?_⟩
  · rw [main_of_operation hoperation, readRest, hloop]
    rfl
  · exact (hwords.errno _).trans_ne (errno_start hoperation)

theorem main_of_looseLine (hline : LooseLine argv.tail) : ∃ settings, main argv = .ok settings := by
  obtain ⟨operation, start, words, effects, host, clientId, topic, extra, hoperation, hwords, hhost,
    harguments⟩ := hline
  obtain ⟨spare, arg, hmain, hdrop, -, -⟩ :=
    main_of_looseOptions hoperation hwords (List.cons_ne_nil _ _) harguments
  exact ⟨_, hmain.trans (readRest_of_positionals hdrop hhost _)⟩

theorem main_of_danglingLine (hline : DanglingLine argv.tail) : main argv = .error .nullRead := by
  obtain ⟨operation, start, words, effects, rest, hoperation, hwords, hdangling, harguments⟩ := hline
  have hrest : rest ≠ [] := by cases hdangling <;> simp
  obtain ⟨spare, arg, hmain, hdrop, -, herrno⟩ :=
    main_of_looseOptions hoperation hwords hrest harguments
  exact hmain.trans (readRest_of_dangling hdangling hdrop herrno _)

end Main

/-! ### The lines of the usage message -/

/-- `main` gets through this option, and does not end with the usage message. -/
def UsageOption.supported : UsageOption → Bool
  | keepAlive _ => false
  | will _ _ _ _ => false
  | _ => true

def UsageOption.isClean : UsageOption → Bool
  | clean => true
  | _ => false

/-- What `main` takes for a clean session. -/
def UsageOption.setsClean : UsageOption → Bool
  | qos _ => true
  | clean => true
  | _ => false

/-- A line that `main` reads as it is meant. -/
structure UsageLine.Plain (line : UsageLine) : Prop where
  options : ∀ option ∈ line.options, option.supported
  clean : (∃ level, .qos level ∈ line.options) → .clean ∈ line.options
  host : line.host.charAt 0 ≠ '-'
  port : line.port = none

section Lines

variable {option : UsageOption} {options : List UsageOption} {line : UsageLine}
  {argv : List CString}

theorem loose_of_supported (hoption : option.supported) : ∃ effect, Loose option.words effect ∧
    ∀ settings, (effect settings).connectArgs = { option.give settings.connectArgs with
      cleanSession := settings.cleanSession || option.setsClean } := by
  cases option with
  | user userid => exact ⟨_, .user ⟨rfl, rfl⟩, fun settings => by simp [Settings.connectArgs,
      UsageOption.give, UsageOption.setsClean]⟩
  | password pw => exact ⟨_, .password ⟨rfl, rfl⟩, fun settings => by simp [Settings.connectArgs,
      UsageOption.give, UsageOption.setsClean]⟩
  | qos level =>
      refine ⟨_, .qos ⟨rfl, rfl⟩ (show level.word.charAt 0 = level.digit by cases level <;> rfl),
        fun settings => ?_⟩
      cases level <;> simp [Settings.connectArgs, Settings.withQos, UsageOption.give,
        UsageOption.setsClean]
  | clean => exact ⟨_, .clean ⟨rfl, rfl⟩, fun settings => by simp [Settings.connectArgs,
      UsageOption.give, UsageOption.setsClean]⟩
  | keepAlive seconds => simp [UsageOption.supported] at hoption
  | will level retain topic message => simp [UsageOption.supported] at hoption

theorem foldl_give_cleanSession (call : SmqttConnectArgs) (options : List UsageOption) :
    (options.foldl UsageOption.give call).cleanSession
      = (call.cleanSession || options.any UsageOption.isClean) := by
  induction options generalizing call with
  | nil => simp
  | cons option options ih =>
      rw [List.foldl_cons, ih]
      cases option <;> simp [UsageOption.give, UsageOption.isClean]

theorem foldl_give_port (call : SmqttConnectArgs) (options : List UsageOption) :
    (options.foldl UsageOption.give call).port = call.port := by
  induction options generalizing call with
  | nil => rfl
  | cons option options ih =>
      rw [List.foldl_cons, ih]
      cases option <;> rfl

theorem any_setsClean_eq_iff : options.any UsageOption.setsClean = options.any UsageOption.isClean ↔
    ((∃ level, .qos level ∈ options) → .clean ∈ options) := by
  have hclean : options.any UsageOption.isClean = true ↔ .clean ∈ options := by
    rw [List.any_eq_true]
    refine ⟨fun ⟨option, hmem, hoption⟩ => ?_, fun hmem => ⟨.clean, hmem, rfl⟩⟩
    cases option <;> simp_all [UsageOption.isClean]
  have hsets : options.any UsageOption.setsClean = true ↔
      (∃ level, .qos level ∈ options) ∨ .clean ∈ options := by
    rw [List.any_eq_true]
    constructor
    · rintro ⟨option, hmem, hoption⟩
      cases option with
      | qos level => exact .inl ⟨level, hmem⟩
      | clean => exact .inr hmem
      | _ => simp [UsageOption.setsClean] at hoption
    · rintro (⟨level, hmem⟩ | hmem)
      · exact ⟨_, hmem, rfl⟩
      · exact ⟨_, hmem, rfl⟩
  rw [Bool.eq_iff_iff, hsets, hclean]
  exact ⟨fun hiff hqos => hiff.mp (.inl hqos), fun himp =>
    ⟨fun hor => hor.elim himp id, .inr⟩⟩

/-- But for the clean session, it does not matter what it was before. -/
theorem foldl_give_withClean (call : SmqttConnectArgs) (options : List UsageOption)
    (before after : Bool) :
    { options.foldl UsageOption.give { call with cleanSession := before } with cleanSession := after }
      = { options.foldl UsageOption.give call with cleanSession := after } := by
  induction options generalizing call before with
  | nil => rfl
  | cons option options ih =>
      have hgive : option.give { call with cleanSession := before } = { option.give call with
          cleanSession := (option.give { call with cleanSession := before }).cleanSession } := by
        cases option <;> rfl
      rw [List.foldl_cons, hgive, ih]
      rfl

theorem looseOptions_of_supported (hoptions : ∀ option ∈ options, option.supported) :
    ∃ effects, LooseOptions (options.flatMap UsageOption.words) effects ∧
      ∀ settings, (effects settings).connectArgs
        = { options.foldl UsageOption.give settings.connectArgs with
          cleanSession := settings.cleanSession || options.any UsageOption.setsClean } := by
  induction options with
  | nil => exact ⟨id, .nil, fun settings => by simp [Settings.connectArgs]⟩
  | cons option options ih =>
      obtain ⟨hoption, hoptions⟩ := List.forall_mem_cons.mp hoptions
      obtain ⟨effect, hloose, heffect⟩ := loose_of_supported hoption
      obtain ⟨effects, hlooses, heffects⟩ := ih hoptions
      refine ⟨effects ∘ effect, .cons hloose hlooses, fun settings => ?_⟩
      have hclean : (effect settings).cleanSession = (settings.cleanSession || option.setsClean) :=
        congrArg SmqttConnectArgs.cleanSession (heffect settings)
      rw [Function.comp_apply, heffects, heffect, hclean, List.foldl_cons, List.any_cons,
        ← Bool.or_assoc]
      exact foldl_give_withClean _ _ _ _

theorem strchr_of_notMem {str : CString} {char : UInt8} (hnotMem : char ∉ str.bytes) :
    strchr str char = none :=
  if_neg hnotMem

theorem strchr_of_mem {str : CString} {char : UInt8} (hmem : char ∈ str.bytes) :
    ∃ pos, strchr str char = some pos ∧ char ∈ pos.bytes := by
  have hindex : str.bytes.findIdx (· = char) < str.bytes.length :=
    List.findIdx_lt_length_of_exists ⟨char, hmem, by simp⟩
  have hfound : str.bytes[str.bytes.findIdx (· = char)] = char := by
    simpa using List.findIdx_getElem (w := hindex)
  refine ⟨_, if_pos hmem, ?_⟩
  change char ∈ str.bytes.drop (str.bytes.findIdx (· = char))
  rw [List.drop_eq_getElem_cons hindex, hfound]
  exact List.mem_cons_self

theorem charAt_hostPort (line : UsageLine) :
    line.hostPort.charAt 0 = '-' ↔ line.host.charAt 0 = '-' := by
  unfold UsageLine.hostPort
  split
  · rfl
  · rename_i port _
    change Char.ofNat ((line.host.bytes ++ 58 :: port.digits).getD 0 0).toNat = '-' ↔
      Char.ofNat (line.host.bytes.getD 0 0).toNat = '-'
    cases line.host.bytes with
    | nil =>
        change Char.ofNat (58 : UInt8).toNat = '-' ↔ Char.ofNat (0 : UInt8).toNat = '-'
        decide
    | cons byte bytes => rfl

theorem exists_operationWords (line : UsageLine) : ∃ start, OperationWords line.operation start ∧
    (start initialSettings).connectArgs = initialSettings.connectArgs := by
  rw [UsageLine.operation]
  cases line.message with
  | none => exact ⟨_, .subscribe, rfl⟩
  | some message => exact ⟨_, .publish message, rfl⟩

theorem words_eq (line : UsageLine) : line.words = line.operation ++
    (line.options.flatMap UsageOption.words ++ [line.hostPort, line.clientId, line.topic]) := by
  rw [UsageLine.words, List.append_assoc]

/-- The options do not touch the server and the client id. -/
theorem call_eq (line : UsageLine) : line.call
    = { line.options.foldl UsageOption.give initialSettings.connectArgs with
        serverIp := line.host
        port := UInt32.ofNat ((line.port.map Number.value).getD 1883)
        clientId := some line.clientId } := by
  let place (call : SmqttConnectArgs) : SmqttConnectArgs := { call with
    serverIp := line.host
    port := UInt32.ofNat ((line.port.map Number.value).getD 1883)
    clientId := some line.clientId }
  have hgive (call : SmqttConnectArgs) (option : UsageOption) :
      option.give (place call) = place (option.give call) := by
    cases option <;> rfl
  exact @List.foldl_hom _ _ _ place UsageOption.give UsageOption.give line.options
    initialSettings.connectArgs hgive

/-- What `main` calls on a line whose options it supports, if the host is not taken for one. -/
theorem main_of_supported (harguments : argv.tail = line.words)
    (hoptions : ∀ option ∈ line.options, option.supported) (hhost : line.host.charAt 0 ≠ '-') :
    ∃ settings, main argv = .ok { readHost settings line.hostPort with
        clientId := some line.clientId, topic := some line.topic } ∧
      settings.connectArgs
        = { line.options.foldl UsageOption.give initialSettings.connectArgs with
          cleanSession := line.options.any UsageOption.setsClean } := by
  obtain ⟨start, hoperation, hstart⟩ := exists_operationWords line
  obtain ⟨effects, hwords, heffects⟩ := looseOptions_of_supported hoptions
  obtain ⟨spare, arg, hmain, hdrop, -, -⟩ := main_of_looseOptions hoperation hwords
    (List.cons_ne_nil _ _) (harguments.trans (words_eq line))
  refine ⟨effects (start initialSettings), ?_, ?_⟩
  · have hdash : line.hostPort.charAt 0 ≠ '-' := fun hdash => hhost ((charAt_hostPort line).mp hdash)
    exact hmain.trans (readRest_of_positionals hdrop hdash _)
  · have hclean : (start initialSettings).cleanSession = false :=
      congrArg SmqttConnectArgs.cleanSession hstart
    rw [heffects, hstart, hclean, Bool.false_or]

theorem readRest_of_unsupported {rest : List CString} {arg : Nat} {settings : Settings}
    (hoption : option.supported = false) (hdrop : argv.drop arg = option.words ++ rest)
    (herrno : settings.errno ≠ ENOMSG) (fuel : Nat) :
    readRest argv (fuel + 1) arg settings = .error .usage := by
  have hread {word : CString} {tail : List CString} (hwords : option.words = word :: tail)
      (hdash : word.charAt 0 = '-')
      (hread : readOption argv arg (word.charAt 1) settings = .error .usage) :
      readRest argv (fuel + 1) arg settings = .error .usage := by
    rw [hwords] at hdrop
    have hword : argAt argv arg = some word := argAt_of_drop 0 hdrop
    simp only [readRest, optionLoop, hword, if_pos hdash, hread]
    rfl
  cases option with
  | keepAlive seconds => exact hread rfl rfl (readKeepAlive_of_drop hdrop herrno)
  | will level retain topic message => exact hread rfl rfl (readOption_will_of_words hdrop)
  | _ => simp [UsageOption.supported] at hoption

/-- An option that is not supported ends in the usage message. -/
theorem main_of_unsupported (harguments : argv.tail = line.words)
    (hoptions : ¬ ∀ option ∈ line.options, option.supported) : main argv = .error .usage := by
  have hexists : ∃ option ∈ line.options, ¬ option.supported := by simpa using hoptions
  obtain ⟨left, option, right, hsplit, hleft, hoption⟩ := FirstItem.exists_split hexists
  obtain ⟨start, hoperation, -⟩ := exists_operationWords line
  obtain ⟨effects, hwords, -⟩ := @looseOptions_of_supported left
    fun option hmem => not_not.mp (hleft option hmem)
  have hne : option.words ≠ [] := by cases option <;> simp [UsageOption.words]
  have hrest : argv.tail = line.operation ++ (left.flatMap UsageOption.words ++ (option.words ++
      (right.flatMap UsageOption.words ++ [line.hostPort, line.clientId, line.topic]))) := by
    simp [harguments, words_eq, hsplit]
  obtain ⟨spare, arg, hmain, hdrop, -, herrno⟩ := main_of_looseOptions hoperation hwords
    (List.append_ne_nil_of_left_ne_nil hne _) hrest
  exact hmain.trans (readRest_of_unsupported (Bool.eq_false_of_not_eq_true hoption) hdrop herrno _)

/-- A host that begins with a dash is taken for an option, and too few words are left. -/
theorem not_connects_of_dash (harguments : argv.tail = line.words)
    (hoptions : ∀ option ∈ line.options, option.supported) (hhost : line.host.charAt 0 = '-') :
    ∃ exit, main argv = .error exit := by
  obtain ⟨start, hoperation, -⟩ := exists_operationWords line
  obtain ⟨effects, hwords, -⟩ := looseOptions_of_supported hoptions
  obtain ⟨spare, arg, hmain, hdrop, hspare, herrno⟩ := main_of_looseOptions hoperation hwords
    (List.cons_ne_nil _ _) (harguments.trans (words_eq line))
  rw [hmain]
  obtain ⟨words, effects', host, clientId, topic, extra, hwords', hrest, hdash⟩ | husage |
    ⟨hnull, -⟩ := readRest_cases (hdrop ▸ hspare) herrno
  · rw [hdrop] at hrest
    have hlength := congrArg List.length hrest
    simp only [List.length_append, List.length_cons, List.length_nil] at hlength
    obtain rfl : words = [] := List.length_eq_zero_iff.mp (by omega)
    obtain ⟨rfl, -⟩ := List.cons.inj hrest
    exact absurd ((charAt_hostPort line).mpr hhost) hdash
  · exact ⟨_, husage⟩
  · exact ⟨_, hnull⟩

theorem connects_iff_plain (harguments : argv.tail = line.words) :
    Connects argv line.call ↔ line.Plain := by
  by_cases hoptions : ∀ option ∈ line.options, option.supported
  swap
  · refine iff_of_false (fun ⟨settings, hmain, _⟩ => ?_) fun hplain => hoptions hplain.options
    rw [main_of_unsupported harguments hoptions] at hmain
    cases hmain
  by_cases hhost : line.host.charAt 0 = '-'
  · refine iff_of_false (fun ⟨settings, hmain, _⟩ => ?_) fun hplain => hplain.host hhost
    obtain ⟨exit, hexit⟩ := not_connects_of_dash harguments hoptions hhost
    rw [hexit] at hmain
    cases hmain
  obtain ⟨settings, hmain, hcall⟩ := main_of_supported harguments hoptions hhost
  have hconnects : Connects argv line.call ↔ ({ readHost settings line.hostPort with
      clientId := some line.clientId, topic := some line.topic } : Settings).connectArgs
        = line.call := by
    simp [Connects, hmain]
  rw [hconnects]
  cases hport : line.port with
  | some port =>
      have hhostPort : line.hostPort.bytes = line.host.bytes ++ 58 :: port.digits := by
        simp [UsageLine.hostPort, hport]
      obtain ⟨pos, hpos, hmem⟩ := @strchr_of_mem line.hostPort 58 (by simp [hhostPort])
      refine iff_of_false (fun heq => line.noColon ?_) fun hplain => by simp [hplain.port] at hport
      have hserver : pos = line.host := by
        have hserverIp := congrArg SmqttConnectArgs.serverIp heq
        rw [call_eq, readHost, hpos] at hserverIp
        exact hserverIp
      rwa [hserver] at hmem
  | none =>
      have hhostPort : line.hostPort = line.host := by simp [UsageLine.hostPort, hport]
      have hread : ({ readHost settings line.hostPort with
          clientId := some line.clientId, topic := some line.topic } : Settings).connectArgs
            = { settings.connectArgs with
              serverIp := line.host, clientId := some line.clientId } := by
        rw [hhostPort, readHost, strchr_of_notMem line.noColon]
        rfl
      have hpayload : (line.options.foldl UsageOption.give initialSettings.connectArgs).port = 1883 :=
        foldl_give_port initialSettings.connectArgs line.options
      have hclean : (line.options.foldl UsageOption.give initialSettings.connectArgs).cleanSession
          = line.options.any UsageOption.isClean := foldl_give_cleanSession _ _
      rw [hread, hcall, call_eq, hport]
      refine ⟨fun heq => ⟨hoptions, ?_, hhost, hport⟩, fun hplain => ?_⟩
      · have hsession := congrArg SmqttConnectArgs.cleanSession heq
        exact any_setsClean_eq_iff.mp (hsession.trans hclean)
      · rw [any_setsClean_eq_iff.mpr hplain.clean, ← hclean]
        simp [hpayload]

end Lines

/-- Where `main` is neither more liberal than the usage message, nor stricter, nor reads through the
null pointer. -/
structure AsUsage (argv : List CString) : Prop where
  plain : ∀ line : UsageLine, argv.tail = line.words → line.Plain
  strict : LooseLine argv.tail → ∃ line : UsageLine, argv.tail = line.words
  complete : ¬ DanglingLine argv.tail

/-- **The command line.** On any arguments at all, `main` connects as a line of the usage message
asks, or prints the message, exactly if the arguments are no line that it does not read as it is meant,
none that it accepts without their being a line, and do not break off where it reads on. -/
theorem conforms_iff (argv : List CString) : Conforms argv ↔ AsUsage argv := by
  constructor
  · intro hconforms
    refine ⟨fun line hline => (connects_iff_plain hline).mp (hconforms.generated line hline),
      fun hloose => ?_, fun hdangling => ?_⟩
    · obtain ⟨settings, hmain⟩ := main_of_looseLine hloose
      obtain ⟨line, hline, -⟩ | husage := hconforms.otherwise
      · exact ⟨line, hline⟩
      · rw [hmain] at husage
        cases husage
    · have hmain := main_of_danglingLine hdangling
      obtain ⟨line, -, settings, hok, -⟩ | husage := hconforms.otherwise
      · rw [hmain] at hok
        cases hok
      · rw [hmain] at husage
        cases husage
  · intro husage
    refine ⟨fun line hline => (connects_iff_plain hline).mpr (husage.plain line hline), ?_⟩
    obtain hloose | hexit | hdangling := main_cases argv
    · obtain ⟨line, hline⟩ := husage.strict hloose
      exact .inl ⟨line, hline, (connects_iff_plain hline).mpr (husage.plain line hline)⟩
    · exact .inr hexit
    · exact absurd hdangling husage.complete

/-- `-S h:1 c t`: the server is `:1`. -/
theorem port_spoils_host : ∃ line : UsageLine,
    line.words.map CString.bytes = [[45, 83], [104, 58, 49], [99], [116]] ∧
      ¬ Conforms (⟨[], by decide⟩ :: line.words) := by
  let port : Number := ⟨[49], by decide, List.forall_mem_singleton.mpr (by decide)⟩
  let line : UsageLine := ⟨none, [], ⟨[104], by decide⟩, by decide, some port, ⟨[99], by decide⟩,
    ⟨[116], by decide⟩⟩
  refine ⟨line, rfl, fun hconforms => ?_⟩
  obtain ⟨settings, hmain, hcall⟩ := hconforms.generated line rfl
  obtain rfl := Except.ok.inj hmain
  exact absurd (congrArg (fun call => call.serverIp.bytes) hcall) (by decide)

end Smqtt
