import CarrierLink.Actuator
import CarrierLink.Settings

/-!
# The arguments of the command line

A command line is a path of subcommands (`CarrierLink.CommandLine.Level`), each level with
its options and its positional values. Options are written `--name value`, `--name=value`,
`-n value`, `-nvalue` or `-n=value`, and what starts with a dash is an option unless it comes
after `--`. The options about the board to use may stand at any level, and the innermost
one counts.

`CarrierLink.CommandLine.parse` reads a command line and either says what it asks for or
why it is turned down (`CarrierLink.CommandLine.Rejection`).
-/

namespace CarrierLink

-- A power is the one of the core library, whatever else is imported.
attribute [local instance (high)] instPowNat

/-! ### Commands -/

/-- What an operator can ask for. -/
inductive Command where
  /-- List the devices that advertise. -/
  | scan (seconds : Option Nat)
  /-- Show telemetry as it arrives, for some seconds or until interrupted. -/
  | monitor (seconds : Option Nat)
  | relay (relay : Relay) (on : Bool)
  | buzzer (frequency : Binary.Number)
  | led (command : Led)
  /-- Program and arm the alarm. -/
  | setAlarm (time melody : String)
  | showAlarm
  | disarm
  /-- Set the board's clock. -/
  | syncTime
  /-- Look at a melody without a board. -/
  | checkMelody (melody : String)
  deriving DecidableEq

/-- A command and the settings given along with it. -/
structure Invocation where
  overrides : Settings.Overrides
  command : Command
  deriving DecidableEq

namespace CommandLine

/-- Why there is nothing to do. -/
inductive Rejection where
  /-- Help was asked for. -/
  | help
  /-- The arguments make no sense. -/
  | usage
  deriving DecidableEq, Repr

/-! ### Values -/

/-- What a value on the command line is for. -/
inductive Slot where
  | firmware
  | device
  | scanSeconds
  | duration
  | seconds
  | relay
  | switch
  | frequency
  | index
  | red
  | green
  | blue
  | time
  | melody
  deriving DecidableEq, Repr

/-- A number of seconds. -/
def seconds? (s : String) : Option Nat := Numeral.unsigned? (2 ^ (64 : Nat)) s.toList

/-- A whole number in `[least, greatest]`. -/
def within? (least greatest : Int) (s : String) : Option Int :=
  (Numeral.signed? (2 ^ (63 : Nat)) s.toList).filter fun n => least ≤ n && n ≤ greatest

/-- A number that a byte can hold. -/
def byte? (s : String) : Option UInt8 := (within? 0 255 s).map fun n => UInt8.ofNat n.toNat

/-- A number that 32 bits can hold. -/
def component? (s : String) : Option Int32 :=
  (within? Int32.minValue.toInt Int32.maxValue.toInt s).map Int32.ofInt

/-- The position of a switch. -/
def switch? (s : String) : Option Bool :=
  if s = "on" then some true else if s = "off" then some false else none

/-- Whether a value can be what it is for. -/
def Slot.accepts (slot : Slot) (s : String) : Bool :=
  match slot with
  | firmware => (Firmware.parse? s).isSome
  | scanSeconds | duration | seconds => (seconds? s).isSome
  | relay => (Relay.parse s).toBool
  | switch => (switch? s).isSome
  | frequency => (Decimal.number? s.toList).isSome
  | index => (byte? s).isSome
  | red | green | blue => (component? s).isSome
  | device | time | melody => true

/-! ### Levels -/

/-- A level of the command line: the program itself, or one of its subcommands. -/
inductive Level where
  | program
  | scan
  | monitor
  | relay
  | buzzer
  | led
  | alarm
  | alarmSet
  | alarmShow
  | alarmOff
  | alarmSyncTime
  | melody
  | melodyCheck
  deriving DecidableEq, Repr

namespace Level

/-- The subcommands that can follow. -/
def subcommands : Level → List (String × Level)
  | program =>
    [("scan", scan), ("monitor", monitor), ("relay", relay), ("buzzer", buzzer), ("led", led),
      ("alarm", alarm), ("melody", melody)]
  | alarm =>
    [("set", alarmSet), ("show", alarmShow), ("off", alarmOff), ("sync-time", alarmSyncTime)]
  | melody => [("check", melodyCheck)]
  | _ => []

/-- The options: long name, short name if there is one, and what the value is for. -/
def options (level : Level) : List (String × Option Char × Slot) :=
  let own := match level with
    | scan => [("duration", some 't', Slot.duration)]
    | monitor => [("seconds", some 's', Slot.seconds)]
    | _ => []
  [("profile", none, .firmware), ("device", some 'd', .device),
    ("scan-secs", none, .scanSeconds)] ++ own

/-- What the positional values are for, in their order. -/
def positionals : Level → List Slot
  | relay => [.relay, .switch]
  | buzzer => [.frequency]
  | led => [.index, .red, .green, .blue]
  | alarmSet => [.time, .melody]
  | melodyCheck => [.melody]
  | _ => []

/-- Whether a negative number is a value and no option. -/
def takesNegativeNumbers (level : Level) : Bool := level == led

/-- The option with a long name. -/
def long? (level : Level) (name : List Char) : Option Slot :=
  (level.options.find? fun option => option.1.toList == name).map fun option => option.2.2

/-- The option with a short name. -/
def short? (level : Level) (c : Char) : Option Slot :=
  (level.options.find? fun option => option.2.1 == some c).map fun option => option.2.2

/-- What the positional value after `count` others is for; a melody takes all that come. -/
def positional? (level : Level) (count : Nat) : Option Slot :=
  (level.positionals[count]?).or (level.positionals.getLast?.filter (· == .melody))

end Level

/-! ### Reading -/

/-- What a level has been given so far. A value that is written together with its option is
looked at on the spot; any other waits until the next argument of the level has come. -/
structure Given where
  /-- The values that have been looked at. -/
  values : List (Slot × String) := []
  /-- What came last, if it waits: a value, or an option whose value has to come next. -/
  pending : Option (Slot × Option String) := none
  /-- How many positional values there are. -/
  positionals : Nat := 0
  /-- Whether only positional values can follow. -/
  isTrailing : Bool := false

namespace Given

/-- The option whose value has to come next. -/
def awaited (given : Given) : Option Slot :=
  match given.pending with
  | some (slot, none) => some slot
  | _ => none

/-- Looks at a value: it has to be what it is for, and no option may come twice. -/
def accept (given : Given) (slot : Slot) (value : String) : Except Rejection Given :=
  let isRepeated := slot != .melody && given.values.any fun other => other.1 == slot
  if slot.accepts value && !isRepeated then
    .ok { given with values := given.values ++ [(slot, value)] }
  else .error .usage

/-- Looks at what waits; an option must not wait for its value any more. -/
def settle (given : Given) : Except Rejection Given :=
  match given.pending with
  | none => .ok given
  | some (slot, some value) => { given with pending := none }.accept slot value
  | some (_, none) => .error .usage

/-- Asks for help, unless something is wrong already. -/
def help (given : Given) : Rejection :=
  match given.settle with
  | .ok _ => .help
  | .error rejection => rejection

/-- An option without its value. -/
def await (given : Given) (slot : Slot) : Except Rejection Given := do
  return { (← given.settle) with pending := some (slot, none) }

/-- An option with its value. -/
def give (given : Given) (slot : Slot) (value : List Char) : Except Rejection Given := do
  (← given.settle).accept slot (String.ofList value)

/-- An argument `--name` or `--name=value`. -/
def long (given : Given) (level : Level) (argument : List Char) : Except Rejection Given :=
  let (name, value) := Text.cut '=' argument
  match level.long? name, value with
  | some slot, some value => given.give slot value
  | some slot, none => given.await slot
  | none, none => .error (if name = "help".toList then given.help else .usage)
  | none, some _ => .error .usage

/-- An argument `-n`, `-nvalue` or `-n=value`. -/
def short (given : Given) (level : Level) (argument : List Char) : Except Rejection Given :=
  match argument with
  | 'h' :: _ => .error given.help
  | c :: rest =>
    match level.short? c, rest with
    | some slot, [] => given.await slot
    | some slot, '=' :: value => given.give slot value
    | some slot, value => given.give slot value
    | none, _ => .error .usage
  | [] => .error .usage

/-- An argument that is a value. -/
def value (given : Given) (level : Level) (argument : String) : Except Rejection Given :=
  match given.awaited.filter fun _ => !given.isTrailing with
  | some slot => .ok { given with pending := some (slot, some argument) }
  | none =>
    match level.positional? given.positionals with
    | some slot => do
      return { (← given.settle) with
        pending := some (slot, some argument)
        positionals := given.positionals + 1 }
    | none => .error .usage

/-- Whether the text after a dash makes a negative number: digits, a point after the first
of them, and an exponent. -/
def isNegated (s : List Char) : Bool :=
  let (mantissa, exponent) := Text.cut 'e' s
  let (whole, fraction) := Text.cut '.' mantissa
  Numeral.isNumeral whole && (fraction.getD []).all Char.isDigit &&
    (exponent.map Numeral.isNumeral).getD true

/-- An argument that names no subcommand. -/
def next (given : Given) (level : Level) (argument : String) : Except Rejection Given :=
  if given.isTrailing then given.value level argument
  else
    match argument.toList with
    | ['-', '-'] => .ok { given with isTrailing := true }
    | '-' :: '-' :: rest => given.long level rest
    | '-' :: c :: rest =>
      if level.takesNegativeNumbers && isNegated (c :: rest) then given.value level argument
      else given.short level (c :: rest)
    | _ => given.value level argument

/-- The values of a level at the end of the arguments: nothing may be missing. -/
def finish (given : Given) (level : Level) : Except Rejection (Level × List (Slot × String)) := do
  let given ← given.settle
  if level.subcommands.isEmpty && level.positionals.length ≤ given.positionals then
    return (level, given.values)
  throw .usage

end Given

/-- Help about the subcommand with a path. -/
def help (level : Level) : List String → Rejection
  | [] => .help
  | ["help"] => if level.subcommands.isEmpty then .usage else .help
  | name :: rest =>
    match level.subcommands.lookup name with
    | some inner => help inner rest
    | none => .usage

/-- Reads the arguments of a level and of its subcommands: the last level and the values of
all levels, the outer ones first. What waits when a subcommand comes is looked at after the
subcommand. -/
def read (level : Level) (given : Given) :
    List String → Except Rejection (Level × List (Slot × String))
  | [] => given.finish level
  | argument :: rest =>
    if given.isTrailing || given.awaited.isSome then do
      read level (← given.next level argument) rest
    else
      match level.subcommands.lookup argument with
      | some inner => do
        let (last, values) ← read inner {} rest
        let given ← given.settle
        return (last, given.values ++ values)
      | none =>
        if argument = "help" && !level.subcommands.isEmpty then .error (help level rest)
        else do read level (← given.next level argument) rest

/-! ### What the values ask for -/

/-- The last value that a slot was given. -/
def valueOf (values : List (Slot × String)) (slot : Slot) : Option String :=
  values.reverse.lookup slot

/-- The words of a melody, one space between two. -/
def melodyOf (values : List (Slot × String)) : String :=
  Text.unwords ((values.filter fun value => value.1 == .melody).map Prod.snd)

/-- The command of a level with some values. -/
def command? (level : Level) (values : List (Slot × String)) : Option Command :=
  let value := valueOf values
  match level with
  | .scan => some (.scan ((value .duration).bind seconds?))
  | .monitor => some (.monitor ((value .seconds).bind seconds?))
  | .relay => do
    let relay ← (value .relay).bind fun s => (Relay.parse s).toOption
    return .relay relay (← (value .switch).bind switch?)
  | .buzzer => do return .buzzer (← (value .frequency).bind fun s => Decimal.number? s.toList)
  | .led => do
    return .led (Led.masked (← (value .index).bind byte?) (← (value .red).bind component?)
      (← (value .green).bind component?) (← (value .blue).bind component?))
  | .alarmSet => do return .setAlarm (← value .time) (melodyOf values)
  | .alarmShow => some .showAlarm
  | .alarmOff => some .disarm
  | .alarmSyncTime => some .syncTime
  | .melodyCheck => some (.checkMelody (melodyOf values))
  | .program | .alarm | .melody => none

/-- **Reads a command line.** -/
def parse (arguments : List String) : Except Rejection Invocation := do
  let (level, values) ← read .program {} arguments
  match command? level values with
  | some command =>
    return {
      command
      overrides := {
        firmware := (valueOf values .firmware).bind Firmware.parse?
        device := valueOf values .device
        scanSeconds := (valueOf values .scanSeconds).bind seconds? } }
  | none => throw .usage

end CommandLine

end CarrierLink
