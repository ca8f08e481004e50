import CarrierLink.AlarmClock
import CarrierLink.CommandLine.Arguments
import CarrierLink.Diagnostic
import CarrierLink.Radio

/-!
# What a command comes to

A command with its settings comes to an errand (`CarrierLink.Command.errand`): something that
is done at once, a scan, or a session with one board. Operator input that makes no sense is
found here, before any board is looked for.
-/

namespace CarrierLink

/-! ### Failures -/

/-- Why a command failed. -/
inductive Failure where
  | settings (e : SettingsError)
  | melody (e : MelodyError)
  | validation (e : ValidationError)
  | encode (e : EncodeError)
  | operation (e : Error)
  deriving DecidableEq, Repr

/-- The diagnostic that a failed command ends with. -/
def Failure.diagnostic : Failure → String
  | settings e => e.diagnostic
  | melody e => e.diagnostic
  | validation e => e.diagnostic
  | encode e => e.diagnostic
  | operation e => e.diagnostic

/-! ### Sessions -/

/-- What a session is opened for. -/
inductive Job where
  /-- To run a script, and to print something about its answer. -/
  | script (script : Script) (printed : Answer → List String)
  /-- To show telemetry, for some seconds or until interrupted. -/
  | monitor (seconds : Option Nat)
  /-- For what opening a session does by itself. -/
  | nothing

/-- A session with one board. -/
structure Plan where
  firmware : Firmware
  filter : Filter
  /-- The time of day when the session has been opened. -/
  now : ClockTime
  job : Job

/-- The profile of a session's board. -/
def Plan.profile (plan : Plan) : Profile := plan.firmware.profile

/-! ### Scans -/

/-- What is printed before a scan. -/
def Profile.scanHeading (profile : Profile) (seconds : Nat) : String :=
  s!"Scanning for {profile.name} boards ({seconds} seconds)...\n"

/-- A device as a scan prints it. -/
def Device.row (device : Device) : String :=
  let strength := match device.strength with
    | some strength => s!"{strength} dBm"
    | none => "N/A"
  s!"  {device.name} ({device.address}) RSSI: {strength}" ++
    (if device.isMatch then " [MATCH]" else "") ++ "\n"

/-- What is printed after a scan. -/
def Device.table (devices : List Device) : String :=
  s!"\nFound {devices.length} devices:\n" ++ String.join (devices.map row)

/-! ### Errands -/

/-- **The time of day**, each time that a command asks for it. -/
structure Readings where
  /-- When the session with a board has been opened. -/
  opening : ClockTime
  /-- When the alarm is programmed in that session. -/
  programming : ClockTime
  deriving Inhabited, DecidableEq, Repr

/-- How a command is carried out. -/
inductive Errand where
  /-- Something is printed, and that is all. -/
  | print (printed : List String) (failure : Option Failure)
  | scan (filter : Filter) (heading : String)
  | session (plan : Plan)

/-- What is printed about a melody that could be sent. -/
def Melody.summary (melody : Melody) : List String :=
  [s!"Steps:    {melody.steps.length}\n", s!"Editable: {melody.text}\n",
    s!"Wire:     {melody.wireText} " ++
      s!"({melody.wireText.utf8ByteSize} of {Wire.maxTextLength} bytes)\n"]

/-- Looks at a melody without a board. -/
def Errand.checkMelody (input : String) : Errand :=
  match Melody.parse input with
  | .error e => .print [] (some (.melody e))
  | .ok melody =>
    .print melody.summary
      (match Wire.encode .text (.text melody.wireText) with
        | .error e => some (.encode e)
        | .ok _ => none)

/-- What is printed about the alarm that a board has programmed. -/
def AlarmSettings.summary (settings : AlarmSettings) : List String :=
  [s!"Alarm:  {settings.time.text} ({(Value.flag settings.enabled).shown})\n",
    s!"Melody: {settings.melody}\n"]

namespace Command

/-- The devices that the settings ask for. -/
def filter (settings : Settings) (firmware : Firmware) : Filter :=
  (Filter.ofProfile firmware.profile).aimedAt settings.device

/-- A session with a board that runs a firmware. -/
def session (settings : Settings) (clock : Readings) (firmware : Firmware) (job : Job) : Errand :=
  .session ⟨firmware, filter settings firmware, clock.opening, job⟩

/-- A script that ends with a line of its own. -/
def saying (script : Script) (line : String) : Job := .script script fun _ => [line ++ "\n"]

/-- **How a command is carried out.** Actuators are the sensor firmware's and alarms the
alarm firmware's, whatever the settings say. -/
def errand (settings : Settings) (clock : Readings) : Command → Errand
  | scan seconds =>
    .scan (filter settings settings.firmware)
      (settings.firmware.profile.scanHeading (seconds.getD settings.scanSeconds))
  | monitor seconds => session settings clock settings.firmware (.monitor seconds)
  | relay which on =>
    session settings clock .sensor
      (saying (Actuator.setRelay which on) s!"Relay {which.text} {(Value.flag on).shown}")
  | buzzer frequency =>
    session settings clock .sensor (.script (Actuator.setBuzzer frequency) fun _ => [])
  | led command => session settings clock .sensor (saying (Actuator.setLed command) command.text)
  | setAlarm time melody =>
    match AlarmConfig.parse time melody with
    | .error e => .print [] (some (.validation e))
    | .ok config =>
      session settings clock .alarm
        (saying (AlarmClock.configure config clock.programming)
          s!"Alarm set for {config.time.text}")
  | showAlarm =>
    session settings clock .alarm
      (.script AlarmClock.readSettings fun
        | .settings settings => settings.summary
        | _ => [])
  | disarm => session settings clock .alarm (saying (AlarmClock.setEnabled false) "Alarm disabled")
  | syncTime => session settings clock .alarm .nothing
  | checkMelody melody => Errand.checkMelody melody

end Command

end CarrierLink
