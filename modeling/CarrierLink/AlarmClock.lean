import CarrierLink.Central.Script

/-!
# The alarm clock

The board keeps its own clock, so programming an alarm always sends the local time along
with the alarm time. Operator input is checked before anything is sent
(`CarrierLink.AlarmConfig.parse`), and the alarm is armed last
(`CarrierLink.AlarmClock.configure`).
-/

namespace CarrierLink

/-- An alarm as the operator wants it. -/
structure AlarmConfig where
  time : ClockTime
  melody : Melody
  deriving DecidableEq, Repr

/-- Reads an alarm. The melody is looked at first, so that its error is reported even when
the time is wrong too. -/
def AlarmConfig.parse (time melody : String) : Except ValidationError AlarmConfig := do
  let melody ← (Melody.parse melody).mapError .melody
  let time ← (ClockTime.parse time).mapError .time
  return ⟨time, melody⟩

namespace AlarmClock

open Script

/-- The error of a channel that answered with a value of another kind. -/
def unexpected (channel : Channel) (value : Value) : Error :=
  .unexpectedValue channel value.kind

/-! ### Single settings -/

/-- Arms or disarms the alarm. -/
def setEnabled (on : Bool) : Script := write .alarmSwitch (.flag on)

/-- Sets the board's clock. -/
def setClock (t : ClockTime) : Script := write .localTime (.time t)

/-- Sets the alarm time. -/
def setAlarmTime (t : ClockTime) : Script := write .alarmTime (.time t)

/-- Sends a melody. -/
def setMelody (melody : Melody) : Script := write .melody (.text melody.wireText)

/-- Reads whether the alarm is armed. -/
def readEnabled (failed : Error → Script) (next : Bool → Script) : Script :=
  exchange (.read .alarmSwitch) <| onValueOr failed fun value =>
    match value.asFlag? with
    | some on => next on
    | none => failed (unexpected .alarmSwitch value)

/-- Reads the alarm time. -/
def readAlarmTime (failed : Error → Script) (next : ClockTime → Script) : Script :=
  exchange (.read .alarmTime) <| onValueOr failed fun value =>
    match value.asTime? with
    | some t => next t
    | none => failed (unexpected .alarmTime value)

/-- Reads the melody as the board stores it. -/
def readMelody (failed : Error → Script) (next : String → Script) : Script :=
  exchange (.read .melody) <| onValueOr failed fun value =>
    match value.asText? with
    | some s => next s
    | none => failed (unexpected .melody value)

/-- Whether the alarm is armed. -/
def enabled : Script := readEnabled fail fun on => finish (.ok (.flag on))

/-- The alarm time. -/
def alarmTime : Script := readAlarmTime fail fun t => finish (.ok (.time t))

/-- The melody as the board stores it. -/
def melodyText : Script := readMelody fail fun s => finish (.ok (.text s))

/-! ### The whole alarm -/

/-- **Programs and arms the alarm.** A melody that the board cannot hold is found before
anything is sent. Local time and alarm time go out together, then the melody, and the
alarm is switched on when all of them have arrived. -/
def configure (config : AlarmConfig) (now : ClockTime) : Script :=
  let melody : Value := .text config.melody.wireText
  match Wire.encode .text melody with
  | .error e => fail (.encode e)
  | .ok _ =>
    exchangeBoth (.write .localTime (.time now)) (.write .alarmTime (.time config.time))
      fun localTime alarmTime =>
        onDone (onDone
          (writeValue .melody melody <|
            writeValue .alarmSwitch (.flag true) <|
              report ("Alarm set for " ++ config.time.text) .ok (finish (.ok .done)))
          alarmTime) localTime

/-- Programs and arms the alarm from operator input. -/
def configureText (time melody : String) (now : ClockTime) : Script :=
  match AlarmConfig.parse time melody with
  | .ok config => configure config now
  | .error e => fail (.validation e)

/-- Reads what the board has programmed, the melody with note names, and says how it went. -/
def readSettings : Script :=
  let failed (e : Error) : Script :=
    report ("Could not read settings: " ++ e.message) .warn (fail e)
  readAlarmTime failed fun time =>
    readMelody failed fun melody =>
      readEnabled failed fun enabled =>
        report "Settings read from the board" .ok
          (finish (.ok (.settings ⟨time, Melody.editable melody, enabled⟩)))

end AlarmClock

end CarrierLink
