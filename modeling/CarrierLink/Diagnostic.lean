import CarrierLink.Error
import CarrierLink.Settings
import CarrierLink.Text.Quoted

/-!
# Diagnostics

A command that fails ends with a diagnostic: the name of the cause and, in braces or
parentheses, everything that belongs to it. Messages are written for an operator, and a
diagnostic for whoever looks into a report; text in it is quoted
(`CarrierLink.Text.quoted`).
-/

namespace CarrierLink

namespace Diagnostic

/-- A cause with named details. -/
def fields (cause : String) (details : List (String × String)) : String :=
  cause ++ " \x7b " ++
    String.intercalate ", " (details.map fun (name, detail) => name ++ ": " ++ detail) ++ " \x7d"

/-- A cause that is described by another one. -/
def wrapping (cause inner : String) : String := cause ++ "(" ++ inner ++ ")"

/-- Several details of one kind. -/
def list (details : List String) : String := "[" ++ String.intercalate ", " details ++ "]"

end Diagnostic

open Diagnostic Text

/-! ### Names -/

/-- A channel as a diagnostic names it. -/
def Channel.label : Channel → String
  | temperature => "Temperature"
  | humidity => "Humidity"
  | pressure => "Pressure"
  | light => "Light"
  | colorR => "ColorR"
  | colorG => "ColorG"
  | colorB => "ColorB"
  | gyroX => "GyroX"
  | gyroY => "GyroY"
  | gyroZ => "GyroZ"
  | accelX => "AccelX"
  | accelY => "AccelY"
  | accelZ => "AccelZ"
  | relay1 => "Relay1"
  | relay2 => "Relay2"
  | buzzer => "Buzzer"
  | led => "Led"
  | alarmSwitch => "AlarmSwitch"
  | alarmTime => "AlarmTime"
  | localTime => "LocalTime"
  | melody => "Melody"

/-- The shape of a value as a diagnostic names it. -/
def Wire.label : Wire → String
  | float => "Float"
  | int => "Int32"
  | flag => "Flag"
  | time => "TimePair"
  | led => "LedCommand"
  | text => "Text"

/-! ### Causes -/

/-- The diagnostic of a text that is no melody. -/
def MelodyError.diagnostic : MelodyError → String
  | empty => "Empty"
  | tooManySteps count => fields "TooManySteps" [("count", toString count)]
  | missingNote token => fields "MissingNote" [("token", quoted token)]
  | invalidNote note => fields "InvalidNote" [("note", quoted note)]
  | invalidDuration duration => fields "InvalidDuration" [("duration", quoted duration)]

/-- The diagnostic of a text that is no clock time. -/
def TimeError.diagnostic : TimeError → String
  | format input => fields "Format" [("input", quoted input)]
  | outOfRange hour minute =>
    fields "OutOfRange" [("hour", toString hour), ("minute", toString minute)]

/-- The diagnostic of operator input that cannot be sent. -/
def ValidationError.diagnostic : ValidationError → String
  | melody e => wrapping "Melody" e.diagnostic
  | time e => wrapping "Time" e.diagnostic

/-- The diagnostic of a value that cannot be sent. -/
def EncodeError.diagnostic : EncodeError → String
  | typeMismatch expected found =>
    fields "TypeMismatch" [("expected", expected.label), ("found", quoted found.kindName)]
  | textTooLong length => fields "TextTooLong" [("len", toString length)]

/-- The diagnostic of bytes that are no value. -/
def DecodeError.diagnostic : DecodeError → String
  | tooShort wire expected actual =>
    fields "TooShort" [("wire", wire.label), ("expected", toString expected),
      ("actual", toString actual)]
  | timeOutOfRange hour minute =>
    fields "TimeOutOfRange" [("hour", toString hour), ("minute", toString minute)]
  | invalidUtf8 => "InvalidUtf8"

/-- The diagnostic of a fault of the platform. -/
def Fault.diagnostic : Fault → String
  | runtime message => wrapping "RuntimeError" (quoted message)
  | notConnected => "NotConnected"
  | note text => quoted text

/-- The diagnostic of a failed operation. -/
def Error.diagnostic : Error → String
  | unsupportedPlatform => "UnsupportedPlatform"
  | deviceSelectionAborted => "DeviceSelectionAborted"
  | serviceNotFound service available =>
    fields "ServiceNotFound"
      [("service", service.text), ("available", list (available.map Uuid.text))]
  | characteristicUnavailable channel uuid =>
    fields "CharacteristicUnavailable" [("channel", channel.label), ("uuid", uuid.text)]
  | notConnected => "NotConnected"
  | busy => "Busy"
  | unknownChannel channel profile =>
    fields "UnknownChannel" [("channel", channel.label), ("profile", quoted profile)]
  | unsupportedOperation channel direction =>
    fields "UnsupportedOperation"
      [("channel", channel.label), ("operation", quoted direction.text)]
  | unexpectedValue channel found =>
    fields "UnexpectedValue" [("channel", channel.label), ("found", quoted found.kindName)]
  | encode e => wrapping "Encode" e.diagnostic
  | decode e => wrapping "Decode" e.diagnostic
  | validation e => wrapping "Validation" e.diagnostic
  | transport activity fault =>
    fields "Transport" [("operation", quoted activity.text), ("source", fault.diagnostic)]

/-- The diagnostic of missing settings. -/
def SettingsError.diagnostic : SettingsError → String
  | noHome => "NoHome"
  | unreadable => "Read"
  | malformed => "Parse"

end CarrierLink
