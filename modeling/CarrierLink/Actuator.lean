import CarrierLink.Text.Quoted
import CarrierLink.Central.Script

/-!
# Actuators of the sensor firmware

Two relays, a buzzer and LEDs.
-/

namespace CarrierLink

/-! ### Relays -/

/-- One of the two relays. -/
inductive Relay where
  | one
  | two
  deriving DecidableEq, Repr

/-- A text that names no relay. -/
structure UnknownRelay where
  text : String
  deriving DecidableEq, Repr

/-- What the operator is told. -/
def UnknownRelay.message (e : UnknownRelay) : String :=
  "unknown relay " ++ Text.quoted e.text ++ ", expected 1 or 2"

namespace Relay

/-- The channel that switches a relay. -/
def channel : Relay → Channel
  | one => .relay1
  | two => .relay2

/-- The number of a relay. -/
def text : Relay → String
  | one => "1"
  | two => "2"

/-- Reads the number of a relay, blanks around it allowed. -/
def parse (input : String) : Except UnknownRelay Relay :=
  match Text.trim input.toList with
  | ['1'] => .ok one
  | ['2'] => .ok two
  | other => .error ⟨String.ofList other⟩

end Relay

/-! ### Commands -/

namespace Actuator

/-- Switches a relay. -/
def setRelay (relay : Relay) (on : Bool) : Script := .write relay.channel (.flag on)

/-- Sounds the buzzer at a frequency in Hz, without its fraction; zero and NaN silence it. -/
def setBuzzer (frequency : Binary.Number) : Script :=
  .write .buzzer (.int (Wire.wholeNumber frequency))

/-- Sets the colour of one LED. -/
def setLed (command : Led) : Script := .write .led (.led command)

end Actuator

end CarrierLink
