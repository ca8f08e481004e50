import CarrierLink.Callback
import CarrierLink.Table

/-!
# The operator's view

What the operator sees of a central, rebuilt from the callbacks alone: whether there is a
connection or an attempt at one, the latest status, and the latest reading of each
telemetry channel.
-/

namespace CarrierLink

/-! ### Readings -/

/-- The unit of a channel's readings; empty where there is none. -/
def Channel.unit : Channel → String
  | temperature => "°C"
  | humidity => "%"
  | pressure => "kPa"
  | gyroX | gyroY | gyroZ => "°/s"
  | accelX | accelY | accelZ => "g"
  | _ => ""

/-- A value of a channel with its unit. -/
def Channel.reading (channel : Channel) (value : Value) : String :=
  if channel.unit.isEmpty then value.shown else value.shown ++ " " ++ channel.unit

/-- A channel's name, brought to twelve characters by blanks, and a reading. -/
def Channel.row (channel : Channel) (reading : String) : String :=
  channel.name ++ String.ofList (List.replicate (12 - channel.name.length) ' ') ++ " " ++ reading

/-! ### The view -/

/-- What the operator sees. -/
structure View where
  connected : Bool := false
  /-- An attempt to connect is under way. -/
  busy : Bool := false
  status : String := ""
  level : StatusLevel := .muted
  telemetry : Table Channel Value := Table.empty

namespace View

/-- The view at the start of an attempt to connect. -/
def connecting : View := { busy := true }

/-- **The view after a callback.** -/
def after (view : View) : Callback → View
  | .connected isConnected => { view with connected := isConnected, busy := false }
  | .status text level =>
    { view with busy := view.busy && level != .warn, status := text, level }
  | .disconnected => { view with connected := false, busy := false, telemetry := Table.empty }
  | .value channel value => { view with telemetry := view.telemetry.insert channel value }

/-- The state of the connection in one word. -/
def badge (view : View) : String :=
  if view.connected then "connected" else if view.busy then "busy" else "offline"

/-- The status line and one row for each telemetry channel of a profile. -/
def render (view : View) (profile : Profile) : String :=
  let row (spec : ChannelSpec) : String :=
    "  " ++ spec.channel.row
      (((view.telemetry.get? spec.channel).map spec.channel.reading).getD "--") ++ "\n"
  "[" ++ view.badge ++ "] " ++ view.status ++ "\n" ++ String.join (profile.telemetry.map row)

end View

end CarrierLink
