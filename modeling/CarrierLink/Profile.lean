import CarrierLink.Uuid
import CarrierLink.Value

/-!
# Board profiles

A profile says what one firmware exposes: the services it keeps its characteristics in,
the names it may advertise under, and one entry for each channel, the logical name of a
characteristic. Two firmwares exist, `CarrierLink.Profile.sensor` with telemetry and
actuators and `CarrierLink.Profile.alarm` with an alarm clock.
-/

namespace CarrierLink

/-! ### Channels -/

/-- The logical name of a characteristic. -/
inductive Channel where
  | temperature
  | humidity
  | pressure
  | light
  | colorR
  | colorG
  | colorB
  | gyroX
  | gyroY
  | gyroZ
  | accelX
  | accelY
  | accelZ
  | relay1
  | relay2
  | buzzer
  | led
  | alarmSwitch
  | alarmTime
  | localTime
  | melody
  deriving DecidableEq, Repr, Inhabited

namespace Channel

/-- Every channel. -/
def all : List Channel :=
  [temperature, humidity, pressure, light, colorR, colorG, colorB, gyroX, gyroY, gyroZ,
    accelX, accelY, accelZ, relay1, relay2, buzzer, led, alarmSwitch, alarmTime, localTime,
    melody]

theorem mem_all (c : Channel) : c ∈ all := by cases c <;> decide

/-- The name of a channel. -/
def name : Channel → String
  | temperature => "temperature"
  | humidity => "humidity"
  | pressure => "pressure"
  | light => "light"
  | colorR => "color_r"
  | colorG => "color_g"
  | colorB => "color_b"
  | gyroX => "gyro_x"
  | gyroY => "gyro_y"
  | gyroZ => "gyro_z"
  | accelX => "accel_x"
  | accelY => "accel_y"
  | accelZ => "accel_z"
  | relay1 => "relay1"
  | relay2 => "relay2"
  | buzzer => "buzzer"
  | led => "led"
  | alarmSwitch => "alarm_switch"
  | alarmTime => "alarm_time"
  | localTime => "local_time"
  | melody => "melody"

end Channel

/-- What a characteristic can do. -/
inductive Access where
  /-- Can be read, and pushes new values to its subscribers. -/
  | readNotify
  | write
  | readWrite
  deriving DecidableEq, Repr

namespace Access

/-- Whether the characteristic can be read. -/
def canRead : Access → Bool
  | readNotify | readWrite => true
  | write => false

/-- Whether the characteristic can be written. -/
def canWrite : Access → Bool
  | write | readWrite => true
  | readNotify => false

/-- Whether the characteristic pushes new values. -/
def notifies : Access → Bool
  | readNotify => true
  | write | readWrite => false

end Access

/-- Which of a profile's services holds a characteristic. -/
inductive Role where
  | primary
  | control
  deriving DecidableEq, Repr

/-- One characteristic of a profile. -/
structure ChannelSpec where
  channel : Channel
  uuid : Uuid
  role : Role
  wire : Wire
  access : Access
  deriving DecidableEq, Repr

/-! ### Profiles -/

/-- What one firmware exposes. -/
structure Profile where
  name : String
  service : Uuid
  /-- The service of the control role, for a firmware that has one. -/
  control : Option Uuid
  /-- Advertised names that identify the board. -/
  names : List String
  /-- Beginnings of advertised names that identify the board. -/
  namePrefixes : List String
  channels : List ChannelSpec

namespace Profile

/-- The entry of a channel: the first, if there are several. -/
def spec? (profile : Profile) (channel : Channel) : Option ChannelSpec :=
  profile.channels.find? fun spec => spec.channel == channel

/-- The service of a role. -/
def serviceOf (profile : Profile) : Role → Option Uuid
  | .primary => some profile.service
  | .control => profile.control

/-- The channels that push values; they are subscribed to and read on connecting. -/
def telemetry (profile : Profile) : List ChannelSpec :=
  profile.channels.filter fun spec => spec.access.notifies

/-- All services that a connection needs. -/
def services (profile : Profile) : List Uuid := profile.service :: profile.control.toList

end Profile

/-! ### The two firmwares -/

namespace Uuid

/-- The service of the sensor firmware's readings. -/
def sensorService : Uuid := ⟨0xf2c9bbaa75954b3399e90ce1cd1422f9#128⟩

/-- The service of the sensor firmware's actuators. -/
def controlService : Uuid := ⟨0x5f5b4d2a3b2b4f8da2a71a2b3c4d5e6f#128⟩

/-- The service of the alarm clock firmware. -/
def alarmService : Uuid := ⟨0x4e2b8b445c1f4d0e9a7b2f6c3d8e1a00#128⟩

/-- The characteristic that a channel has on the firmware that knows it. -/
def ofChannel : Channel → Uuid
  | .temperature => ⟨0xbcd3a81a20cc4e27be8c89df34325729#128⟩
  | .humidity => ⟨0x2c394694e7a4481c84c760faebe166fd#128⟩
  | .pressure => ⟨0xfbdd96a8e40f467aab5d15955cf5ded1#128⟩
  | .light => ⟨0x2743dc8f61624b48b2dbebfd9faa4075#128⟩
  | .colorR => ⟨0x5f5b4d303b2b4f8da2a71a2b3c4d5e6f#128⟩
  | .colorG => ⟨0x5f5b4d313b2b4f8da2a71a2b3c4d5e6f#128⟩
  | .colorB => ⟨0x5f5b4d323b2b4f8da2a71a2b3c4d5e6f#128⟩
  | .gyroX => ⟨0x5f5b4d403b2b4f8da2a71a2b3c4d5e6f#128⟩
  | .gyroY => ⟨0x5f5b4d413b2b4f8da2a71a2b3c4d5e6f#128⟩
  | .gyroZ => ⟨0x5f5b4d423b2b4f8da2a71a2b3c4d5e6f#128⟩
  | .accelX => ⟨0x5f5b4d433b2b4f8da2a71a2b3c4d5e6f#128⟩
  | .accelY => ⟨0x5f5b4d443b2b4f8da2a71a2b3c4d5e6f#128⟩
  | .accelZ => ⟨0x5f5b4d453b2b4f8da2a71a2b3c4d5e6f#128⟩
  | .relay1 => ⟨0x5f5b4d2b3b2b4f8da2a71a2b3c4d5e6f#128⟩
  | .relay2 => ⟨0x5f5b4d2c3b2b4f8da2a71a2b3c4d5e6f#128⟩
  | .buzzer => ⟨0x5f5b4d2d3b2b4f8da2a71a2b3c4d5e6f#128⟩
  | .led => ⟨0x5f5b4d2e3b2b4f8da2a71a2b3c4d5e6f#128⟩
  | .alarmSwitch => ⟨0x4e2b8b445c1f4d0e9a7b2f6c3d8e1a01#128⟩
  | .alarmTime => ⟨0x4e2b8b445c1f4d0e9a7b2f6c3d8e1a02#128⟩
  | .localTime => ⟨0x4e2b8b445c1f4d0e9a7b2f6c3d8e1a03#128⟩
  | .melody => ⟨0x4e2b8b445c1f4d0e9a7b2f6c3d8e1a04#128⟩

end Uuid

namespace Profile

/-- An entry with the channel's own characteristic. -/
def entry (role : Role) (wire : Wire) (access : Access) (channel : Channel) : ChannelSpec :=
  ⟨channel, Uuid.ofChannel channel, role, wire, access⟩

/-- The firmware with telemetry and actuators. -/
def sensor : Profile where
  name := "sensor"
  service := Uuid.sensorService
  control := some Uuid.controlService
  names := ["Arduino MKR IoT Carrier"]
  namePrefixes := ["Arduino"]
  channels :=
    [Channel.temperature, .humidity, .pressure].map (entry .primary .float .readNotify) ++
    [Channel.light, .colorR, .colorG, .colorB].map (entry .primary .int .readNotify) ++
    [Channel.gyroX, .gyroY, .gyroZ, .accelX, .accelY, .accelZ].map
      (entry .primary .float .readNotify) ++
    [Channel.relay1, .relay2].map (entry .control .flag .readWrite) ++
    [entry .control .int .write .buzzer, entry .control .led .write .led]

/-- The alarm clock firmware. -/
def alarm : Profile where
  name := "alarm"
  service := Uuid.alarmService
  control := none
  names := []
  namePrefixes := []
  channels :=
    [entry .primary .flag .readWrite .alarmSwitch, entry .primary .time .readWrite .alarmTime,
      entry .primary .time .readWrite .localTime, entry .primary .text .readWrite .melody]

end Profile

end CarrierLink
