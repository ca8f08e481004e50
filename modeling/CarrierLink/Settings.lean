import CarrierLink.Json.Document
import CarrierLink.Profile

/-!
# Settings

An operator keeps settings in a file of JSON text and may override some of them on the
command line (`CarrierLink.Settings.overriddenBy`). The file holds an object whose members
are named as in `CarrierLink.Settings.fieldNames`, or a list of their values in that order.
What is not there has its default; a member of any other name is ignored.
-/

namespace CarrierLink

-- A power is the one of the core library, whatever else is imported.
attribute [local instance (high)] instPowNat

/-! ### Firmwares -/

/-- Which firmware a board runs. -/
inductive Firmware where
  | sensor
  | alarm
  deriving DecidableEq, Repr

namespace Firmware

/-- What the firmware exposes. -/
def profile : Firmware → Profile
  | sensor => .sensor
  | alarm => .alarm

/-- The firmware with a name. -/
def parse? (name : String) : Option Firmware :=
  [sensor, alarm].find? fun firmware => firmware.profile.name == name

/-- The firmware that a setting names: by its name alone, or by an object with its name
and nothing under it. -/
def ofJson? : Json.Value → Option Firmware
  | .text pieces | .object [(pieces, .null)] =>
    (Json.join? pieces).bind fun name => parse? (String.ofList name)
  | _ => none

end Firmware

/-! ### Settings -/

/-- What an operator can set. -/
structure Settings where
  firmware : Firmware := .sensor
  /-- A part of the name or the address of the board to use. -/
  device : Option String := none
  /-- How long to look for devices. -/
  scanSeconds : Nat := 5
  /-- What to log. -/
  log : String := "warn"
  deriving DecidableEq, Repr

/-- Settings from the command line. -/
structure Settings.Overrides where
  firmware : Option Firmware := none
  device : Option String := none
  scanSeconds : Option Nat := none
  deriving DecidableEq, Repr

/-- What is found where the settings are kept. -/
inductive SettingsFile where
  /-- There is no home directory to look in. -/
  | homeless
  | missing
  | unreadable
  | content (data : Bytes)

/-- Why there are no settings. -/
inductive SettingsError where
  | noHome
  | unreadable
  | malformed
  deriving DecidableEq, Repr

namespace Settings

/-- The names of the settings, in the order of a list. -/
def fieldNames : List String := ["profile", "device", "scan_secs", "log"]

/-- The text of a JSON string. -/
def textOf? : Json.Value → Option String
  | .text pieces => (Json.join? pieces).map String.ofList
  | _ => none

/-- A device, or none. -/
def deviceOf? : Json.Value → Option (Option String)
  | .null => some none
  | value => (textOf? value).map some

/-- A number of seconds: a whole number that 64 bits can hold, written without a sign, a
fraction or an exponent. -/
def secondsOf? : Json.Value → Option Nat
  | .number literal =>
    if literal.all Char.isDigit then Numeral.unsigned? (2 ^ (64 : Nat)) literal else none
  | _ => none

/-- The settings whose fields are given by name, the defaults standing in for the
others. -/
def ofFields? (field : String → Option Json.Value) : Option Settings := do
  let default : Settings := {}
  return {
    firmware := ← (field "profile").elim (some default.firmware) Firmware.ofJson?
    device := ← (field "device").elim (some default.device) deviceOf?
    scanSeconds := ← (field "scan_secs").elim (some default.scanSeconds) secondsOf?
    log := ← (field "log").elim (some default.log) textOf? }

/-- The members of an object with their names as text. -/
def named? (members : List (List Json.Piece × Json.Value)) :
    Option (List (String × Json.Value)) :=
  members.mapM fun (name, value) => (Json.join? name).map fun name => (String.ofList name, value)

/-- **The settings that a JSON value holds.** No field may be there twice. -/
def ofJson? : Json.Value → Option Settings
  | .list items =>
    if items.length ≤ fieldNames.length then
      ofFields? fun name => (fieldNames.zip items).lookup name
    else none
  | .object members => do
    let known := (← named? members).filter fun member => fieldNames.contains member.1
    if (known.map Prod.fst).Nodup then ofFields? fun name => known.lookup name else none
  | _ => none

/-- **The settings of a file**; without a file, the defaults. -/
def load : SettingsFile → Except SettingsError Settings
  | .homeless => .error .noHome
  | .missing => .ok {}
  | .unreadable => .error .unreadable
  | .content data =>
    match Bytes.toText? data with
    | some text => ((Json.parse? text.toList).bind ofJson?).elim (.error .malformed) .ok
    | none => .error .unreadable

/-- The settings in which what was given on the command line wins. -/
def overriddenBy (settings : Settings) (overrides : Overrides) : Settings where
  firmware := overrides.firmware.getD settings.firmware
  device := overrides.device.or settings.device
  scanSeconds := overrides.scanSeconds.getD settings.scanSeconds
  log := settings.log

end Settings

end CarrierLink
