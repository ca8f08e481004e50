import CarrierLink.Profile
import CarrierLink.Melody

/-!
# What can go wrong

The causes for which an operation on a board fails, and the words in which an operator is
told about them. A failure below the central is an activity (`CarrierLink.Activity`) with
the fault that ended it (`CarrierLink.Fault`).
-/

namespace CarrierLink

/-! ### Faults of the platform -/

/-- What was being done when the platform reported a fault. -/
inductive Activity where
  | openingManager
  | listingAdapters
  | startingScan
  | listingPeripherals
  | readingAdvertisement
  | stoppingScan
  | connecting
  | disconnecting
  | discoveringServices
  | openingNotifications
  | openingAdapterEvents
  | reading
  | writing
  | subscribing
  deriving DecidableEq, Repr

/-- An activity as a message names it. -/
def Activity.text : Activity → String
  | openingManager => "opening the BLE manager"
  | listingAdapters => "listing adapters"
  | startingScan => "starting scan"
  | listingPeripherals => "listing peripherals"
  | readingAdvertisement => "reading advertisement"
  | stoppingScan => "stopping scan"
  | connecting => "connect"
  | disconnecting => "disconnect"
  | discoveringServices => "service discovery"
  | openingNotifications => "notification stream"
  | openingAdapterEvents => "adapter event stream"
  | reading => "read"
  | writing => "write"
  | subscribing => "subscribe"

/-- Why an activity failed. -/
inductive Fault where
  /-- The platform failed while it carried out a call. -/
  | runtime (message : String)
  /-- A call needs a connected device. -/
  | notConnected
  /-- A fault that is known by its text alone. -/
  | note (text : String)
  deriving DecidableEq, Repr

/-- A fault as a message states it. -/
def Fault.message : Fault → String
  | runtime message => s!"Runtime Error: {message}"
  | notConnected => "Not connected"
  | note text => text

/-! ### Errors of an operation -/

/-- Operator input that cannot be sent to the board. -/
inductive ValidationError where
  | melody (e : MelodyError)
  | time (e : TimeError)
  deriving DecidableEq, Repr

/-- What the operator is told. -/
def ValidationError.message : ValidationError → String
  | melody e => e.message
  | time e => e.message

/-- The two directions of channel access. -/
inductive Direction where
  | read
  | write
  deriving DecidableEq, Repr

/-- A direction as a message names it. -/
def Direction.text : Direction → String
  | read => "read"
  | write => "write"

/-- Why an operation on a board failed. -/
inductive Error where
  | unsupportedPlatform
  | deviceSelectionAborted
  | serviceNotFound (service : Uuid) (available : List Uuid)
  | characteristicUnavailable (channel : Channel) (uuid : Uuid)
  | notConnected
  | busy
  | unknownChannel (channel : Channel) (profile : String)
  | unsupportedOperation (channel : Channel) (direction : Direction)
  | unexpectedValue (channel : Channel) (found : Wire)
  | encode (e : EncodeError)
  | decode (e : DecodeError)
  | validation (e : ValidationError)
  | transport (activity : Activity) (fault : Fault)
  deriving DecidableEq, Repr

namespace Error

/-- The services that a device does expose, as a message lists them. -/
def servicesText (available : List Uuid) : String :=
  if available.isEmpty then "the device exposes no services"
  else "available services: " ++ String.intercalate ", " (available.map Uuid.text)

/-- **What the operator is told.** -/
def message : Error → String
  | unsupportedPlatform => "Bluetooth LE is not available on this platform"
  | deviceSelectionAborted => "no device was selected"
  | serviceNotFound service available =>
    s!"service {service.text} not found on the device ({servicesText available})"
  | characteristicUnavailable channel uuid =>
    s!"characteristic {channel.name} ({uuid.text}) is not available on the device"
  | notConnected => "not connected"
  | busy => "a connection attempt is already in progress"
  | unknownChannel channel profile =>
    s!"channel {channel.name} is not part of the {profile} profile"
  | unsupportedOperation channel direction =>
    s!"channel {channel.name} does not support {direction.text}"
  | unexpectedValue channel found =>
    s!"channel {channel.name} returned a {found.kindName} value"
  | encode e => e.message
  | decode e => e.message
  | validation e => e.message
  | transport activity fault => s!"{activity.text} failed: {fault.message}"

end Error

end CarrierLink
