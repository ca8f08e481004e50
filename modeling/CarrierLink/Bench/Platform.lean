import CarrierLink.Bench.Board
import CarrierLink.Radio

/-!
# A simulated platform

A platform with an adapter and some devices in reach that behaves as written down. Steps
of the radio can be made to fail, a device can forget characteristics that it once listed,
and a list of incidents (`CarrierLink.Platform.Incident`) happens while telemetry is
watched.

`CarrierLink.Platform.carryOut` gives the results of a call, and `CarrierLink.Platform.suffer`
lets an incident happen.
-/

namespace CarrierLink

/-! ### Devices -/

/-- A device in reach. -/
structure Platform.Peripheral where
  name : Option String
  address : String
  strength : Option Int
  /-- Whether the device does not advertise. -/
  isSilent : Bool
  advertised : List Uuid
  services : List Service
  values : Table Uuid Bytes
  /-- Characteristics that are only there when the services are listed for the first time. -/
  forgotten : List Uuid
  isConnected : Bool := false
  /-- Whether the services have been listed. -/
  isListed : Bool := false

/-- What can happen while telemetry is watched. -/
inductive Platform.Incident where
  /-- The connected device pushes a value. -/
  | notify (characteristic : Uuid) (data : Bytes)
  /-- The adapter reports the device with an address as gone. -/
  | gone (address : String)
  /-- The connected device is lost. -/
  | lose
  /-- The operator interrupts. -/
  | interrupt

/-- An adapter with its devices. A device goes by its position, counted from one. -/
structure Platform where
  adapters : Nat
  peripherals : List Platform.Peripheral
  /-- The steps that fail, with their messages. -/
  failures : Table String String
  incidents : List Platform.Incident
  /-- The device whose events are listened to. -/
  listening : Option Nat := none
  /-- Its events that have not been handed on yet. -/
  events : List LinkEvent := []

namespace Platform

/-- A platform without Bluetooth. -/
def absent : Platform where
  adapters := 0
  peripherals := []
  failures := Table.ofList [("manager", "Bluetooth is not supported")]
  incidents := []

/-- The values that a device has at first. -/
def initialValues : Table Uuid Bytes :=
  Table.ofList ((Profile.sensor.channels ++ Profile.alarm.channels).map fun spec =>
    (spec.uuid, spec.wire.zeros))

/-! ### Listing services -/

/-- Whether a list of identifiers stands before another, or is the same. -/
def precedes : List Uuid → List Uuid → Bool
  | [], _ => true
  | _ :: _, [] => false
  | u :: us, v :: vs => if u = v then precedes us vs else u.le v

/-- Services as the platform lists them: in the order of their identifiers, as are the
characteristics in each. -/
def inOrder (services : List Service) : List Service :=
  let sorted := services.map fun service =>
    { service with
      characteristics := (service.characteristics.mergeSort fun u v => u.le v).eraseDups }
  (sorted.mergeSort fun s t =>
    precedes (s.uuid :: s.characteristics) (t.uuid :: t.characteristics)).eraseDups

/-- Whether a device lists a characteristic, its services having been listed before. -/
def Peripheral.lists (peripheral : Peripheral) (handle : Handle) : Bool :=
  peripheral.isListed && !peripheral.forgotten.contains handle.uuid &&
    peripheral.services.any fun service =>
      service.uuid == handle.service && service.characteristics.contains handle.uuid

/-! ### Steps -/

/-- The name by which a characteristic is known here. -/
def characteristicName (uuid : Uuid) : String :=
  match Channel.all.find? fun channel => Uuid.ofChannel channel == uuid with
  | some channel => channel.name
  | none => uuid.text

/-- The key under which a step can be made to fail. -/
def key : RadioStep → String
  | .startScan => "start_scan"
  | .stopScan => "stop_scan"
  | .connect _ => "connect"
  | .disconnect _ => "disconnect"
  | .notifications _ => "notifications"
  | .adapterEvents => "adapter_events"
  | .discover _ => "discover"
  | .subscribe _ uuid => "subscribe:" ++ characteristicName uuid
  | .read _ uuid => "read:" ++ characteristicName uuid
  | .write _ uuid _ => "write:" ++ characteristicName uuid

/-- The result of what may be set to fail. -/
def attempt (p : Platform) (key : String) : Except Fault Unit :=
  match p.failures.get? key with
  | some message => .error (.runtime message)
  | none => .ok ()

/-- The device with a number. -/
def peripheral? (p : Platform) (number : Nat) : Option Peripheral :=
  if number = 0 then none else p.peripherals[number - 1]?

/-- Changes a device. -/
def modify (p : Platform) (number : Nat) (f : Peripheral → Peripheral) : Platform :=
  if number = 0 then p else { p with peripherals := p.peripherals.modify (number - 1) f }

/-- The result of a step on a device, which has to be connected. -/
def attemptOn (p : Platform) (number : Nat) (step : RadioStep) : Except Fault Unit :=
  if (p.peripheral? number).any Peripheral.isConnected then p.attempt (key step)
  else .error .notConnected

/-- An event of a device, if it is the one that is listened to. -/
def report (p : Platform) (number : Nat) (event : LinkEvent) : Platform :=
  if p.listening == some number then { p with events := p.events ++ [event] } else p

/-- A device that is connected no more is reported gone. -/
def drop (p : Platform) (number : Nat) : Platform :=
  if (p.peripheral? number).any Peripheral.isConnected then
    (p.modify number fun device => { device with isConnected := false }).report number .disconnected
  else p

/-- A device as a scan notices it. -/
def sighting (p : Platform) (device : Peripheral) : Sighting where
  address := device.address
  advertisement :=
    (p.attempt "properties").map fun _ =>
      if device.isSilent then none else some ⟨device.name, device.advertised, device.strength⟩

/-- What a scan gives. -/
def survey (p : Platform) : Survey where
  manager := p.attempt "manager"
  adapters := (p.attempt "adapters").map fun _ => p.adapters
  start := p.attempt (key .startScan)
  sightings := (p.attempt "peripherals").map fun _ => p.peripherals.map p.sighting
  stop := p.attempt (key .stopScan)

/-- The result of a step for a characteristic; nothing if the device does not list it. -/
def forListed {α : Type} (p : Platform) (number : Nat) (handle : Handle) (result : α) :
    Option α :=
  if (p.peripheral? number).any fun device => device.lists handle then some result else none

/-- **Carries a call out**: the platform after it and the results of its steps. -/
def carryOut (p : Platform) : Call → Platform × Radio.Result
  | .available =>
    (p, .availability (p.attempt "manager") ((p.attempt "adapters").map fun _ => p.adapters))
  | .requestDevice => (p, .survey p.survey)
  | .connect link =>
    let result := p.attempt (key (.connect link.number))
    (if result.toBool then
      p.modify link.number fun device => { device with isConnected := true }
    else p, .done result)
  | .disconnect link =>
    let result := p.attempt (key (.disconnect link.number))
    (if result.toBool then p.drop link.number else p, .done result)
  | .events link =>
    let notifications := p.attemptOn link.number (.notifications link.number)
    let adapterEvents := p.attempt (key .adapterEvents)
    (if notifications.toBool && adapterEvents.toBool then
      { p with listening := some link.number, events := [] }
    else p, .streams notifications adapterEvents)
  | .services link =>
    let result := p.attemptOn link.number (.discover link.number)
    (if result.toBool then
      p.modify link.number fun device => { device with isListed := true }
    else p,
      .services (result.map fun _ =>
        (((p.peripheral? link.number).map Peripheral.services).map inOrder).getD []))
  | .subscribe link handle =>
    (p, .acknowledgement (p.forListed link.number handle
      (p.attemptOn link.number (.subscribe link.number handle.uuid))))
  | .read link handle =>
    let values := (p.peripheral? link.number).map Peripheral.values
    (p, .data (p.forListed link.number handle
      ((p.attemptOn link.number (.read link.number handle.uuid)).map fun _ =>
        (values.bind (·.get? handle.uuid)).getD [])))
  | .write link handle data =>
    let result := p.attemptOn link.number (.write link.number handle.uuid data)
    let listed := p.forListed link.number handle result
    (if listed.any Except.toBool then
      p.modify link.number fun device =>
        { device with values := device.values.insert handle.uuid data }
    else p, .acknowledgement listed)

/-- A step as it is written down: the device it is about, its key, and the bytes of a
write. -/
def describe (p : Platform) (step : RadioStep) : String :=
  let device := match step.device? with
    | some number => ((p.peripheral? number).map Peripheral.address).getD "" ++ " "
    | none => ""
  let bytes := match step with
    | .write _ _ data => "=" ++ data.hex
    | _ => ""
  device ++ key step ++ bytes

/-! ### Incidents -/

/-- **The platform after an incident.** -/
def suffer (p : Platform) : Incident → Platform
  | .notify characteristic data =>
    match p.listening with
    | some number => p.report number (.notification characteristic data)
    | none => p
  | .gone address =>
    match p.listening with
    | some number =>
      if (p.peripheral? number).any (·.address == address) then p.report number .disconnected
      else p
    | none => p
  | .lose =>
    match p.listening with
    | some number => p.drop number
    | none => p
  | .interrupt => p

end Platform

end CarrierLink
