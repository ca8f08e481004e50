import CarrierLink.Discovery
import CarrierLink.Link

/-!
# The radio

A central's calls are carried out by the radio of the platform, each in one or several
steps. This module says which steps those are (`CarrierLink.Radio.steps`) and what the
central gets to know of their results (`CarrierLink.Radio.reply?`).

A device is found by a scan of fixed length. A scan that has been started is stopped again
whether or not the devices could be listed, and a failed listing is reported rather than a
failed stop. The same survey (`CarrierLink.Survey`) serves to list what is there
(`CarrierLink.Survey.devices`) and to select a device (`CarrierLink.Survey.select`).
-/

namespace CarrierLink

/-! ### Surveys -/

/-- What a device tells about itself. -/
structure Advertisement where
  name : Option String
  services : List Uuid
  /-- How strongly it is received, in dBm. -/
  strength : Option Int
  deriving DecidableEq, Repr

/-- A device that the platform has noticed; it may not have advertised anything. -/
structure Sighting where
  address : String
  advertisement : Except Fault (Option Advertisement)

/-- The answers of the platform in the course of a scan. -/
structure Survey where
  manager : Except Fault Unit
  /-- How many adapters there are; the first is used. -/
  adapters : Except Fault Nat
  start : Except Fault Unit
  sightings : Except Fault (List Sighting)
  stop : Except Fault Unit

/-- A device that has advertised, by its position among the sightings, counted from one. -/
structure Advertiser where
  number : Nat
  address : String
  advertisement : Advertisement
  deriving DecidableEq, Repr

/-- A device as it is listed. -/
structure Device where
  name : String
  address : String
  strength : Option Int
  /-- Whether the filter would select it. -/
  isMatch : Bool
  deriving DecidableEq, Repr

namespace Radio

/-- A fault of the platform as an error. -/
def during {α : Type} (activity : Activity) (result : Except Fault α) : Except Error α :=
  result.mapError (.transport activity)

/-- Whether there is an adapter to use. -/
def adapter (manager : Except Fault Unit) (adapters : Except Fault Nat) : Except Error Unit := do
  during .openingManager manager
  if (← during .listingAdapters adapters) = 0 then throw .unsupportedPlatform

end Radio

namespace Survey

open Radio

/-- The device of a sighting, if it has advertised. -/
def advertiser (sighting : Sighting) (number : Nat) : Except Error (Option Advertiser) :=
  (during .readingAdvertisement sighting.advertisement).map
    (Option.map fun advertisement => ⟨number, sighting.address, advertisement⟩)

/-- The devices that have advertised, in the order of the sightings. -/
def listing (s : Survey) : Except Error (List Advertiser) := do
  let sightings ← during .listingPeripherals s.sightings
  let found ← (sightings.zipIdx 1).mapM fun (sighting, number) => advertiser sighting number
  return found.filterMap id

/-- **The result of a scan.** -/
def found (s : Survey) : Except Error (List Advertiser) := do
  adapter s.manager s.adapters
  during .startingScan s.start
  match s.listing, during .stoppingScan s.stop with
  | .ok found, .ok () => return found
  | .ok _, .error e => throw e
  | .error e, _ => throw e

end Survey

/-- Whether a filter accepts a device. -/
def Filter.selects (filter : Filter) (device : Advertiser) : Bool :=
  filter.accepts device.advertisement.name device.address device.advertisement.services

namespace Survey

/-- **Everything that advertises**, the devices that the filter accepts marked. -/
def devices (s : Survey) (filter : Filter) : Except Error (List Device) :=
  s.found.map (List.map fun device =>
    ⟨device.advertisement.name.getD "Unknown", device.address, device.advertisement.strength,
      filter.selects device⟩)

/-- **The first device that the filter accepts.** -/
def select (s : Survey) (filter : Filter) : Except Error Link := do
  match (← s.found).find? filter.selects with
  | some device => return ⟨device.number, device.advertisement.name⟩
  | none => throw .deviceSelectionAborted

end Survey

/-! ### Steps of a call -/

/-- A step of the radio; a device goes by the number of its link. -/
inductive RadioStep where
  | startScan
  | stopScan
  | connect (device : Nat)
  | disconnect (device : Nat)
  | notifications (device : Nat)
  | adapterEvents
  | discover (device : Nat)
  | subscribe (device : Nat) (characteristic : Uuid)
  | read (device : Nat) (characteristic : Uuid)
  | write (device : Nat) (characteristic : Uuid) (data : Bytes)
  deriving DecidableEq, Repr

/-- The device that a step is about. -/
def RadioStep.device? : RadioStep → Option Nat
  | startScan | stopScan | adapterEvents => none
  | connect device | disconnect device | notifications device | discover device => some device
  | subscribe device _ | read device _ | write device _ _ => some device

/-- The results of the steps of a call. A device may have forgotten a characteristic that it
once listed; then there is no step for it and no result. -/
inductive Radio.Result where
  | availability (manager : Except Fault Unit) (adapters : Except Fault Nat)
  | survey (survey : Survey)
  | done (result : Except Fault Unit)
  | streams (notifications adapterEvents : Except Fault Unit)
  | services (result : Except Fault (List Service))
  | data (result : Option (Except Fault Bytes))
  | acknowledgement (result : Option (Except Fault Unit))

namespace Radio

/-- The result of a step about a characteristic. -/
def present {α : Type} (activity : Activity) (handle : Handle)
    (result : Option (Except Fault α)) : Except Error α :=
  match result with
  | some result => during activity result
  | none =>
    .error (.transport activity (.note s!"characteristic {handle.uuid.text} was not discovered"))

/-- **What a central gets to know** of the results of a call; nothing if they are not those
of this call. -/
def reply? (filter : Filter) : Call → Result → Option Reply
  | .available, .availability manager adapters =>
    some (.availability (adapter manager adapters).toBool)
  | .requestDevice, .survey survey => some (.device (survey.select filter))
  | .connect _, .done result => some (.done (during .connecting result))
  | .disconnect _, .done result => some (.done (during .disconnecting result))
  | .events _, .streams notifications adapterEvents =>
    some (.done do
      during .openingNotifications notifications
      during .openingAdapterEvents adapterEvents)
  | .services _, .services result => some (.services (during .discoveringServices result))
  | .read _ handle, .data result => some (.data (present .reading handle result))
  | .write _ handle _, .acknowledgement result => some (.done (present .writing handle result))
  | .subscribe _ handle, .acknowledgement result =>
    some (.done (present .subscribing handle result))
  | _, _ => none

/-- A step and whether it succeeded. -/
def step {α : Type} (step : RadioStep) (result : Except Fault α) : RadioStep × Bool :=
  (step, result.toBool)

/-- The steps of a scan. -/
def scanSteps (survey : Survey) : List (RadioStep × Bool) :=
  if (adapter survey.manager survey.adapters).toBool then
    step .startScan survey.start ::
      if survey.start.toBool then [step .stopScan survey.stop] else []
  else []

/-- **The steps of a call**, each with whether it succeeded. Opening the manager and listing
adapters and devices leave the air alone and are not counted. -/
def steps : Call → Result → List (RadioStep × Bool)
  | .requestDevice, .survey survey => scanSteps survey
  | .connect link, .done result => [step (.connect link.number) result]
  | .disconnect link, .done result => [step (.disconnect link.number) result]
  | .events link, .streams notifications adapterEvents =>
    step (.notifications link.number) notifications ::
      if notifications.toBool then [step .adapterEvents adapterEvents] else []
  | .services link, .services result => [step (.discover link.number) result]
  | .read link handle, .data result =>
    result.toList.map (step (.read link.number handle.uuid))
  | .write link handle data, .acknowledgement result =>
    result.toList.map (step (.write link.number handle.uuid data))
  | .subscribe link handle, .acknowledgement result =>
    result.toList.map (step (.subscribe link.number handle.uuid))
  | _, _ => []

end Radio

end CarrierLink
