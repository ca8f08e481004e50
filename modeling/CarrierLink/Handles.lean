import CarrierLink.Error
import CarrierLink.Table

/-!
# Services, handles and routes

A connected device lists its services with their characteristics. The handles
(`CarrierLink.Handles`) are what a profile's channels resolve to there; the routes
(`CarrierLink.Routes`) say to which channel a pushed value belongs and how to decode it.

A profile written by hand may name a channel or a characteristic twice. Handles are
looked up by channel and routes by characteristic, and in both the last entry stands.
-/

namespace CarrierLink

/-- A service of a device and the characteristics in it. -/
structure Service where
  uuid : Uuid
  characteristics : List Uuid
  deriving DecidableEq, Repr

/-- The address of a characteristic on a device. -/
structure Handle where
  service : Uuid
  uuid : Uuid
  deriving DecidableEq, Repr

/-! ### Handles -/

/-- The handles of a profile's channels. -/
abbrev Handles := Table Channel Handle

namespace Handles

/-- The first service with an identifier. -/
def findService (services : List Service) (uuid : Uuid) : Except Error Service :=
  match services.find? fun s => s.uuid == uuid with
  | some service => .ok service
  | none => .error (.serviceNotFound uuid (services.map Service.uuid))

/-- The handle of one channel, given the services of the two roles. -/
def resolveChannel (primary : Service) (control : Option Service) (spec : ChannelSpec) :
    Except Error (Channel × Handle) :=
  let service := match spec.role with
    | .primary => some primary
    | .control => control
  match service with
  | some service =>
    if service.characteristics.contains spec.uuid then
      .ok (spec.channel, ⟨service.uuid, spec.uuid⟩)
    else .error (.characteristicUnavailable spec.channel spec.uuid)
  | none => .error (.characteristicUnavailable spec.channel spec.uuid)

/-- **Resolves every channel of a profile**: first its services have to be there, then each
characteristic in the service of its role, in profile order. -/
def resolve (profile : Profile) (services : List Service) : Except Error Handles := do
  let primary ← findService services profile.service
  let control ← profile.control.mapM (findService services)
  let handles ← profile.channels.mapM (resolveChannel primary control)
  return Table.ofList handles

end Handles

/-- The telemetry channels of a profile with their handles, in profile order. -/
def Profile.telemetryHandles (profile : Profile) (handles : Handles) :
    List (ChannelSpec × Handle) :=
  profile.telemetry.filterMap fun spec => (handles.get? spec.channel).map (spec, ·)

/-! ### Routes -/

/-- The channel and the shape of the values that a characteristic pushes. -/
abbrev Routes := Table Uuid (Channel × Wire)

namespace Routes

/-- Routes for every telemetry channel that has a handle. -/
def ofHandles (profile : Profile) (handles : Handles) : Routes :=
  Table.ofList ((profile.telemetryHandles handles).map fun (spec, handle) =>
    (handle.uuid, (spec.channel, spec.wire)))

/-- The channel of a pushed value and the value itself; nothing for a characteristic
without a route. -/
def dispatch (routes : Routes) (characteristic : Uuid) (data : Bytes) :
    Option (Channel × Except DecodeError Value) :=
  (routes.get? characteristic).map fun (channel, wire) => (channel, wire.decode data)

/-- The channels that have a route. -/
def channels (routes : Routes) : List Channel := routes.values.map Prod.fst

end Routes

end CarrierLink
