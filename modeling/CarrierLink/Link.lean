import CarrierLink.Handles

/-!
# The platform below a central

A central reaches a board through calls: it asks whether there is Bluetooth at all, has a
device selected, and then works on the link to that device. Each call is answered once,
now or later, and any of the replies that fit the call may come.
-/

namespace CarrierLink

/-- A link to a selected device. The platform numbers its links so that they can be told
apart. -/
structure Link where
  number : Nat
  /-- The name under which the device advertised. -/
  name : Option String
  deriving DecidableEq, Repr

/-- What a central asks of the platform. -/
inductive Call where
  | available
  | requestDevice
  | connect (link : Link)
  | disconnect (link : Link)
  /-- Opens the stream of the link's events. -/
  | events (link : Link)
  | services (link : Link)
  | subscribe (link : Link) (handle : Handle)
  | read (link : Link) (handle : Handle)
  | write (link : Link) (handle : Handle) (data : Bytes)
  deriving DecidableEq, Repr

/-- The link that a call is made on. -/
def Call.link? : Call → Option Link
  | available | requestDevice => none
  | connect link | disconnect link | events link | services link => some link
  | subscribe link _ | read link _ | write link _ _ => some link

/-- What the platform answers. -/
inductive Reply where
  | availability (available : Bool)
  | device (result : Except Error Link)
  /-- The answer to a call that gives nothing back. -/
  | done (result : Except Error Unit)
  | services (result : Except Error (List Service))
  | data (result : Except Error Bytes)

/-- Which replies answer which calls. -/
def Reply.fits : Reply → Call → Bool
  | availability _, .available => true
  | device _, .requestDevice => true
  | done _, .connect _ | done _, .disconnect _ | done _, .events _ => true
  | done _, .subscribe .. | done _, .write .. => true
  | services _, .services _ => true
  | data _, .read .. => true
  | _, _ => false

/-- What a link reports on its own. -/
inductive LinkEvent where
  | notification (characteristic : Uuid) (data : Bytes)
  | disconnected
  deriving DecidableEq, Repr

end CarrierLink
