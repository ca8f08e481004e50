import CarrierLink.Link
import CarrierLink.Callback

/-!
# The connection of a central

A central owns at most one connection. Each connect cycle is a numbered session; work that
was started for a session may come to the connection after the session has ended, so every
update names its session and has no effect unless that session is the live one.

The functions here are the updates. Each runs without interruption, and together they are
all that ever changes a connection. They come in the order of a cycle: `openSession`,
`takeLink`, `startPump`, `enter`, `takeHandles`, then `deliver` and `store` while values come
and go, and `abandon` or `close` at the end: a session that fails by itself is abandoned
without a callback, any other is closed and the observer is told.
-/

namespace CarrierLink

/-! ### The state -/

/-- How far a connection has come. -/
inductive Phase where
  | disconnected
  | connecting
  | resolvingServices
  | subscribing
  | connected
  deriving DecidableEq, Repr, Inhabited

/-- The name of a phase. -/
def Phase.name : Phase → String
  | disconnected => "disconnected"
  | connecting => "connecting"
  | resolvingServices => "resolving services"
  | subscribing => "subscribing"
  | connected => "connected"

/-- What is known of the one connection. -/
structure Connection where
  phase : Phase := .disconnected
  /-- The live session. -/
  session : Option Nat := none
  link : Option Link := none
  handles : Option Handles := none
  routes : Option Routes := none
  /-- The session whose pump is registered. -/
  pump : Option Nat := none
  /-- The latest value of each channel on this connection. -/
  values : Table Channel Value := Table.empty

/-- The task that hands on the events of a session's link. -/
structure Pump where
  session : Nat
  link : Link
  deriving DecidableEq, Repr

/-- A central: its connection, how many sessions it has begun, and the pumps that run. -/
structure Central where
  profile : Profile
  connection : Connection := {}
  /-- The number of the last session that was begun. A counter of 64 bits holds it as long as
  fewer than `2 ^ 64` sessions have been; with more, the numbers would come round again. -/
  sessions : Nat := 0
  pumps : List Pump := []

namespace Central

/-- Whether a session is the live one. -/
def isLive (c : Central) (session : Nat) : Bool := c.connection.session == some session

/-- Whether the connection is fully set up. -/
def isConnected (c : Central) : Bool := c.connection.phase == .connected

/-- The name of the device that the connection is to. -/
def deviceName (c : Central) : Option String := c.connection.link.bind Link.name

/-- The latest value of a channel that was read, written or pushed on this connection. -/
def lastValue (c : Central) (channel : Channel) : Option Value :=
  c.connection.values.get? channel

/-- The central without the pump of a session. -/
def stopPump (c : Central) (session : Nat) : Central :=
  { c with pumps := c.pumps.filter fun pump => pump.session != session }

/-! ### Setting a connection up -/

/-- A new session; only from the disconnected phase. -/
def openSession (c : Central) : Except Error (Nat × Central) :=
  if c.connection.phase = .disconnected then
    let session := c.sessions + 1
    .ok (session, { c with
      sessions := session
      connection := { c.connection with phase := .connecting, session := some session } })
  else .error .busy

/-- Gives a live session its link. -/
def takeLink (c : Central) (session : Nat) (link : Link) : Option Central :=
  if c.isLive session then
    some { c with connection := { c.connection with link := some link } }
  else none

/-- Runs the pump of a live session; a pump that comes too late is stopped at once. -/
def startPump (c : Central) (session : Nat) (link : Link) : Central :=
  if c.isLive session then
    { c with
      pumps := c.pumps ++ [⟨session, link⟩]
      connection := { c.connection with pump := some session } }
  else c

/-- Moves a live session to its next phase. -/
def enter (c : Central) (session : Nat) (phase : Phase) : Except Error Central :=
  if c.isLive session then .ok { c with connection := { c.connection with phase } }
  else .error .notConnected

/-- Gives a live session its handles and routes, and moves it on to subscribing. -/
def takeHandles (c : Central) (session : Nat) (handles : Handles) : Except Error Central :=
  if c.isLive session then
    .ok { c with connection := { c.connection with
      phase := .subscribing
      handles := some handles
      routes := some (Routes.ofHandles c.profile handles) } }
  else .error .notConnected

/-! ### Tearing it down -/

/-- The central with its connection as new, and without the pump that was registered. -/
def drop (c : Central) : Central :=
  let c := match c.connection.pump with
    | some session => c.stopPump session
    | none => c
  { c with connection := {} }

/-- Ends a live session without a word, and gives back its link for closing. -/
def abandon (c : Central) (session : Nat) : Option Link × Central :=
  if c.isLive session then (c.connection.link, c.drop) else (none, c)

/-- **Closes a live session and tells the observer**, whatever phase it is in. -/
def close (c : Central) (session : Nat) : Central × List Callback :=
  if c.isLive session && c.connection.phase != .disconnected then
    (c.drop, [.connected false, .status "Disconnected" .muted, .disconnected])
  else (c, [])

/-! ### Values -/

/-- Keeps a value of a live session. -/
def store (c : Central) (session : Nat) (channel : Channel) (value : Value) : Central :=
  if c.isLive session then
    { c with connection := { c.connection with
      values := c.connection.values.insert channel value } }
  else c

/-- Keeps a value of a live session and tells the observer. -/
def deliver (c : Central) (session : Nat) (channel : Channel) (value : Value) :
    Central × List Callback :=
  if c.isLive session then (c.store session channel value, [.value channel value])
  else (c, [])

/-- What a session's pump does with a pushed value: nothing before the routes are known,
for a characteristic without a route, or with bytes that do not decode. -/
def route (c : Central) (session : Nat) (characteristic : Uuid) (data : Bytes) :
    Central × List Callback :=
  if c.isLive session then
    match c.connection.routes.bind (Routes.dispatch · characteristic data) with
    | some (channel, .ok value) => c.deliver session channel value
    | _ => (c, [])
  else (c, [])

/-- What a session's pump does with an event of its link. -/
def receive (c : Central) (session : Nat) : LinkEvent → Central × List Callback
  | .notification characteristic data => c.route session characteristic data
  | .disconnected =>
    let (c, callbacks) := c.close session
    (c.stopPump session, callbacks)

/-- What a session's pump does when the stream of its link ends. -/
def endOfStream (c : Central) (session : Nat) : Central × List Callback :=
  c.receive session .disconnected

/-! ### Handles for input and output -/

/-- The entry of a channel in the profile. -/
def entry (c : Central) (channel : Channel) : Except Error ChannelSpec :=
  match c.profile.spec? channel with
  | some spec => .ok spec
  | none => .error (.unknownChannel channel c.profile.name)

/-- The live session, its link and a channel's handle, while connected. -/
def target (c : Central) (channel : Channel) : Except Error (Nat × Link × Handle) :=
  if c.connection.phase = .connected then
    match c.connection.session, c.connection.link, c.connection.handles with
    | some session, some link, some handles =>
      match handles.get? channel with
      | some handle => .ok (session, link, handle)
      | none => .error .notConnected
    | _, _, _ => .error .notConnected
  else .error .notConnected

end Central

end CarrierLink
