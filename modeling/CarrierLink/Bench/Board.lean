import CarrierLink.Discovery
import CarrierLink.Link

/-!
# A simulated board

A bench holds one board that can be found and linked to, and lets its operator interfere:
calls can be held back at a gate and let go later, made to fail, or made to lose the link
they were made on, and the board can push values and drop its links at any moment.

A call first arrives (`CarrierLink.Bench.arrive`): it is written down, fails at once if it
needs an open link and has none, and stops at its gate if that is held. Once through the
gate it is carried out (`CarrierLink.Bench.perform`).
-/

namespace CarrierLink

/-! ### What a board exposes -/

/-- The services of a board that runs a profile: those of the profile, each with the
characteristics of the channels in it, in profile order. -/
def Profile.boardServices (profile : Profile) : List Service :=
  profile.services.map fun uuid =>
    ⟨uuid, (profile.channels.filter fun spec => profile.serviceOf spec.role == some uuid).map
      ChannelSpec.uuid⟩

/-- What a characteristic of this shape holds at first. -/
def Wire.zeros (wire : Wire) : Bytes := List.replicate (wire.size?.getD 0) 0

/-- The values that a board running a profile starts with. -/
def Profile.boardValues (profile : Profile) : Table Uuid Bytes :=
  Table.ofList (profile.channels.map fun spec => (spec.uuid, spec.wire.zeros))

/-- A board within reach. -/
structure Board where
  name : Option String
  address : String
  advertised : List Uuid
  services : List Service

/-! ### The bench -/

/-- A link as the bench sees it. -/
structure Bench.Line where
  name : Option String
  isOpen : Bool := false
  /-- Whether the link still has a stream of events that grows. -/
  isStreaming : Bool := false
  /-- Events that the link's pump has not had yet. -/
  queue : List LinkEvent := []

/-- A call that stopped at a gate. -/
structure Bench.Wait where
  task : Nat
  slot : Nat
  key : String
  /-- Whether the gate has been opened for it. -/
  isReleased : Bool := false

/-- A board, its links, and what the operator of the bench has set. -/
structure Bench where
  profile : Profile
  filter : Filter
  board : Option Board
  isAvailable : Bool
  values : Table Uuid Bytes
  /-- Link number `n` is at position `n - 1`. -/
  lines : List Bench.Line := []
  held : List String := []
  failures : Table String String := Table.empty
  dropping : List String := []
  /-- The calls at the gates: first those that have been let go, in that order, then the
  others in the order in which they came. -/
  waiting : List Bench.Wait := []
  /-- The calls of the present step. -/
  log : List String := []

namespace Bench

/-- The name by which a characteristic is known here: the first channel that has it. -/
def channelName (profile : Profile) (uuid : Uuid) : String :=
  match profile.channels.find? fun spec => spec.uuid == uuid with
  | some spec => spec.channel.name
  | none => uuid.text

/-- The gate of a call. -/
def key (b : Bench) : Call → String
  | .available => "available"
  | .requestDevice => "request_device"
  | .connect _ => "connect"
  | .disconnect _ => "disconnect"
  | .events _ => "events"
  | .services _ => "services"
  | .subscribe _ handle => "subscribe:" ++ channelName b.profile handle.uuid
  | .read _ handle => "read:" ++ channelName b.profile handle.uuid
  | .write _ handle _ => "write:" ++ channelName b.profile handle.uuid

/-- A call as it is written down: the link and the gate, and the bytes of a write. -/
def entry (b : Bench) (call : Call) : String :=
  let line := match call.link? with
    | some link => toString link.number ++ ":"
    | none => ""
  let bytes := match call with
    | .write _ _ data => "=" ++ data.hex
    | _ => ""
  line ++ b.key call ++ bytes

/-- The activity that a failure of a call is reported under. -/
def activity : Call → Activity
  | .available | .requestDevice => .startingScan
  | .connect _ => .connecting
  | .disconnect _ => .disconnecting
  | .events _ => .openingNotifications
  | .services _ => .discoveringServices
  | .subscribe .. => .subscribing
  | .read .. => .reading
  | .write .. => .writing

/-- A call's failure with a message. -/
def failure (call : Call) (message : String) : Reply :=
  let e : Error := .transport (activity call) (.note message)
  match call with
  | .available => .availability false
  | .requestDevice => .device (.error e)
  | .services _ => .services (.error e)
  | .read .. => .data (.error e)
  | _ => .done (.error e)

/-! ### Links -/

/-- Changes a link; a number that is no link's is ignored. -/
def modifyLine (b : Bench) (number : Nat) (f : Line → Line) : Bench :=
  if number = 0 then b else { b with lines := b.lines.modify (number - 1) f }

/-- The link with a number. -/
def line? (b : Bench) (number : Nat) : Option Line :=
  if number = 0 then none else b.lines[number - 1]?

/-- A link that is lost: closed, a disconnect as the last event of its stream. -/
def Line.lose (line : Line) : Line :=
  { line with
    isOpen := false
    isStreaming := false
    queue := if line.isStreaming then line.queue ++ [.disconnected] else line.queue }

/-- A link whose stream ends without a word. -/
def Line.endStream (line : Line) : Line := { line with isStreaming := false }

/-- A link with one more notification, if it has a stream. -/
def Line.notify (line : Line) (uuid : Uuid) (data : Bytes) : Line :=
  if line.isStreaming then { line with queue := line.queue ++ [.notification uuid data] }
  else line

/-- Whether a call fails at once on a link that is not open. -/
def needsOpenLink : Call → Bool
  | .services _ | .subscribe .. | .read .. | .write .. => true
  | _ => false

/-! ### Calls -/

/-- What a call does when nothing interferes. -/
def effect (b : Bench) : Call → Bench × Reply
  | .available => (b, .availability b.isAvailable)
  | .requestDevice =>
    match b.board with
    | some board =>
      if b.filter.accepts board.name board.address board.advertised then
        ({ b with lines := b.lines ++ [{ name := board.name }] },
          .device (.ok ⟨b.lines.length + 1, board.name⟩))
      else (b, .device (.error .deviceSelectionAborted))
    | none => (b, .device (.error .deviceSelectionAborted))
  | .connect link =>
    (b.modifyLine link.number fun line => { line with isOpen := true }, .done (.ok ()))
  | .disconnect link =>
    (b.modifyLine link.number fun line => if line.isOpen then line.lose else line, .done (.ok ()))
  | .events link =>
    (b.modifyLine link.number fun line => { line with isStreaming := true, queue := [] },
      .done (.ok ()))
  | .services _ => (b, .services (.ok ((b.board.map Board.services).getD [])))
  | .subscribe .. => (b, .done (.ok ()))
  | .read link handle =>
    match b.values.get? handle.uuid with
    | some data => (b, .data (.ok data))
    | none => (b, failure (.read link handle) "unknown characteristic")
  | .write _ handle data => ({ b with values := b.values.insert handle.uuid data }, .done (.ok ()))

/-- Whether a call's gate can be set to lose the link. -/
def canDrop : Call → Bool
  | .available | .requestDevice | .disconnect _ => false
  | _ => true

/-- **Carries a call out** that is through its gate: it fails if its gate is set to fail;
otherwise it takes effect, and loses its link if its gate is set to do that, once. -/
def perform (b : Bench) (call : Call) : Bench × Reply :=
  let key := b.key call
  match call, b.failures.get? key with
  | .available, _ => b.effect call
  | _, some message => (b, failure call message)
  | _, none =>
    let (b, reply) := b.effect call
    match call.link? with
    | some link =>
      if canDrop call && b.dropping.contains key then
        let b := { b with dropping := b.dropping.filter (· != key) }
        (b.modifyLine link.number Line.lose, reply)
      else (b, reply)
    | none => (b, reply)

/-- **A call arrives**: the reply to it, or none while it waits at its gate. -/
def arrive (b : Bench) (task slot : Nat) (call : Call) : Bench × Option Reply :=
  let key := b.key call
  let b := { b with log := b.log ++ [b.entry call] }
  let isOpen := ((call.link?.bind fun link => b.line? link.number).map Line.isOpen).getD false
  if needsOpenLink call && !isOpen then (b, some (failure call "link closed"))
  else if b.held.contains key then
    ({ b with waiting := b.waiting ++ [{ task, slot, key }] }, none)
  else
    let (b, reply) := b.perform call
    (b, some reply)

/-! ### The operator of the bench -/

/-- What the operator can do. A link is given by its number; without one, the newest is
meant. -/
inductive Command where
  | hold (key : String)
  | release (key : String)
  | fail (key message : String)
  | unfail (key : String)
  | dropAt (key : String)
  | notify (uuid : Uuid) (data : Bytes) (link : Option Nat)
  | dropLink (link : Option Nat)
  | endStream (link : Option Nat)
  | setValue (uuid : Uuid) (data : Option Bytes)
  | setAvailable (available : Bool)
  | setBoard (board : Option Board)

/-- The number of the link that is meant. -/
def lineNumber (b : Bench) (link : Option Nat) : Nat := link.getD b.lines.length

/-- The calls at the gates after one is opened: those that were let go before, those that are
let go now, then those that still wait. -/
def release (key : String) (waiting : List Wait) : List Wait :=
  let (opened, others) := waiting.partition fun wait => wait.key == key && !wait.isReleased
  let (gone, held) := others.partition Wait.isReleased
  gone ++ opened.map (fun wait => { wait with isReleased := true }) ++ held

/-- The bench after a command. -/
def execute (b : Bench) : Command → Bench
  | .hold key => { b with held := key :: b.held }
  | .release key => { b with held := b.held.filter (· != key), waiting := release key b.waiting }
  | .fail key message => { b with failures := b.failures.insert key message }
  | .unfail key => { b with failures := b.failures.erase key }
  | .dropAt key => { b with dropping := key :: b.dropping }
  | .notify uuid data link => b.modifyLine (b.lineNumber link) fun line => line.notify uuid data
  | .dropLink link => b.modifyLine (b.lineNumber link) Line.lose
  | .endStream link => b.modifyLine (b.lineNumber link) Line.endStream
  | .setValue uuid (some data) => { b with values := b.values.insert uuid data }
  | .setValue uuid none => { b with values := b.values.erase uuid }
  | .setAvailable available => { b with isAvailable := available }
  | .setBoard board => { b with board }

end Bench

end CarrierLink
