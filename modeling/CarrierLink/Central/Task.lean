import CarrierLink.Central.Connection
import CarrierLink.Central.Script

/-!
# Tasks of a central

An operation on a central runs as a task. A task works without interruption until it needs
an answer from the platform; then it waits with the calls that it has queued or sent, and
each answer wakes it for one more turn. A turn (`CarrierLink.Turn`) is what such a stretch
of work leaves behind: the central, the callbacks it made, in order, and the task with its
next calls.

* `CarrierLink.Task.start`: the first turn of an operation.
* `CarrierLink.Task.answer`: the turn after a reply.

A connect cycle goes through the stages of `CarrierLink.Stage`. Its subscriptions are all
asked for at once, and one that fails ends the cycle and drops the others; among very many
(`CarrierLink.groupLimit`) it does so only when all before it have been answered. The first
reads are all asked for at once too, and one that fails is merely skipped.
-/

namespace CarrierLink

/-! ### Input and output -/

/-- A request that has passed its checks. -/
structure Transfer where
  /-- The session that was live when the request was checked. -/
  session : Nat
  link : Link
  handle : Handle
  spec : ChannelSpec
  /-- The value to write and its bytes; nothing for a read. -/
  outgoing : Option (Value × Bytes)
  deriving DecidableEq, Repr

namespace Transfer

/-- **The checks of a request**, in this order: the profile knows the channel, the channel
allows the access, the connection is set up, and a value to be written can be encoded. -/
def check (c : Central) : Request → Except Error Transfer
  | .read channel => do
    let spec ← c.entry channel
    if !spec.access.canRead then throw (.unsupportedOperation channel .read)
    let (session, link, handle) ← c.target channel
    return ⟨session, link, handle, spec, none⟩
  | .write channel value => do
    let spec ← c.entry channel
    if !spec.access.canWrite then throw (.unsupportedOperation channel .write)
    let (session, link, handle) ← c.target channel
    let data ← (spec.wire.encode value).mapError .encode
    return ⟨session, link, handle, spec, some (value, data)⟩

/-- The call that carries a request out. -/
def call (t : Transfer) : Call :=
  match t.outgoing with
  | none => .read t.link t.handle
  | some (_, data) => .write t.link t.handle data

/-- The value that bytes of this channel stand for is kept. -/
def keep (t : Transfer) (c : Central) (data : Bytes) : Central :=
  match t.spec.wire.decode data with
  | .ok value => c.store t.session t.spec.channel value
  | .error _ => c

/-- **The result of a request.** A reply only counts while its session is live; a reply
that does not fit the call counts for nothing. -/
def conclude (t : Transfer) (c : Central) (reply : Reply) : Option (Central × Response) :=
  match t.outgoing, reply with
  | none, .data (.error e) => some (c, .error e)
  | none, .data (.ok data) =>
    if c.isLive t.session then
      match t.spec.wire.decode data with
      | .ok value => some (c.store t.session t.spec.channel value, .ok value)
      | .error e => some (c, .error (.decode e))
    else some (c, .error .notConnected)
  | some _, .done (.error e) => some (c, .error e)
  | some (value, data), .done (.ok ()) =>
    if c.isLive t.session then some (t.keep c data, .ok value)
    else some (c, .error .notConnected)
  | _, _ => none

end Transfer

/-- One of two requests at the same time. -/
inductive Slot where
  | pending (transfer : Transfer)
  | settled (response : Response)

/-! ### Tasks -/

/-- Up to so many calls at the same time are looked after together, so that whichever fails
counts at once; the outcomes of more are gathered in their order. -/
def groupLimit : Nat := 30

/-- How far a connect cycle has come, by what it waits for. -/
inductive Stage where
  | checking
  | searching
  /-- The device came after the session had ended; its link is closed again. -/
  | refusing
  | connecting (link : Link)
  | listening (link : Link)
  | discovering (link : Link)
  /-- A subscription that has failed while one before it is still out is kept, by its slot. -/
  | subscribing (link : Link) (telemetry : List (ChannelSpec × Handle))
      (failed : Option (Nat × Error))
  | reading (link : Link) (telemetry : List (ChannelSpec × Handle))
  /-- The cycle has failed; its link is closed. -/
  | closing (error : Error)
  deriving DecidableEq, Repr

/-- What a task is about. -/
inductive Work where
  | attempt (session : Nat) (stage : Stage)
  | hangUp (session : Option Nat)
  | single (transfer : Transfer) (next : Response → Script)
  | pair (first second : Slot) (next : Response → Response → Script)
  | finished (outcome : Outcome)

/-- A call of a task; the slot tells apart the calls that are out at the same time. -/
structure Ticket where
  slot : Nat
  call : Call
  deriving DecidableEq, Repr

/-- An operation on its way: what it is about, the calls it has still to send, and the calls
it waits for. -/
structure Task where
  work : Work
  queued : List Ticket
  sent : List Ticket

namespace Task

/-- A task that has ended. -/
def finished (outcome : Outcome) : Task := ⟨.finished outcome, [], []⟩

/-- A task that goes on with one call. -/
def asking (work : Work) (call : Call) : Task := ⟨work, [⟨0, call⟩], []⟩

/-- A task that goes on with several calls at the same time. -/
def askingAll (work : Work) (calls : List Call) : Task :=
  ⟨work, calls.mapIdx fun slot call => ⟨slot, call⟩, []⟩

/-- How a task ended, if it has. -/
def outcome? (t : Task) : Option Outcome :=
  match t.work with
  | .finished outcome => some outcome
  | _ => none

/-- The calls of the task that have no answer yet. -/
def unanswered (t : Task) : List Ticket := t.queued ++ t.sent

/-- Whether no call of the task is left. -/
def isIdle (t : Task) : Bool := t.unanswered.isEmpty

end Task

/-- What a stretch of work leaves behind. -/
structure Turn where
  central : Central
  callbacks : List Callback
  task : Task

/-- The same turn with callbacks made before it. -/
def Turn.after (callbacks : List Callback) (turn : Turn) : Turn :=
  { turn with callbacks := callbacks ++ turn.callbacks }

/-! ### Connect cycles -/

namespace Attempt

/-- The end of a failed cycle, after its link has been closed. -/
def report (c : Central) (e : Error) : Turn :=
  ⟨c, [.status ("Error: " ++ e.message) .warn], Task.finished (.error e)⟩

/-- **Gives a cycle up**: its session ends without callbacks, and the link is closed, be it
the session's or, if the session has ended before, the one that the cycle had got. -/
def fail (c : Central) (session : Nat) (got : Option Link) (e : Error) : Turn :=
  let (link, c) := c.abandon session
  match link.or got with
  | some link => ⟨c, [], Task.asking (.attempt session (.closing e)) (.disconnect link)⟩
  | none => report c e

/-- The end of a cycle that has read everything. -/
def complete (c : Central) (session : Nat) (link : Link) : Turn :=
  match c.enter session .connected with
  | .ok c => ⟨c, [.connected true, .status "Connected" .ok], Task.finished (.ok .done)⟩
  | .error e => fail c session (some link) e

/-- The cycle has all its subscriptions and asks for the present values. -/
def startReading (c : Central) (session : Nat) (link : Link)
    (telemetry : List (ChannelSpec × Handle)) : Turn :=
  if telemetry.isEmpty then complete c session link
  else
    ⟨c, [], Task.askingAll (.attempt session (.reading link telemetry))
      (telemetry.map fun (_, handle) => .read link handle)⟩

/-- The cycle has its handles and asks for all its subscriptions. -/
def startSubscribing (c : Central) (session : Nat) (link : Link)
    (telemetry : List (ChannelSpec × Handle)) : Turn :=
  if telemetry.isEmpty then startReading c session link telemetry
  else
    ⟨c, [], Task.askingAll (.attempt session (.subscribing link telemetry none))
      (telemetry.map fun (_, handle) => .subscribe link handle)⟩

/-- A cycle that goes on with one call, and a status before it. -/
def next (c : Central) (session : Nat) (stage : Stage) (call : Call) (status : String) : Turn :=
  ⟨c, [.status status .muted], Task.asking (.attempt session stage) call⟩

/-- The cycle has a stream of events: its pump runs, and the services are asked for. -/
def startDiscovering (c : Central) (session : Nat) (link : Link) : Turn :=
  let c := c.startPump session link
  match c.enter session .resolvingServices with
  | .ok c => next c session (.discovering link) (.services link) "Discovering services…"
  | .error e => fail c session (some link) e

/-- The cycle knows the services of the device. -/
def resolve (c : Central) (session : Nat) (link : Link) (services : List Service) : Turn :=
  match Handles.resolve c.profile services with
  | .error e => fail c session (some link) e
  | .ok handles =>
    match c.takeHandles session handles with
    | .error e => fail c session (some link) e
    | .ok c => startSubscribing c session link (c.profile.telemetryHandles handles)

/-- The first of the failed subscriptions, with one more outcome. -/
def firstFailed (failed : Option (Nat × Error)) (slot : Nat) (outcome : Except Error Unit) :
    Option (Nat × Error) :=
  match outcome, failed with
  | .ok (), failed => failed
  | .error e, none => some (slot, e)
  | .error e, some (first, e') => if slot < first then some (slot, e) else some (first, e')

/-- The cycle has one more subscription answered; `rest` is the task without that call. -/
def proceedSubscribing (c : Central) (session : Nat) (link : Link)
    (telemetry : List (ChannelSpec × Handle)) (failed : Option (Nat × Error)) (rest : Task) :
    Turn :=
  let waiting : Turn :=
    ⟨c, [], { rest with work := .attempt session (.subscribing link telemetry failed) }⟩
  match failed with
  | some (slot, e) =>
    if groupLimit < telemetry.length && rest.unanswered.any fun ticket => ticket.slot < slot then
      waiting
    else fail c session (some link) e
  | none => if rest.isIdle then startReading c session link telemetry else waiting

/-- What a first read does with the bytes of a channel. -/
def receive (c : Central) (session : Nat) (spec : ChannelSpec) (data : Except Error Bytes) :
    Central × List Callback :=
  match data with
  | .ok data =>
    match spec.wire.decode data with
    | .ok value => c.deliver session spec.channel value
    | .error _ => (c, [])
  | .error _ => (c, [])

/-- **The turn of a connect cycle after a reply** to the call of a slot; `rest` is the task
without that call. -/
def answer (c : Central) (session : Nat) (stage : Stage) (rest : Task) (slot : Nat)
    (reply : Reply) : Option Turn :=
  match stage, reply with
  | .checking, .availability available =>
    if available then some (next c session .searching .requestDevice "Searching for device…")
    else some (fail c session none .unsupportedPlatform)
  | .searching, .device (.error e) => some (fail c session none e)
  | .searching, .device (.ok link) =>
    match c.takeLink session link with
    | some c => some (next c session (.connecting link) (.connect link) "Connecting…")
    | none => some ⟨c, [], Task.asking (.attempt session .refusing) (.disconnect link)⟩
  | .refusing, .done _ => some (fail c session none .notConnected)
  | .connecting link, .done (.error e) => some (fail c session (some link) e)
  | .connecting link, .done (.ok ()) =>
    some ⟨c, [], Task.asking (.attempt session (.listening link)) (.events link)⟩
  | .listening link, .done (.error e) => some (fail c session (some link) e)
  | .listening link, .done (.ok ()) => some (startDiscovering c session link)
  | .discovering link, .services (.error e) => some (fail c session (some link) e)
  | .discovering link, .services (.ok services) => some (resolve c session link services)
  | .subscribing link telemetry failed, .done outcome =>
    some (proceedSubscribing c session link telemetry (firstFailed failed slot outcome) rest)
  | .reading link telemetry, .data data => do
    let (spec, _) ← telemetry[slot]?
    let (c, callbacks) := receive c session spec data
    let turn := if rest.isIdle then complete c session link else ⟨c, [], rest⟩
    return turn.after callbacks
  | .closing e, .done _ => some (report c e)
  | _, _ => none

end Attempt

/-! ### Scripts -/

/-- The result of a request that has failed its checks, or the request on its way. -/
def Slot.ofCheck : Except Error Transfer → Slot
  | .ok transfer => .pending transfer
  | .error e => .settled (.error e)

/-- The call of a request on its way. -/
def Slot.tickets (number : Nat) : Slot → List Ticket
  | .pending transfer => [⟨number, transfer.call⟩]
  | .settled _ => []

/-- **Works a script off** up to the next request that has to wait. -/
def Script.run (c : Central) : Script → Turn
  | finish outcome => ⟨c, [], Task.finished outcome⟩
  | report text level next => (next.run c).after [.status text level]
  | exchange request next =>
    match Transfer.check c request with
    | .ok transfer => ⟨c, [], Task.asking (.single transfer next) transfer.call⟩
    | .error e => (next (.error e)).run c
  | exchangeBoth first second next =>
    match Slot.ofCheck (Transfer.check c first), Slot.ofCheck (Transfer.check c second) with
    | .settled r₁, .settled r₂ => (next r₁ r₂).run c
    | s₁, s₂ => ⟨c, [], ⟨.pair s₁ s₂ next, s₁.tickets 0 ++ s₂.tickets 1, []⟩⟩

/-- Two requests after one of them has a result: the script goes on when both have. -/
def Slot.proceed (c : Central) (first second : Slot) (next : Response → Response → Script)
    (rest : Task) : Turn :=
  match first, second with
  | .settled r₁, .settled r₂ => (next r₁ r₂).run c
  | _, _ => ⟨c, [], { rest with work := .pair first second next }⟩

/-! ### Operations -/

/-- What can be asked of a central. -/
inductive Operation where
  | connect
  | disconnect
  | run (script : Script)

/-- The end of closing a connection. -/
def hangUp (c : Central) (session : Option Nat) : Turn :=
  let (c, callbacks) := match session with
    | some session => c.close session
    | none => (c, [])
  ⟨c, callbacks, Task.finished (.ok .done)⟩

namespace Task

/-- **The first turn of an operation.** A connection is closed by what it is at this moment:
its link is closed if it has one, and its session is cleaned up afterwards. -/
def start (c : Central) : Operation → Turn
  | .connect =>
    match c.openSession with
    | .ok (session, c) => ⟨c, [], asking (.attempt session .checking) .available⟩
    | .error e => ⟨c, [], finished (.error e)⟩
  | .disconnect =>
    match c.connection.link with
    | some link => ⟨c, [], asking (.hangUp c.connection.session) (.disconnect link)⟩
    | none => hangUp c c.connection.session
  | .run script => script.run c

/-- **The turn after a reply** to the call of a slot; nothing if no such call is out or the
reply does not fit it. -/
def answer (c : Central) (t : Task) (slot : Nat) (reply : Reply) : Option Turn :=
  if t.sent.any fun ticket => ticket.slot == slot && reply.fits ticket.call then
    let rest := { t with sent := t.sent.filter fun ticket => ticket.slot != slot }
    match t.work with
    | .attempt session stage => Attempt.answer c session stage rest slot reply
    | .hangUp session => some (CarrierLink.hangUp c session)
    | .single transfer next => (transfer.conclude c reply).map fun (c, r) => (next r).run c
    | .pair first second next =>
      match slot, first, second with
      | 0, .pending transfer, second =>
        (transfer.conclude c reply).map fun (c, r) => Slot.proceed c (.settled r) second next rest
      | 1, first, .pending transfer =>
        (transfer.conclude c reply).map fun (c, r) => Slot.proceed c first (.settled r) next rest
      | _, _, _ => none
    | .finished _ => none
  else none

end Task

end CarrierLink
