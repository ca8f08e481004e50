import CarrierLink.Bench.Board
import CarrierLink.Central.System
import CarrierLink.View

/-!
# A central on the bench

A session drives one central against a simulated board, step by step. In a step one thing
is done, and then whoever can go on does so: tasks whose calls were let go, and pumps that
have events to hand on. They take turns in the order in which they became able to
(`CarrierLink.Session.settle`), and a turn lasts until its actor has to wait. All of it is
actions of `CarrierLink.System.step`, chosen in this order, with the replies of the bench.
-/

namespace CarrierLink

/-- A central, its board, and what has been seen in the present step. -/
structure Session where
  bench : Bench
  system : System
  /-- Whether there is an observer that keeps what it is told. -/
  observes : Bool := true
  /-- What the observer was told in the present step. -/
  callbacks : List Callback := []
  view : View := View.connecting
  /-- The step and the task of each operation that was started. -/
  started : List (Nat × Nat) := []
  /-- How many steps there were. -/
  steps : Nat := 0

namespace Session

/-! ### Actions -/

/-- Takes an action, if it can happen, and keeps what the observer is told. -/
def act (s : Session) (action : Action) : Session :=
  match s.system.step action with
  | some (system, seen) =>
    { s with
      system
      callbacks := s.callbacks ++ seen.filterMap fun
        | (_, .callback callback) => if s.observes then some callback else none
        | (_, .call _) => none }
  | none => s

/-- Forgets the calls of a task at the gates that the task no longer waits for. -/
def prune (s : Session) (number : Nat) : Session :=
  let sent := ((s.system.tasks[number]?).map Task.sent).getD []
  { s with bench := { s.bench with
    waiting := s.bench.waiting.filter fun wait =>
      wait.task != number ||
        sent.any fun ticket => ticket.slot == wait.slot && s.bench.key ticket.call == wait.key } }

/-- A reply reaches a task. -/
def reply (s : Session) (number slot : Nat) (reply : Reply) : Session :=
  (s.act (.reply number slot reply)).prune number

/-- The call of a task that is through its gate and comes next. Calls that are out at the same
time come in the order in which they were sent, with two exceptions: the two requests of a
pair take turns, so that the second goes first when both are let go together, and the calls
of a large group come in the order in which they were let go. -/
def passed? (s : Session) (number : Nat) (task : Task) : Option Ticket :=
  let released := s.bench.waiting.filter fun wait => wait.task == number && wait.isReleased
  let passed := task.sent.filter fun ticket => released.any fun wait => wait.slot == ticket.slot
  match task.work with
  | .pair .. => passed.getLast?
  | .attempt _ (.subscribing _ telemetry _) | .attempt _ (.reading _ telemetry) =>
    if groupLimit < telemetry.length then
      released.findSome? fun wait => passed.find? fun ticket => ticket.slot == wait.slot
    else passed.head?
  | _ => passed.head?

/-- **Lets a task go on** until it waits or ends: it sends its calls, and takes the replies
that are there. -/
def poll (number : Nat) : Nat → Session → Session
  | 0, s => s
  | fuel + 1, s =>
    match s.system.tasks[number]? with
    | none => s
    | some task =>
      match task.queued with
      | ticket :: _ =>
        let s := s.act (.send number)
        let (bench, answer) := s.bench.arrive number ticket.slot ticket.call
        let s := { s with bench }
        poll number fuel (match answer with
          | some answer => s.reply number ticket.slot answer
          | none => s)
      | [] =>
        match s.passed? number task with
        | some ticket =>
          let waiting := s.bench.waiting.filter fun wait =>
            !(wait.task == number && wait.slot == ticket.slot)
          let (bench, answer) := { s.bench with waiting }.perform ticket.call
          poll number fuel ({ s with bench }.reply number ticket.slot answer)
        | none => s

/-- Enough rounds of `poll` for any operation: a connect cycle sends two calls for each
channel and six others, and a script fewer. -/
def pollFuel (s : Session) : Nat := 4 * s.system.central.profile.channels.length + 32

/-! ### Turns -/

/-- The tasks with a call that has been let go, in the order in which that happened. -/
def released (s : Session) : List Nat :=
  ((s.bench.waiting.filter fun wait => wait.isReleased).map fun wait => wait.task).eraseDups

/-- The running pumps that have events to hand on, or are at the end of their stream. -/
def alerted (s : Session) : List Nat :=
  (s.system.central.pumps.filter fun pump =>
    (s.bench.line? pump.link.number).any fun line =>
      !line.queue.isEmpty || !line.isStreaming).map Pump.session

/-- **Hands on the events of a link**, one by one, the end of its stream after them. A pump that
stops at one of them never sees the others. -/
def drain (s : Session) (pump : Pump) (line : Bench.Line) : Session :=
  let bench := s.bench.modifyLine pump.link.number fun line => { line with queue := [] }
  let s := line.queue.foldl (fun s event => s.act (.push pump.session event)) { s with bench }
  if line.isStreaming then s else s.act (.endOfStream pump.session)

/-- **A turn** of a task or a pump: all that it does before it waits or ends. -/
def turn (s : Session) : Actor → Session
  | .task number => poll number s.pollFuel s
  | .pump session =>
    match s.system.central.pumps.find? fun pump => pump.session == session with
    | some pump =>
      match s.bench.line? pump.link.number with
      | some line => s.drain pump line
      | none => s
    | none => s

/-- **Everything that is set off** by what was done in this step, given who became able to go
on, in that order. The pumps that become able to during these turns come after them; a turn
of a pump makes nobody else able to go on. -/
def settle (s : Session) (queue : List Actor) : Session :=
  let s := queue.foldl turn s
  (s.alerted.map Actor.pump).foldl turn s

/-- A command to the bench, and after the actors that can already go on those that can now. -/
def command (s : Session) (queue : List Actor) (command : Bench.Command) :
    Session × List Actor :=
  let s := { s with bench := s.bench.execute command }
  let able := s.released.map Actor.task ++ s.alerted.map Actor.pump
  (s, queue ++ able.filter fun actor => !queue.contains actor)

/-! ### Steps -/

/-- What is done in a step. -/
inductive Move where
  | operate (operation : Operation)
  /-- Commands to the bench, all of them before anything else. -/
  | board (commands : List Bench.Command)
  /-- The latest value of a channel. -/
  | last (channel : Channel)
  /-- The latest values of the profile's channels. -/
  | values
  /-- What the operator sees. -/
  | render

/-- What a move gives back at once. -/
inductive Result where
  | ok
  | pending
  | outcome (outcome : Outcome)
  | last (value : Option Value)
  | values (values : List (Channel × Value))
  | rendered (text : String)

/-- What is known after a step. -/
structure Report where
  result : Result
  /-- Operations of earlier steps that ended in this one, by the step that began them. -/
  ended : List (Nat × Outcome)
  callbacks : List Callback
  calls : List String
  phase : Phase
  isConnected : Bool
  deviceName : Option String

/-- The outcome of a task, if it has ended. -/
def outcome? (s : Session) (task : Nat) : Option Outcome :=
  (s.system.tasks[task]?).bind Task.outcome?

/-- Does what a step is about, and all that follows from it. -/
def move (s : Session) : Move → Session × Result
  | .operate operation =>
    let task := s.system.tasks.length
    let s := { s.act (.start operation) with started := s.started ++ [(s.steps, task)] }
    let s := s.settle [.task task]
    (s, match s.outcome? task with
      | some outcome => .outcome outcome
      | none => .pending)
  | .board commands =>
    let (s, queue) := commands.foldl (fun (s, queue) command => s.command queue command) (s, [])
    (s.settle queue, .ok)
  | .last channel => (s, .last (s.system.central.lastValue channel))
  | .values =>
    (s, .values (s.system.central.profile.channels.filterMap fun spec =>
      (s.system.central.lastValue spec.channel).map (spec.channel, ·)))
  | .render => (s, .rendered (s.view.render s.system.central.profile))

/-- **One step**, and its report. -/
def step (s : Session) (move : Move) : Session × Report :=
  let open? := s.started.filter fun (_, task) => (s.outcome? task).isNone
  let s := { s with callbacks := [], bench := { s.bench with log := [] } }
  let (s, result) := s.move move
  let ended := open?.filterMap fun (step, task) => (s.outcome? task).map (step, ·)
  ({ s with steps := s.steps + 1, view := s.callbacks.foldl View.after s.view },
    { result
      ended
      callbacks := s.callbacks
      calls := s.bench.log
      phase := s.system.central.connection.phase
      isConnected := s.system.central.isConnected
      deviceName := s.system.central.deviceName })

/-- A session before its first step. -/
def new (bench : Bench) : Session := { bench, system := System.initial bench.profile }

/-- **The reports of a list of moves.** -/
def play (s : Session) : List Move → List Report
  | [] => []
  | first :: rest =>
    let (s, report) := s.step first
    report :: s.play rest

end Session

end CarrierLink
