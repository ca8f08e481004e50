import CarrierLink.Central.System
import CarrierLink.CommandLine.Errand
import CarrierLink.View

/-!
# The course of a session

The program opens a session with one board, does its job, and closes the session again. It
runs one operation on the central after the other and waits for each to end; what the
central reports in the meantime is queued and shown when the program comes to look at the
queue.

As with a central alone, nothing is assumed about the platform: `CarrierLink.Program.step`
takes whatever result the radio gives and whatever events the links have, in any order.

The stages follow each other like this. The program connects; a board with an alarm clock
then gets its clock set; the job follows; the connection is closed. If the clock cannot be
set, the connection is closed at once. Telemetry is watched until the connection is lost,
the operator interrupts, or the time is over.
-/

namespace CarrierLink

/-! ### The state -/

/-- What the program is doing. -/
inductive Program.Stage where
  | opening
  | settingClock
  /-- The clock could not be set; the connection is being closed. -/
  | abandoning (e : Error)
  | working (printed : Answer → List String)
  | watching (seconds : Option Nat)
  /-- The job is over, well or badly; the connection is being closed. -/
  | closing (result : Except Error Unit)
  | ended (result : Except Error Unit)

/-- A session on its way. -/
structure Program where
  plan : Plan
  system : System
  stage : Program.Stage
  /-- What the central has reported and the program has not looked at yet. -/
  unseen : List Callback := []
  view : View := View.connecting
  /-- What has been printed. -/
  printed : List String := []
  /-- The status lines that have been shown. -/
  statuses : List String := []
  /-- The steps of the radio. -/
  log : List (RadioStep × Bool) := []

/-- What can happen next. -/
inductive Program.Action where
  /-- The operation under way sends its next call. -/
  | send
  /-- The radio is through with the call of a slot. -/
  | answer (slot : Nat) (result : Radio.Result)
  | push (session : Nat) (event : LinkEvent)
  | endOfStream (session : Nat)
  /-- The program looks at the first report in the queue. -/
  | look
  /-- The program goes on after the operation under way has ended. -/
  | proceed
  /-- The operator interrupts. -/
  | interrupt
  /-- The time to watch is over. -/
  | timeOut

namespace Program

/-! ### Parts of a step -/

/-- The operation under way: the latest that was started. -/
def current (p : Program) : Nat := p.system.tasks.length - 1

/-- How the operation under way ended, if it has. -/
def outcome? (p : Program) : Option Outcome := (p.system.tasks[p.current]?).bind Task.outcome?

/-- The reports among what could be seen. -/
def reports (seen : List (Actor × Event)) : List Callback :=
  seen.filterMap fun
    | (_, .callback callback) => some callback
    | (_, .call _) => none

/-- Takes an action of the central; what it reports is queued. -/
def act (p : Program) (action : CarrierLink.Action) : Option (Program × List Callback) :=
  (p.system.step action).map fun (system, seen) =>
    ({ p with system, unseen := p.unseen ++ reports seen }, reports seen)

/-- Starts an operation. -/
def start (p : Program) (operation : Operation) (stage : Stage) :
    Option (Program × List Callback) :=
  { p with stage }.act (.start operation)

/-- Shows a report: a status as a line of its own, the rest in the view. -/
def «show» (p : Program) (report : Callback) : Program :=
  { p with
    view := p.view.after report
    statuses := match report with
      | .status text _ => p.statuses ++ [text]
      | _ => p.statuses }

/-- Shows all that is queued. -/
def catchUp (p : Program) : Program := p.unseen.foldl «show» { p with unseen := [] }

/-- Prints something. -/
def print (p : Program) (lines : List String) : Program :=
  { p with printed := p.printed ++ lines }

/-- The program is over. -/
def stop (p : Program) (result : Except Error Unit) : Option (Program × List Callback) :=
  some ({ p with stage := .ended result }, [])

/-- Closes the connection after the job. -/
def hangUp (p : Program) (result : Except Error Unit) : Option (Program × List Callback) :=
  p.catchUp.start .disconnect (.closing result)

/-- Begins the job. -/
def startJob (p : Program) : Option (Program × List Callback) :=
  match p.plan.job with
  | .script script printed => p.start (.run script) (.working printed)
  | .monitor seconds =>
    some ({ p.print [p.view.render p.plan.profile] with stage := .watching seconds }, [])
  | .nothing => p.hangUp (.ok ())

/-- Ends watching; a view that still shows a connection is printed once more. -/
def leave (p : Program) : Option (Program × List Callback) :=
  (if p.view.connected then p.print ["\n", p.view.render p.plan.profile] else p).hangUp (.ok ())

/-- Looks at a report while watching: a reading is printed as a row, and the end of the
connection ends watching. -/
def watch (p : Program) (report : Callback) : Option (Program × List Callback) :=
  match report with
  | .value channel value =>
    some ((p.print [channel.row (channel.reading value) ++ "\n"]).show report, [])
  | .disconnected => (p.show report).leave
  | _ => some (p.show report, [])

/-- Goes on after the operation under way has ended. -/
def proceed (p : Program) (outcome : Outcome) : Option (Program × List Callback) :=
  match p.stage, outcome with
  | .opening, .error e => p.catchUp.stop (.error e)
  | .opening, .ok _ =>
    match p.plan.firmware with
    | .alarm => p.catchUp.start (.run (AlarmClock.setClock p.plan.now)) .settingClock
    | .sensor => p.catchUp.startJob
  | .settingClock, .error e => p.start .disconnect (.abandoning e)
  | .settingClock, .ok _ => (p.print [s!"Board clock set to {p.plan.now.text}\n"]).startJob
  | .abandoning e, _ => p.stop (.error e)
  | .working _, .error e => p.hangUp (.error e)
  | .working printed, .ok answer => (p.print (printed answer)).hangUp (.ok ())
  | .closing result, _ => p.catchUp.stop result
  | .watching _, _ | .ended _, _ => none

/-! ### Steps -/

/-- The call that the operation under way has out in a slot. -/
def call? (p : Program) (slot : Nat) : Option Call :=
  (p.system.tasks[p.current]?).bind fun task =>
    (task.sent.find? fun ticket => ticket.slot == slot).map Ticket.call

/-- One action of a program that is not over. -/
def take (p : Program) : Action → Option (Program × List Callback)
  | .send => p.act (.send p.current)
  | .answer slot result => do
    let call ← p.call? slot
    let reply ← Radio.reply? p.plan.filter call result
    { p with log := p.log ++ Radio.steps call result }.act (.reply p.current slot reply)
  | .push session event => p.act (.push session event)
  | .endOfStream session => p.act (.endOfStream session)
  | .look =>
    match p.stage, p.unseen with
    | .opening, report :: unseen => some ({ p with unseen }.show report, [])
    | .watching _, report :: unseen => { p with unseen }.watch report
    | _, _ => none
  | .proceed => p.outcome?.bind p.proceed
  | .interrupt =>
    match p.stage with
    | .watching _ => p.leave
    | _ => none
  | .timeOut =>
    match p.stage with
    | .watching (some _) => p.leave
    | _ => none

/-- How the program ended, if it has. -/
def result? (p : Program) : Option (Except Error Unit) :=
  match p.stage with
  | .ended result => some result
  | _ => none

/-- **One action**: the program after it and what the central reported in it, or nothing if
it cannot happen now. -/
def step (p : Program) (action : Action) : Option (Program × List Callback) :=
  if p.result?.isSome then none else p.take action

/-- The program at its start, with a central that has nothing to do yet. -/
def initial (plan : Plan) : Program where
  plan
  system := System.initial plan.profile
  stage := .opening

/-- The program after it has begun to connect. -/
def opened (plan : Plan) : Option (Program × List Callback) :=
  (initial plan).start .connect .opening

/-- **A run**: actions one after the other, with everything that the central reported. -/
def run (p : Program) : List Action → Option (Program × List Callback)
  | [] => some (p, [])
  | action :: rest => do
    let (p, reports) ← p.step action
    let (p, later) ← p.run rest
    return (p, reports ++ later)

end Program

end CarrierLink
