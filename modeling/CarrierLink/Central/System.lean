import CarrierLink.Central.Task

/-!
# Runs of a central

Any number of operations may be under way on one central, together with the pump of its
link. This module says what can happen next (`CarrierLink.Action`) and what it does
(`CarrierLink.System.step`). Nothing is assumed about the order of actions or about the
replies in them, so the runs (`CarrierLink.System.run`) are all the ways in which the
operations of a central and the events of its links can fall together.

The work is cooperative: a task that has calls to send has not yet come to a point where
it waits, and until it has sent them nobody else takes a turn. A reply to a call that is
already out may come in between, as it does when a call is answered on the spot.
-/

namespace CarrierLink

/-- What can happen next. -/
inductive Action where
  /-- A new task for an operation. -/
  | start (operation : Operation)
  /-- A task sends the first of its queued calls. -/
  | send (task : Nat)
  /-- The platform answers the call of a task's slot. -/
  | reply (task slot : Nat) (reply : Reply)
  /-- The pump of a session gets an event of its link. -/
  | push (session : Nat) (event : LinkEvent)
  /-- The pump of a session finds the stream of its link at its end. -/
  | endOfStream (session : Nat)

/-- On whose behalf something is done. -/
inductive Actor where
  | task (number : Nat)
  | pump (session : Nat)
  deriving DecidableEq, Repr

/-- What can be seen of a run from outside. -/
inductive Event where
  | call (call : Call)
  | callback (callback : Callback)
  deriving DecidableEq, Repr

/-- A central with the tasks that were started on it, in order. -/
structure System where
  central : Central
  tasks : List Task := []

namespace System

/-- The state before any operation. -/
def initial (profile : Profile) : System where
  central := { profile }

/-- Whether no task but the given one is in the middle of sending its calls. -/
def isFloorFree (s : System) (except : Option Nat) : Bool :=
  (s.tasks.mapIdx fun number task => some number == except || task.queued.isEmpty).all id

/-- What a turn of a task leaves behind, as a state and events. -/
def afterTurn (s : System) (number : Nat) (turn : Turn) : System × List (Actor × Event) :=
  ({ s with central := turn.central, tasks := s.tasks.set number turn.task },
    turn.callbacks.map fun callback => (.task number, .callback callback))

/-- What a pump leaves behind. -/
def afterPump (s : System) (session : Nat) (result : Central × List Callback) :
    System × List (Actor × Event) :=
  ({ s with central := result.1 },
    result.2.map fun callback => (.pump session, .callback callback))

/-- Whether the pump of a session runs. -/
def hasPump (s : System) (session : Nat) : Bool :=
  s.central.pumps.any fun pump => pump.session == session

/-- **One action**: the state after it and what could be seen of it, or nothing if it cannot
happen now. -/
def step (s : System) : Action → Option (System × List (Actor × Event))
  | .start operation =>
    if s.isFloorFree none then
      let turn := Task.start s.central operation
      some (({ s with tasks := s.tasks ++ [turn.task] } : System).afterTurn s.tasks.length turn)
    else none
  | .send number => do
    let task ← s.tasks[number]?
    match task.queued with
    | ticket :: queued =>
      if s.isFloorFree (some number) then
        let task := { task with queued, sent := task.sent ++ [ticket] }
        some ({ s with tasks := s.tasks.set number task }, [(.task number, .call ticket.call)])
      else none
    | [] => none
  | .reply number slot reply => do
    let task ← s.tasks[number]?
    if s.isFloorFree (some number) then
      let turn ← task.answer s.central slot reply
      some (s.afterTurn number turn)
    else none
  | .push session event =>
    if s.isFloorFree none && s.hasPump session then
      some (s.afterPump session (s.central.receive session event))
    else none
  | .endOfStream session =>
    if s.isFloorFree none && s.hasPump session then
      some (s.afterPump session (s.central.endOfStream session))
    else none

/-- **A run**: a list of actions one after the other, with everything that could be seen. -/
def run (s : System) : List Action → Option (System × List (Actor × Event))
  | [] => some (s, [])
  | action :: rest => do
    let (s, seen) ← s.step action
    let (s, later) ← s.run rest
    return (s, seen ++ later)

end System

end CarrierLink
