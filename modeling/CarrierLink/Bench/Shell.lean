import CarrierLink.Bench.Platform
import CarrierLink.Bench.Readout
import CarrierLink.CommandLine.Program

/-!
# Commands on a simulated platform

A command line is carried out from beginning to end (`CarrierLink.Shell.execute`): the
arguments are read, then the settings, and the errand that they come to is run on a
simulated platform. The course of a session is a run of `CarrierLink.Program.step`, in which
the platform answers every call at once and incidents wait until there is nothing else to
do.
-/

namespace CarrierLink

/-- What a command leaves behind. -/
structure Transcript where
  /-- Whether it went well (0), failed (1), or was turned down (2). -/
  exitCode : Nat
  output : String := ""
  diagnostics : String := ""
  /-- The steps of the radio. -/
  steps : List RadioStep := []
  deriving DecidableEq, Repr

/-- A session on a simulated platform. -/
structure Shell where
  program : Program
  platform : Platform

namespace Shell

/-! ### Sessions -/

/-- Takes an action, if it can happen. -/
def act? (s : Shell) (action : Program.Action) : Option Shell :=
  (s.program.step action).map fun (program, _) => { s with program }

/-- The next call of the operation under way is sent and carried out. -/
def call? (s : Shell) : Option Shell := do
  let task ← s.program.system.tasks[s.program.current]?
  let ticket ← task.queued.head?
  let s ← s.act? .send
  let (platform, result) := s.platform.carryOut ticket.call
  { s with platform }.act? (.answer ticket.slot result)

/-- The next event of the device is handed on. -/
def hear? (s : Shell) : Option Shell := do
  let pump ← s.program.system.central.pumps.head?
  let event ← s.platform.events.head?
  { s with platform := { s.platform with events := s.platform.events.tail } }.act?
    (.push pump.session event)

/-- The time to watch is over, at once or when nothing else happens. -/
def timeOut? (s : Shell) (atOnce : Bool) : Option Shell :=
  match s.program.stage with
  | .watching (some seconds) => if atOnce && seconds != 0 then none else s.act? .timeOut
  | _ => none

/-- The next incident, while telemetry is watched. -/
def suffer? (s : Shell) : Option Shell :=
  match s.program.stage, s.platform.incidents with
  | .watching _, incident :: incidents =>
    let s := { s with platform := { s.platform with incidents }.suffer incident }
    match incident with
    | .interrupt => s.act? .interrupt
    | _ => some s
  | _, _ => none

/-- What happens next, if anything does. -/
def next? (s : Shell) : Option Shell :=
  s.call? <|> s.hear? <|> s.act? .look <|> s.act? .proceed <|> s.timeOut? true <|>
    s.suffer? <|> s.timeOut? false

/-- Goes on until nothing more happens. -/
def advance : Nat → Shell → Shell
  | 0, s => s
  | rounds + 1, s =>
    match s.next? with
    | some s => advance rounds s
    | none => s

/-- Enough rounds for any session: a connection takes two calls for each channel, a reading
to look at, and some twenty rounds besides, a job fewer than that, and an incident at most
five. -/
def rounds (s : Shell) : Nat :=
  64 + 4 * s.program.plan.profile.channels.length + 5 * s.platform.incidents.length

/-! ### Transcripts -/

/-- A text with a line end. -/
def line (text : String) : String := text ++ "\n"

/-- How a command without a failure, or with one, ends. -/
def transcript (printed statuses : List String) (failure : Option Failure)
    (steps : List RadioStep) : Transcript where
  exitCode := if failure.isSome then 1 else 0
  output := String.join printed
  diagnostics := String.join (statuses.map line) ++
    (failure.map fun failure => line ("Error: " ++ failure.diagnostic)).getD ""
  steps

/-- Runs a session. -/
def session (platform : Platform) (plan : Plan) : Transcript :=
  match Program.opened plan with
  | some (program, _) =>
    let s : Shell := ⟨program, platform⟩
    let p := (advance s.rounds s).program
    let failure := match p.result? with
      | some (.error e) => some (Failure.operation e)
      | _ => none
    transcript p.printed p.statuses failure (p.log.map Prod.fst)
  | none => { exitCode := 1 }

/-- Runs an errand. -/
def run (platform : Platform) : Errand → Transcript
  | .print printed failure => transcript printed [] failure []
  | .scan filter heading =>
    let survey := platform.survey
    let steps := (Radio.scanSteps survey).map Prod.fst
    match survey.devices filter with
    | .ok devices => transcript [heading, Device.table devices] [] none steps
    | .error e => transcript [heading] [] (some (.operation e)) steps
  | .session plan => session platform plan

/-- **Carries a command line out.** -/
def execute (file : SettingsFile) (platform : Platform) (clock : Readings)
    (arguments : List String) : Transcript :=
  match CommandLine.parse arguments with
  | .error .help => { exitCode := 0 }
  | .error .usage => { exitCode := 2 }
  | .ok invocation =>
    match Settings.load file with
    | .error e => transcript [] [] (some (.settings e)) []
    | .ok settings =>
      run platform (invocation.command.errand (settings.overriddenBy invocation.overrides) clock)

end Shell

end CarrierLink
