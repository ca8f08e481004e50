import CarrierLink.Error
import CarrierLink.Callback

/-!
# Scripts over channels

What an application does with a connected board is a script: it reads and writes channels,
one or two at a time, goes on with the results, may report a status, and ends with an
outcome. A script says nothing about links or sessions; every request in it looks for the
connection of its own moment.
-/

namespace CarrierLink

/-- What a script asks of a channel. -/
inductive Request where
  | read (channel : Channel)
  | write (channel : Channel) (value : Value)
  deriving DecidableEq, Repr

/-- What the board has programmed. -/
structure AlarmSettings where
  time : ClockTime
  /-- The melody with note names, ready to be edited and sent back. -/
  melody : String
  enabled : Bool
  deriving DecidableEq, Repr

/-- What an operation gives back. -/
inductive Answer where
  | done
  | value (v : Value)
  | flag (on : Bool)
  | time (t : ClockTime)
  | text (s : String)
  | settings (s : AlarmSettings)
  deriving DecidableEq, Repr

/-- How an operation ends. -/
abbrev Outcome := Except Error Answer

/-- The result of a request: the value read, or the value that was to be written. -/
abbrev Response := Except Error Value

/-- A finite program of channel requests. -/
inductive Script where
  | finish (outcome : Outcome)
  | report (text : String) (level : StatusLevel) (next : Script)
  | exchange (request : Request) (next : Response → Script)
  /-- Two requests at the same time; the script goes on when both have a result. -/
  | exchangeBoth (first second : Request) (next : Response → Response → Script)

namespace Script

/-- Ends with an error. -/
def fail (e : Error) : Script := finish (.error e)

/-- Goes on with the value of a response, or with its error. -/
def onValueOr (failed : Error → Script) (next : Value → Script) : Response → Script
  | .ok value => next value
  | .error e => failed e

/-- Goes on with the value of a response, or ends with its error. -/
def onValue (next : Value → Script) : Response → Script := onValueOr fail next

/-- Goes on after a response that is no error. -/
def onDone (next : Script) : Response → Script := onValue fun _ => next

/-- Reads a channel. -/
def readValue (channel : Channel) (next : Value → Script) : Script :=
  exchange (.read channel) (onValue next)

/-- Writes a channel. -/
def writeValue (channel : Channel) (value : Value) (next : Script) : Script :=
  exchange (.write channel value) (onDone next)

/-- Reads a channel and answers with the value. -/
def read (channel : Channel) : Script :=
  readValue channel fun value => finish (.ok (.value value))

/-- Writes a channel. -/
def write (channel : Channel) (value : Value) : Script :=
  writeValue channel value (finish (.ok .done))

end Script

end CarrierLink
