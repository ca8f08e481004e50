import CarrierLink.Profile

/-!
# What an observer is told

A central tells its observer about the connection, its progress and the values that
arrive. A callback is kept as a datum, so that a run has a list of them.
-/

namespace CarrierLink

/-- How serious a status is. -/
inductive StatusLevel where
  | muted
  | ok
  | warn
  deriving DecidableEq, Repr, Inhabited

/-- The name of a level. -/
def StatusLevel.name : StatusLevel → String
  | muted => "muted"
  | ok => "ok"
  | warn => "warn"

/-- One call to the observer. -/
inductive Callback where
  | connected (isConnected : Bool)
  | status (text : String) (level : StatusLevel)
  | disconnected
  | value (channel : Channel) (value : Value)
  deriving DecidableEq, Repr

end CarrierLink
