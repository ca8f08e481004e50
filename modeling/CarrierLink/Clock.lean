import CarrierLink.Text.Words
import CarrierLink.Number.Digits

/-!
# Clock times

An hour and a minute of a 24-hour clock, as an operator types them (`7:05`, `07:05`) and as
they are shown (`07:05`).
-/

namespace CarrierLink

/-- An hour and a minute of a 24-hour clock. -/
structure ClockTime where
  hour : Fin 24
  minute : Fin 60
  deriving DecidableEq, Repr, Inhabited

/-- Why something is no clock time. -/
inductive TimeError where
  /-- A text that is not an hour, a colon and a minute. -/
  | format (input : String)
  /-- Numbers that no clock shows. -/
  | outOfRange (hour minute : Nat)
  deriving DecidableEq, Repr

/-- What the operator is told. -/
def TimeError.message : TimeError → String
  | format input => s!"invalid time \"{input}\", use the HH:MM format"
  | outOfRange hour minute => s!"time {hour}:{Numeral.twoPlaces minute} is out of range"

namespace ClockTime

/-- The clock time with the given numbers, if there is one. -/
def ofParts (hour minute : Nat) : Except TimeError ClockTime :=
  if h : hour < 24 ∧ minute < 60 then .ok ⟨⟨hour, h.1⟩, ⟨minute, h.2⟩⟩
  else .error (.outOfRange hour minute)

/-- **Reads `H:MM` or `HH:MM`**, blanks around it allowed. -/
def parse (input : String) : Except TimeError ClockTime :=
  match Text.cut ':' (Text.trim input.toList) with
  | (hour, some minute) =>
    if Numeral.isNumeral hour && hour.length ≤ 2 && Numeral.isNumeral minute &&
        minute.length == 2 then
      ofParts (Numeral.ofDigits hour) (Numeral.ofDigits minute)
    else .error (.format input)
  | (_, none) => .error (.format input)

/-- The time as `HH:MM`. -/
def text (t : ClockTime) : String :=
  Numeral.twoPlaces t.hour ++ ":" ++ Numeral.twoPlaces t.minute

end ClockTime

end CarrierLink
