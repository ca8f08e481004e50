import CarrierLink.Text.Words
import CarrierLink.Number.Decimal
import CarrierLink.Note

/-!
# Alarm melodies

A melody is one to a hundred tones. It has three texts:

* the operator's, read by `CarrierLink.Melody.parse` and written by
  `CarrierLink.Melody.text`: words `NOTE` or `NOTE@MULTIPLIER`, where the note is a name or
  a frequency in Hz and the multiplier scales the unit duration of 500 ms;
* the board's, written by `CarrierLink.Melody.wireText`: words `FREQ` or `FREQ@MS`;
* the editable one, made from the board's text by `CarrierLink.Melody.editable`, with note
  names for frequencies and multipliers for durations.
-/

namespace CarrierLink

open Binary

-- A power is the one of the core library, whatever else is imported.
attribute [local instance (high)] instPowNat

/-! ### Errors -/

/-- Why a text or a list of tones is no melody. -/
inductive MelodyError where
  | empty
  | tooManySteps (count : Nat)
  | missingNote (token : String)
  | invalidNote (note : String)
  | invalidDuration (duration : String)
  deriving DecidableEq, Repr

namespace Melody

/-- The most tones that a melody may have. -/
def maxSteps : Nat := 100

/-- The highest frequency that is taken from an operator, in Hz. -/
def maxFrequency : Nat := 20000

/-- The shortest duration that is taken from an operator, in milliseconds. -/
def minDuration : Nat := 1

/-- The longest duration that is taken from an operator, in milliseconds. -/
def maxDuration : Nat := 1000

/-- The duration of a tone without a multiplier, in milliseconds. -/
def unitDuration : Nat := 500

/-- What separates a note from its duration. -/
def separator : Char := '@'

end Melody

/-- What the operator is told. -/
def MelodyError.message : MelodyError → String
  | empty => "the melody must contain at least one entry in note@duration format"
  | tooManySteps count =>
    s!"the melody has {count} entries, at most {Melody.maxSteps} are allowed"
  | missingNote token => s!"add a musical note before the @ separator in \"{token}\""
  | invalidNote note => s!"the note \"{note}\" is not valid"
  | invalidDuration duration => s!"the duration \"{duration}\" is not valid"

/-! ### Tones -/

namespace Melody

/-- One tone. -/
structure Step where
  /-- Hz. -/
  frequency : UInt16
  /-- Milliseconds. -/
  duration : UInt16
  deriving DecidableEq, Repr, Inhabited

namespace Step

/-- Whether a tone has the unit duration, and so is written without one. -/
def hasUnitDuration (step : Step) : Bool := step.duration.toNat == unitDuration

/-- The frequency that a note stands for: a finite number is taken as Hz, anything else has
to be a note name. Fractions are dropped and the frequency is kept within bounds. -/
def readFrequency (token note : List Char) : Except MelodyError Nat :=
  let note := Text.trim note
  if note.isEmpty then .error (.missingNote (String.ofList token))
  else
    match (Decimal.finite? note).or (Note.frequency? note) with
    | some hertz => .ok (hertz.clamp 0 maxFrequency)
    | none => .error (.invalidNote (String.ofList note))

/-- The duration that a multiplier stands for, whole milliseconds within bounds; a missing
or blank multiplier counts as one. A product too large for a double counts as the shortest
duration. -/
def readDuration (multiplier : Option (List Char)) : Except MelodyError Nat :=
  match multiplier.map Text.trim with
  | none | some [] => .ok unitDuration
  | some text =>
    match Decimal.finite? text with
    | some m => .ok ((double.scale m unitDuration 1).clamp minDuration maxDuration)
    | none => .error (.invalidDuration (String.ofList text))

/-- Reads one word of operator text, cut at its first separator. -/
def parse (token : List Char) : Except MelodyError Step := do
  let (note, multiplier) := Text.cut separator token
  let frequency ← readFrequency token note
  let duration ← readDuration multiplier
  return ⟨UInt16.ofNat frequency, UInt16.ofNat duration⟩

/-- A tone as the board stores it. -/
def wireText (step : Step) : String :=
  if step.hasUnitDuration then toString step.frequency.toNat
  else s!"{step.frequency.toNat}@{step.duration.toNat}"

end Step

/-! ### Multipliers -/

/-- A decimal without the zeros it ends in, and without a point at the end. -/
def trimDecimals (s : List Char) : List Char :=
  ((s.reverse.dropWhile (· == '0')).dropWhile (· == '.')).reverse

/-- A duration as a multiplier of the unit with at most `places` decimals, `places`
positive; nothing where the multiplier is one to that accuracy. -/
def multiplier? (places duration : Nat) : Option String :=
  let text := trimDecimals (Decimal.fixedQuotient places duration unitDuration)
  if duration = unitDuration || text = ['1'] then none else some (String.ofList text)

/-- A note and its multiplier, if there is one. -/
def entry (note : String) (multiplier : Option String) : String :=
  match multiplier with
  | some text => s!"{note}@{text}"
  | none => note

/-- Decimals that any whole number of milliseconds needs as a multiplier. -/
def exactPlaces : Nat := 3

/-- Decimals of the multipliers of editable text. -/
def editablePlaces : Nat := 2

/-- A tone as operator text: the frequency as a number, the exact multiplier. -/
def Step.text (step : Step) : String :=
  entry (toString step.frequency.toNat) (multiplier? exactPlaces step.duration.toNat)

end Melody

/-! ### Melodies -/

/-- One to a hundred tones. -/
structure Melody where
  steps : List Melody.Step
  ne_nil : steps ≠ []
  length_le : steps.length ≤ Melody.maxSteps
  deriving DecidableEq, Repr

namespace Melody

/-- The melody of a list of tones. -/
def ofSteps (steps : List Step) : Except MelodyError Melody :=
  if hne : steps = [] then .error .empty
  else if hle : steps.length ≤ maxSteps then .ok ⟨steps, hne, hle⟩
  else .error (.tooManySteps steps.length)

/-- The tones that operator text stands for. Words past the hundredth are ignored, and the
first word that is no tone decides the error. -/
def readSteps (input : String) : Except MelodyError (List Step) :=
  ((Text.words input.toList).take maxSteps).mapM Step.parse

/-- **Reads operator text.** -/
def parse (input : String) : Except MelodyError Melody := readSteps input >>= ofSteps

/-- Operator text with frequencies as numbers and exact multipliers. -/
def text (melody : Melody) : String := Text.unwords (melody.steps.map Step.text)

/-- The text that the board stores. -/
def wireText (melody : Melody) : String := Text.unwords (melody.steps.map Step.wireText)

/-- One word of board text made editable: the frequency becomes the name of the nearest
note, or stays as it is written where there is none, and a duration that cannot be read is
dropped. -/
def editableEntry (word : List Char) : String :=
  let (frequency, duration) := Text.cut separator word
  let note := ((Decimal.number? frequency).bind Note.nearest?).getD (String.ofList frequency)
  entry note (((duration.bind (Numeral.unsigned? (2 ^ (16 : Nat))))).bind (multiplier? editablePlaces))

/-- **Board text as the operator edits it**, word by word. -/
def editable (wire : String) : String :=
  Text.unwords ((Text.words wire.toList).map editableEntry)

end Melody

end CarrierLink
