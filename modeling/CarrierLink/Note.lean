import CarrierLink.Number.Digits
import CarrierLink.Pitch

/-!
# Note names

Scientific pitch notation: a letter, an accidental and an octave. Notes are numbered by
semitones from the C of octave -1, which puts the A of 440 Hz, the A of octave 4, at 69.

* `CarrierLink.Note.number?` reads a name such as `C4`, `A#3`, `Eb5`, `fx2` or `C-1`.
* `CarrierLink.Note.name` writes one, with a sharp where there is a choice.
-/

namespace CarrierLink.Note

open Binary

/-! ### Reading -/

/-- Semitones from C up to a letter of the scale, in either case. -/
def letter? : Char → Option Int
  | 'C' | 'c' => some 0
  | 'D' | 'd' => some 2
  | 'E' | 'e' => some 4
  | 'F' | 'f' => some 5
  | 'G' | 'g' => some 7
  | 'A' | 'a' => some 9
  | 'B' | 'b' => some 11
  | _ => none

/-- Semitones that an accidental adds: sharp, double sharp, flat or double flat. -/
def accidental? (s : List Char) : Option Int :=
  match s.map Char.toLower with
  | [] => some 0
  | ['#'] => some 1
  | ['#', '#'] => some 2
  | ['x'] => some 2
  | ['b'] => some (-1)
  | ['b', 'b'] => some (-2)
  | _ => none

/-- An octave: an optional minus sign and one or two digits. -/
def octave? (s : List Char) : Option Int :=
  let read (digits : List Char) : Option Int :=
    if Numeral.isNumeral digits && digits.length ≤ 2 then some (Numeral.ofDigits digits) else none
  match s with
  | '-' :: digits => (read digits).map fun n => -n
  | _ => read s

/-- Whether an octave can start with this character. -/
def startsOctave (c : Char) : Bool := c.isDigit || c == '-'

/-- **The number of the note that a text names.** The octave starts at the first digit or
minus sign; what stands between it and the letter is the accidental. -/
def number? : List Char → Option Int
  | [] => none
  | c :: rest => do
    let letter ← letter? c
    let accidental ← accidental? (rest.takeWhile fun c => !startsOctave c)
    let octave ← octave? (rest.dropWhile fun c => !startsOctave c)
    some (12 * (octave + 1) + letter + accidental)

/-- The number of the A of 440 Hz. -/
def concertA : Int := 69

/-- The frequency of the note that a text names. -/
def frequency? (s : List Char) : Option Number :=
  (number? s).map fun n => Pitch.hertz (n - concertA)

/-! ### Writing -/

/-- The twelve notes of an octave, from C, with sharps. -/
def sharpNames : List String :=
  ["C", "C#", "D", "D#", "E", "F", "F#", "G", "G#", "A", "A#", "B"]

/-- The name of a note by its number. -/
def name (number : Int) : String :=
  sharpNames.getD (number % 12).toNat "" ++ toString (number / 12 - 1)

/-- The name of the note nearest to a frequency, the one farther from zero in number if two
are equally near; only a positive finite frequency has one. -/
def nearest? (frequency : Number) : Option String :=
  (double.add (double.ofInt concertA) (Pitch.semitones frequency)).nearest?.map name

end CarrierLink.Note
