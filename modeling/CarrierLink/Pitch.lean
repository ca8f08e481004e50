import CarrierLink.Number.Logarithm

/-!
# Equal temperament

A pitch is counted in semitones above the A of 440 Hz, and `n` semitones above it sound at
`440 · 2 ^ (n / 12)` Hz. Twelfth roots of two are irrational, so the frequency of a pitch is
rounded by the whole part of a twelfth root. The other way, the place of a frequency among
the pitches comes from its logarithm, and is a number in double precision: a frequency
half-way between two pitches, as nearly as doubles can tell, counts as half-way.

* `CarrierLink.Pitch.hertz`: the frequency of a pitch.
* `CarrierLink.Pitch.semitones`: where a frequency stands among the pitches.
-/

namespace CarrierLink.Pitch

open Binary

-- A power is the one of the core library, whatever else is imported.
attribute [local instance (high)] instPowNat

/-! ### Whole parts of roots -/

/-- The greatest number of the form `low + j`, `j < 2 ^ bits`, whose `k`-th power is at most
`n`, if `low` itself qualifies. -/
def rootFrom (k n : Nat) : Nat → Nat → Nat
  | 0, low => low
  | bits + 1, low =>
    let high := low + 2 ^ bits
    rootFrom k n bits (if high ^ k ≤ n then high else low)

/-- The whole part of the `k`-th root of a number, `k` positive. -/
def root (k n : Nat) : Nat := rootFrom k n (Nat.log2 n / k + 1) 0

/-! ### From pitch to frequency -/

/-- **The frequency of a pitch**: the double nearest to `440 · 2 ^ (semitones / 12)`. With
`semitones = 12 · k + r` this is `55 · 2 ^ (r / 12)`, a number of six or seven bits before
its point, times `2 ^ (k + 3)`. -/
def hertz (semitones : Int) : Number :=
  let octaves := semitones / 12
  let r := (semitones % 12).toNat
  let places := double.precision - 1 - Nat.log2 (root 12 (55 ^ (12 : Nat) * 2 ^ r))
  let twice := root 12 ((55 * 2 ^ (places + 1)) ^ (12 : Nat) * 2 ^ r)
  .finite false ((twice + 1) / 2) (octaves + 3 - places)

/-! ### From frequency to pitch -/

/-- **Where a frequency stands among the pitches**: its distance from 440 Hz in semitones.
The quotient by 440, its logarithm and twelve times that are each rounded to a double. Only
a positive finite frequency has a finite distance; one so small that the quotient vanishes
has none. -/
def semitones (frequency : Number) : Number :=
  double.scale (double.log2 (double.scale frequency 1 440)) 12 1

end CarrierLink.Pitch
