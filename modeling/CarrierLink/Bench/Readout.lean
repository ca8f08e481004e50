import CarrierLink.Number.Decimal

/-!
# Numbers as they are read off the bench

The program shows readings with two decimals, or as whole numbers. On the bench a frequency
is read off to a fixed number of significant digits (`CarrierLink.Decimal.scientific`), since
the notes reach over hundreds of octaves. The exact binary value is rounded once, a tie going
to the even digit.
-/

namespace CarrierLink.Decimal

open Binary Numeral

-- A power is the one of the core library, whatever else is imported.
attribute [local instance (high)] instPowNat

/-- The exponent of the greatest power of ten that is at most `n / d`. -/
def floorLog10 (n d : Nat) : Int :=
  if d ≤ n then ((decimal (n / d)).length : Int) - 1
  else -((decimal ((d - 1) / n)).length : Int)

/-- A number with `digits + 1` significant digits: one before the point, the others after
it, then the power of ten. -/
def scientific (digits : Nat) : Number → String
  | .nan => "NaN"
  | .infinite negative => if negative then "-inf" else "inf"
  | .finite negative mantissa exponent =>
    let (n, d) := Number.quotient mantissa exponent
    let power := if n = 0 then 0 else floorLog10 n d
    let shift : Int := digits - power
    let scaled := roundDiv (n * 10 ^ shift.toNat) (d * 10 ^ (-shift).toNat)
    let (scaled, power) :=
      if scaled = 10 ^ (digits + 1) then (10 ^ digits, power + 1) else (scaled, power)
    let text := padded (digits + 1) (decimal scaled)
    (if negative then "-" else "") ++ String.ofList (text.take 1) ++ "." ++
      String.ofList (text.drop 1) ++ "e" ++ toString power

end CarrierLink.Decimal
