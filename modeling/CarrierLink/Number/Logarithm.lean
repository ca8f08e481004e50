import CarrierLink.Number.Binary

/-!
# Binary logarithms

The logarithm to base two of a number of a binary format, rounded into the format
(`CarrierLink.Binary.Format.log2`).

A number `m · 2 ^ e` splits into a power of two and a factor between one and two. The
exponent of the power is the whole part of the logarithm. The binary places come from the
factor, one at a time: squaring it doubles its logarithm, so the next place is one exactly
if the square reaches two, and then the square is halved.

A square is cut down to as many places as are asked for (`CarrierLink.Binary.logBits`), so
the logarithm of a factor is not exact: it falls short by less than three units of the last
of these places. A cut at a square counts half as much as one at the square before it, and
what is cut off behind the last place adds no more than a unit. The logarithm of a power of
two is exact.
-/

namespace CarrierLink.Binary

-- A power is the one of the core library, whatever else is imported.
attribute [local instance (high)] instPowNat

/-! ### Binary places -/

/-- The first binary places of the logarithm of `y / 2 ^ bits`, a number of `[1, 2)`, as one
whole number. The squares are cut down to `bits` binary places. -/
def logPlaces (bits : Nat) : Nat → Nat → Nat
  | 0, _ => 0
  | places + 1, y =>
    let square := y * y / 2 ^ bits
    if square < 2 ^ (bits + 1) then logPlaces bits places square
    else 2 ^ places + logPlaces bits places (square / 2)

/-- How many binary places of a logarithm are found, and how many the squares keep. A double
of one or more has no more than fifty-two. -/
def logBits : Nat := 60

/-! ### Logarithms -/

/-- **The logarithm to base two**, rounded into the format. Zero has minus infinity, a
negative number none. Half a unit of the last place that is found stands for all that come
after it. -/
def Format.log2 (f : Format) : Number → Number
  | .nan | .infinite true => .nan
  | .infinite false => .infinite false
  | .finite negative mantissa exponent =>
    if mantissa = 0 then .infinite true
    else if negative then .nan
    else
      let power := Nat.log2 mantissa
      let whole : Int := power + exponent
      if mantissa = 2 ^ power then f.ofInt whole
      else
        let places := logPlaces logBits logBits (mantissa * 2 ^ logBits / 2 ^ power)
        let halves : Int := 2 * (whole * 2 ^ logBits + places) + 1
        f.round (halves < 0) halves.natAbs (2 ^ (logBits + 1))

end CarrierLink.Binary
