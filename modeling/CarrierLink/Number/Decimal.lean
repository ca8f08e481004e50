import CarrierLink.Number.Digits
import CarrierLink.Number.Binary

/-!
# Decimal text of binary numbers

Numbers are typed, shown and sent in decimal. Reading takes a literal apart
(`CarrierLink.Decimal.Literal.parse?`) and rounds its exact value once
(`CarrierLink.Decimal.Literal.toNumber`). Writing rounds the exact binary value once to a
fixed number of decimals, a tie going to the even digit (`CarrierLink.Decimal.fixed`).
-/

namespace CarrierLink.Decimal

open Binary Numeral

-- A power is the one of the core library, whatever else is imported.
attribute [local instance (high)] instPowNat

/-! ### Reading -/

/-- A number as it is typed: `±significand · 10 ^ exponent`, an infinity, or NaN. -/
inductive Literal where
  | decimal (negative : Bool) (significand : Nat) (exponent : Int)
  | infinite (negative : Bool)
  | nan
  deriving DecidableEq, Repr

namespace Literal

/-- The exponent part of a literal: nothing, or `e` with an optional sign and one or more
digits. -/
def exponent? : List Char → Option Int
  | [] => some 0
  | c :: rest =>
    if c = 'e' || c = 'E' then
      match rest with
      | '-' :: digits => if isNumeral digits then some (-(ofDigits digits : Int)) else none
      | '+' :: digits => if isNumeral digits then some (ofDigits digits) else none
      | digits => if isNumeral digits then some (ofDigits digits) else none
    else none

/-- An unsigned decimal: digits, at most one point among them or at either end, at least
one digit in all, and an optional exponent part. -/
def magnitude? (s : List Char) : Option (Nat × Int) :=
  let whole := s.takeWhile Char.isDigit
  let rest := s.dropWhile Char.isDigit
  let (fraction, rest) := match rest with
    | '.' :: after => (after.takeWhile Char.isDigit, after.dropWhile Char.isDigit)
    | _ => ([], rest)
  if whole.isEmpty && fraction.isEmpty then none
  else (exponent? rest).map fun e => (ofDigits (whole ++ fraction), e - fraction.length)

/-- A literal after its sign: a decimal, or the words `inf`, `infinity` and `nan` in any
case. -/
def unsigned? (negative : Bool) (s : List Char) : Option Literal :=
  match magnitude? s with
  | some (significand, exponent) => some (.decimal negative significand exponent)
  | none =>
    let word := String.ofList (s.map Char.toLower)
    if word = "inf" || word = "infinity" then some (.infinite negative)
    else if word = "nan" then some .nan
    else none

/-- Reads a literal, which has to take up the whole text. -/
def parse? : List Char → Option Literal
  | '-' :: rest => unsigned? true rest
  | '+' :: rest => unsigned? false rest
  | s => unsigned? false s

/-- **The number nearest to a literal.** Exponents far outside the format are settled by
their size, `10 ^ k ≥ 2 ^ (3 * k)` for `k ≥ 0` and `≤` for `k ≤ 0`, before any power of ten
is formed. -/
def toNumber (f : Format) : Literal → Number
  | nan => .nan
  | infinite negative => .infinite negative
  | decimal negative significand exponent =>
    let size : Int := (Nat.toDigits 10 significand).length + exponent
    if significand = 0 || 3 * size < f.leastExponent then .finite negative 0 f.leastExponent
    else if 3 * (size - 1) ≥ f.greatestExponent + f.precision then .infinite negative
    else f.round negative (significand * 10 ^ exponent.toNat) (10 ^ (-exponent).toNat)

end Literal

/-- Reads a text as a double-precision number. -/
def number? (s : List Char) : Option Number := (Literal.parse? s).map (Literal.toNumber double)

/-- Reads a text as a finite double-precision number; the whole text has to be one. -/
def finite? (s : List Char) : Option Number := (number? s).filter Number.isFinite

/-! ### Writing -/

/-- The quotient `n / d` with `places` decimals, rounded to nearest, ties to even. -/
def fixedQuotient (places n d : Nat) : List Char :=
  let scaled := roundDiv (n * 10 ^ places) d
  let digits := decimal (scaled / 10 ^ places)
  if places = 0 then digits
  else digits ++ '.' :: padded places (decimal (scaled % 10 ^ places))

/-- A number with `places` decimals. The sign of a negative number stays when nothing but
zeros is left of it. -/
def fixed (places : Nat) : Number → String
  | .nan => "NaN"
  | .infinite negative => if negative then "-inf" else "inf"
  | .finite negative mantissa exponent =>
    let (n, d) := Number.quotient mantissa exponent
    (if negative then "-" else "") ++ String.ofList (fixedQuotient places n d)

end CarrierLink.Decimal
