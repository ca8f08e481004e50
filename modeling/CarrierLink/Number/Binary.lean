/-!
# Binary floating-point numbers

Board readings are single-precision numbers and operator input is read in double
precision. Both are handled exactly: a finite number is a signed multiple of a power of
two, `±m · 2 ^ e`, and an operation is carried out on whole numbers and then rounded
once to the nearest number of the format, a tie going to the even mantissa.

* `CarrierLink.Binary.Number`: a number of some format, kept as a sign, a mantissa and an
  exponent, so that a zero has a sign too.
* `CarrierLink.Binary.Format.round`: the rounding of a quotient of two whole numbers.
* `CarrierLink.Binary.Format.decode`, `CarrierLink.Binary.Format.encode`: numbers and
  their bit patterns. Every NaN decodes to the one `nan`, so code that has to keep the
  bits of a NaN keeps the pattern instead.
-/

namespace CarrierLink.Binary

-- A power is the one of the core library, whatever else is imported.
attribute [local instance (high)] instPowNat

/-! ### Numbers -/

/-- A number of a binary format: not a number, an infinity, or `±mantissa · 2 ^ exponent`. -/
inductive Number where
  | nan
  | infinite (negative : Bool)
  | finite (negative : Bool) (mantissa : Nat) (exponent : Int)
  deriving DecidableEq, Repr, Inhabited

namespace Number

/-- Neither infinite nor NaN. -/
def isFinite : Number → Bool
  | finite .. => true
  | _ => false

/-- A zero of either sign. -/
def isZero : Number → Bool
  | finite _ 0 _ => true
  | _ => false

/-- The magnitude `m · 2 ^ e` as a quotient of whole numbers. -/
def quotient (mantissa : Nat) (exponent : Int) : Nat × Nat :=
  (mantissa * 2 ^ exponent.toNat, 2 ^ (-exponent).toNat)

/-- The whole number next to a finite number in the direction of zero; nothing for the
others. -/
def truncate? : Number → Option Int
  | finite negative mantissa exponent =>
    let (n, d) := quotient mantissa exponent
    some (if negative then -((n / d : Nat) : Int) else ((n / d : Nat) : Int))
  | _ => none

/-- The whole number nearest to a finite number, a tie going away from zero; nothing for the
others. -/
def nearest? : Number → Option Int
  | finite negative mantissa exponent =>
    let (n, d) := quotient mantissa exponent
    let nearest : Nat := (2 * n + d) / (2 * d)
    some (if negative then -(nearest : Int) else nearest)
  | _ => none

/-- The whole number of `[least, greatest]` that a number is cut down to: towards zero,
then into the interval. NaN counts as zero. -/
def saturate (least greatest : Int) (x : Number) : Int :=
  match x with
  | nan => max least (min 0 greatest)
  | infinite negative => if negative then least else greatest
  | finite .. => max least (min (x.truncate?.getD 0) greatest)

/-- A finite number cut down to a whole number of `[least, greatest]`; anything else
becomes `least`. -/
def clamp (least greatest : Nat) (x : Number) : Nat :=
  match x.truncate? with
  | some n => max least (min n.toNat greatest)
  | none => least

end Number

/-! ### Rounding -/

/-- The whole number nearest to `n / d`, a tie going to the even one. -/
def roundDiv (n d : Nat) : Nat :=
  let q := n / d
  let twice := 2 * (n % d)
  if twice < d || (twice == d && q % 2 == 0) then q else q + 1

/-- The exponent of the greatest power of two that is at most `n / d`. -/
def floorLog (n d : Nat) : Int :=
  let guess : Int := (Nat.log2 n : Int) - Nat.log2 d
  if d * 2 ^ guess.toNat ≤ n * 2 ^ (-guess).toNat then guess else guess - 1

/-- A binary format: how many bits a mantissa and how many the exponent field has. -/
structure Format where
  /-- Bits of a normal mantissa, the leading one included. -/
  precision : Nat
  /-- Bits of the exponent field. -/
  exponentBits : Nat

/-- Single precision. -/
def single : Format := ⟨24, 8⟩

/-- Double precision. -/
def double : Format := ⟨53, 11⟩

namespace Format

/-- The exponent of the smallest positive number, `2 ^ leastExponent`. -/
def leastExponent (f : Format) : Int :=
  3 - (2 : Int) ^ (f.exponentBits - 1) - f.precision

/-- The exponent that the largest numbers have on their mantissa. -/
def greatestExponent (f : Format) : Int :=
  (2 : Int) ^ (f.exponentBits - 1) - f.precision

/-- The exponent of the format's grid around `n / d`: what leaves a full mantissa, and
never below the least exponent. -/
def gridExponent (f : Format) (n d : Nat) : Int :=
  max f.leastExponent (floorLog n d + 1 - f.precision)

/-- **Rounding**: the number of the format nearest to `±n / d`, a tie going to the even
mantissa, and an infinity past the largest number. -/
def round (f : Format) (negative : Bool) (n d : Nat) : Number :=
  if n = 0 then .finite negative 0 f.leastExponent
  else
    let e := f.gridExponent n d
    let m := roundDiv (n * 2 ^ (-e).toNat) (d * 2 ^ e.toNat)
    let (m, e) := if m = 2 ^ f.precision then (2 ^ (f.precision - 1), e + 1) else (m, e)
    if e ≤ f.greatestExponent then .finite negative m e else .infinite negative

/-- The product of a number with `p / q`, rounded once. -/
def scale (f : Format) (x : Number) (p q : Nat) : Number :=
  match x with
  | .finite negative mantissa exponent =>
    let (n, d) := Number.quotient mantissa exponent
    f.round negative (n * p) (d * q)
  | other => other

/-- The sum of two numbers, rounded once. A sum of nothing but negative zeros is one too. -/
def add (f : Format) (x y : Number) : Number :=
  match x, y with
  | .nan, _ | _, .nan => .nan
  | .infinite s, .infinite t => if s = t then .infinite s else .nan
  | .infinite s, .finite .. | .finite .., .infinite s => .infinite s
  | .finite s m e, .finite t n g =>
    let grid := min e g
    let onGrid (negative : Bool) (mantissa : Nat) (exponent : Int) : Int :=
      (if negative then -1 else 1) * (mantissa * 2 ^ (exponent - grid).toNat : Nat)
    let sum := onGrid s m e + onGrid t n g
    let (p, q) := Number.quotient sum.natAbs grid
    f.round (if sum = 0 then s && t else sum < 0) p q

/-- A whole number, rounded into the format. -/
def ofInt (f : Format) (n : Int) : Number := f.round (decide (n < 0)) n.natAbs 1

/-! ### Bit patterns -/

/-- The number that a bit pattern stands for. -/
def decode (f : Format) (bits : Nat) : Number :=
  let fraction := bits % 2 ^ (f.precision - 1)
  let field := bits / 2 ^ (f.precision - 1) % 2 ^ f.exponentBits
  let negative := bits / 2 ^ (f.precision - 1 + f.exponentBits) % 2 == 1
  if field = 2 ^ f.exponentBits - 1 then
    if fraction = 0 then .infinite negative else .nan
  else if field = 0 then .finite negative fraction f.leastExponent
  else .finite negative (fraction + 2 ^ (f.precision - 1)) (f.leastExponent + field - 1)

/-- The bit pattern of a number of the format: NaN is quiet and positive. -/
def encode (f : Format) (x : Number) : Nat :=
  let sign (negative : Bool) := if negative then 2 ^ (f.precision - 1 + f.exponentBits) else 0
  let top := (2 ^ f.exponentBits - 1) * 2 ^ (f.precision - 1)
  match x with
  | .nan => top + 2 ^ (f.precision - 2)
  | .infinite negative => sign negative + top
  | .finite negative mantissa exponent =>
    if mantissa < 2 ^ (f.precision - 1) then sign negative + mantissa
    else
      sign negative + (exponent - f.leastExponent).toNat * 2 ^ (f.precision - 1) + mantissa

end Format

end CarrierLink.Binary
