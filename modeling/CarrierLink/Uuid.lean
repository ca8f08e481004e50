import CarrierLink.Number.Digits

/-!
# Attribute identifiers

Services and characteristics are named by 128-bit identifiers, written as 32 hexadecimal
digits in groups of 8, 4, 4, 4 and 12.
-/

namespace CarrierLink

/-- A 128-bit identifier. -/
structure Uuid where
  bits : BitVec 128
  deriving DecidableEq, Repr, Inhabited

namespace Uuid

/-- How many digits stand in each group. -/
def groups : List Nat := [8, 4, 4, 4, 12]

/-- A list cut into pieces of the given lengths. -/
def split {α : Type} : List Nat → List α → List (List α)
  | [], _ => []
  | n :: lengths, s => s.take n :: split lengths (s.drop n)

/-- The lower-case text of an identifier. -/
def text (u : Uuid) : String :=
  String.intercalate "-" ((split groups (Numeral.hex 32 u.bits.toNat).toList).map String.ofList)

/-- Reads the hyphenated text of an identifier, in either case. -/
def parse? (s : String) : Option Uuid := do
  let parts := s.splitOn "-"
  guard (parts.map String.length = groups)
  return ⟨BitVec.ofNat 128 (← Numeral.ofHex? (parts.flatMap String.toList))⟩

/-- The order in which a platform lists identifiers. -/
def le (u v : Uuid) : Bool := u.bits.toNat ≤ v.bits.toNat

end Uuid

end CarrierLink
