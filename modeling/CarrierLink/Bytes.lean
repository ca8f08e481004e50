import CarrierLink.Number.Digits

/-!
# Byte strings

What a characteristic holds: numbers in little-endian order, and text as UTF-8.
-/

namespace CarrierLink

-- A power is the one of the core library, whatever else is imported.
attribute [local instance (high)] instPowNat

/-- A characteristic's value as it travels. -/
abbrev Bytes := List UInt8

namespace Bytes

/-- The `width` low bytes of a number, the lowest first. -/
def littleEndian : Nat → Nat → Bytes
  | 0, _ => []
  | width + 1, n => UInt8.ofNat n :: littleEndian width (n / 256)

/-- The number whose bytes are given, the lowest first. -/
def ofLittleEndian : Bytes → Nat
  | [] => 0
  | b :: rest => b.toNat + 256 * ofLittleEndian rest

@[simp] theorem length_littleEndian (width n : Nat) : (littleEndian width n).length = width := by
  induction width generalizing n with
  | zero => rfl
  | succ width ih => simp [littleEndian, ih]

theorem ofLittleEndian_littleEndian (width n : Nat) :
    ofLittleEndian (littleEndian width n) = n % 256 ^ width := by
  induction width generalizing n with
  | zero => simp [littleEndian, ofLittleEndian, Nat.mod_one]
  | succ width ih =>
    have hb : (UInt8.ofNat n).toNat = n % 256 := UInt8.toNat_ofNat'
    rw [littleEndian, ofLittleEndian, ih, hb, Nat.pow_succ', Nat.mod_mul]

/-- The UTF-8 encoding of a text. -/
def ofText (text : String) : Bytes := text.toUTF8.data.toList

/-- The text that the bytes encode; nothing if they are not UTF-8. -/
def toText? (data : Bytes) : Option String := String.fromUTF8? ⟨data.toArray⟩

/-- Two lower-case hexadecimal digits for each byte. -/
def hex (data : Bytes) : String := String.join (data.map fun b => Numeral.hex 2 b.toNat)

end Bytes

end CarrierLink
