/-!
# Numerals

Whole numbers as decimal and hexadecimal digits, and the readers of the numerals that
an operator or a board may write: one or more ASCII digits, leading zeros allowed,
with a sign where the reader's name says so.
-/

namespace CarrierLink.Numeral

/-! ### Writing -/

/-- The decimal digits of a number, without leading zeros. -/
def decimal (n : Nat) : List Char := Nat.toDigits 10 n

/-- Digits brought to at least `width` characters by zeros in front. -/
def padded (width : Nat) (digits : List Char) : List Char :=
  List.replicate (width - digits.length) '0' ++ digits

/-- A number in decimal, with at least two digits. -/
def twoPlaces (n : Nat) : String := String.ofList (padded 2 (decimal n))

/-- A number in lower-case hexadecimal, with at least `width` digits. -/
def hex (width n : Nat) : String := String.ofList (padded width (Nat.toDigits 16 n))

/-! ### Reading -/

/-- The number that a run of decimal digits writes. -/
def ofDigits (digits : List Char) : Nat := Nat.ofDigitChars 10 digits 0

theorem ofDigits_decimal (n : Nat) : ofDigits (decimal n) = n :=
  Nat.ofDigitChars_toDigits (by decide) (by decide)

/-- Whether a text is one or more ASCII digits. -/
def isNumeral (s : List Char) : Bool := !s.isEmpty && s.all Char.isDigit

theorem isNumeral_decimal (n : Nat) : isNumeral (decimal n) = true := by
  have hne : decimal n ≠ [] := by
    intro h
    have := ofDigits_decimal n
    rw [h] at this
    cases n with
    | zero => exact absurd h (by decide)
    | succ n => simp [ofDigits, Nat.ofDigitChars] at this
  simp only [isNumeral, Bool.and_eq_true, Bool.not_eq_true', List.all_eq_true]
  exact ⟨by simpa using hne,
    fun c hc => Nat.isDigit_of_mem_toDigits (by decide) (by decide) hc⟩

/-- An unsigned numeral below `bound`, a plus sign allowed in front of it. -/
def unsigned? (bound : Nat) (s : List Char) : Option Nat :=
  let digits := match s with
    | '+' :: rest => rest
    | _ => s
  if isNumeral digits && ofDigits digits < bound then some (ofDigits digits) else none

/-- The value of a hexadecimal digit, in either case. -/
def hexDigit? (c : Char) : Option Nat :=
  if c.isDigit then some (c.toNat - '0'.toNat)
  else if 'a' ≤ c ∧ c ≤ 'f' then some (c.toNat - 'a'.toNat + 10)
  else if 'A' ≤ c ∧ c ≤ 'F' then some (c.toNat - 'A'.toNat + 10)
  else none

/-- The number that some hexadecimal digits write; nothing if one of them is none. -/
def ofHex? (digits : List Char) : Option Nat :=
  (digits.mapM hexDigit?).map fun values => values.foldl (fun n d => 16 * n + d) 0

/-- A numeral with an optional sign, from `-bound` to `bound - 1`. -/
def signed? (bound : Nat) (s : List Char) : Option Int :=
  match s with
  | '-' :: digits =>
    if isNumeral digits && ofDigits digits ≤ bound then some (-(ofDigits digits : Int)) else none
  | _ => (unsigned? bound s).map Int.ofNat

end CarrierLink.Numeral
