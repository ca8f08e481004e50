import CarrierLink.Number.Decimal
import CarrierLink.Proofs.Number.Rounding
import Mathlib.Data.List.TakeWhile
import Mathlib.Data.Nat.Digits.Defs
import Mathlib.Tactic.Positivity

/-!
# Decimal text and its value

A decimal is read as the number of a binary format that is nearest to its value
(`CarrierLink.Decimal.Literal.toNumber_is`): the shortcuts for exponents far outside the
format give what rounding the value would give. And the text that is written for a quotient
is the decimal of the quotient, rounded to the places asked for
(`CarrierLink.Decimal.exists_fixedQuotient_eq`).
-/

namespace CarrierLink

open Binary

-- A power is the one of the core library, whatever else is imported.
attribute [local instance (high)] instPowNat

/-! ### Digits and the numbers that they write -/

namespace Numeral

theorem ofDigits_append (front back : List Char) :
    ofDigits (front ++ back) = 10 ^ back.length * ofDigits front + ofDigits back := by
  rw [ofDigits, Nat.ofDigitChars_append, Nat.ofDigitChars_eq_ofDigitChars_zero]
  rfl

theorem ofDigits_zeros (count : Nat) (digits : List Char) :
    ofDigits (List.replicate count '0' ++ digits) = ofDigits digits := by
  induction count with
  | zero => rfl
  | succ count ih => simpa [List.replicate_succ, ofDigits, Nat.ofDigitChars] using ih

theorem ofDigits_lt {digits : List Char} (h : ∀ c ∈ digits, c.isDigit = true) :
    ofDigits digits < 10 ^ digits.length := by
  induction digits using List.reverseRecOn with
  | nil => decide
  | append_singleton digits c ih =>
    have hrest := ih fun c' hc' => h c' (List.mem_append_left _ hc')
    have hc : c.isDigit = true := h c (by simp)
    have hlast : ofDigits [c] < 10 := by
      have hrange := Char.isDigit_iff_toNat.mp hc
      have hzero : '0'.toNat = 48 := rfl
      have hnine : '9'.toNat = 57 := rfl
      simp only [ofDigits, Nat.ofDigitChars_cons, Nat.ofDigitChars_nil]
      omega
    rw [ofDigits_append, List.length_append, List.length_singleton, Nat.pow_succ]
    omega

theorem isNumeral_iff {s : List Char} :
    isNumeral s = true ↔ s ≠ [] ∧ ∀ c ∈ s, c.isDigit = true := by
  simp [isNumeral, List.all_eq_true]

/-- **A numeral without a sign** is read unless its number is too great. -/
theorem unsigned?_of_isNumeral {bound : Nat} {s : List Char} (h : isNumeral s = true) :
    unsigned? bound s = if ofDigits s < bound then some (ofDigits s) else none := by
  have hplus (digits : List Char) : s ≠ '+' :: digits := by
    rintro rfl
    exact absurd ((isNumeral_iff.mp h).2 '+' List.mem_cons_self) (by decide)
  have hsame : unsigned? bound s =
      if isNumeral s && decide (ofDigits s < bound) then some (ofDigits s) else none := by
    unfold unsigned?
    split
    · next digits => exact absurd rfl (hplus digits)
    · rfl
  rw [hsame, h, Bool.true_and]
  simp only [decide_eq_true_eq]

theorem isDigit_of_mem_decimal {n : Nat} {c : Char} (h : c ∈ decimal n) : c.isDigit = true :=
  Nat.isDigit_of_mem_toDigits (by decide) (by decide) h

theorem exists_decimal_eq (n : Nat) : ∃ c rest, decimal n = c :: rest ∧ c.isDigit = true := by
  obtain ⟨c, rest, hdigits⟩ := List.exists_cons_of_ne_nil (Nat.toDigits_ne_nil : decimal n ≠ [])
  exact ⟨c, rest, hdigits, isDigit_of_mem_decimal (hdigits ▸ List.mem_cons_self)⟩

/-- The digits are the characters of the numbers below ten. -/
theorem exists_digitChar_eq {c : Char} (h : c.isDigit = true) :
    ∃ d : Fin 10, Nat.digitChar d = c := by
  have hrange := Char.isDigit_iff_toNat.mp h
  have hzero : '0'.toNat = 48 := rfl
  have hnine : '9'.toNat = 57 := rfl
  have hd : c.toNat - 48 < 10 := by omega
  refine ⟨⟨c.toNat - 48, hd⟩, Char.toNat_inj.mp ?_⟩
  rw [Nat.toNat_digitChar_of_lt_ten hd]
  omega

theorem isDigit_digitChar (d : Fin 10) : (Nat.digitChar d).isDigit = true := by
  rw [Nat.isDigit_digitChar, decide_eq_true d.isLt]

/-- A numeral is written digit by digit. -/
theorem isNumeral_iff_exists_map {s : List Char} : isNumeral s = true ↔
    ∃ ds : List (Fin 10), ds ≠ [] ∧ ds.map (fun d : Fin 10 => Nat.digitChar d) = s := by
  rw [isNumeral_iff]
  constructor
  · rintro ⟨hne, hdigits⟩
    obtain ⟨ds, rfl⟩ : s ∈ Set.range (List.map fun d : Fin 10 => Nat.digitChar d) := by
      rw [Set.range_list_map]
      exact fun c hc => exists_digitChar_eq (hdigits c hc)
    exact ⟨ds, fun h => hne (h ▸ rfl), rfl⟩
  · rintro ⟨ds, hne, rfl⟩
    exact ⟨fun h => hne (List.map_eq_nil_iff.mp h),
      List.forall_mem_map.mpr fun d _ => isDigit_digitChar d⟩

theorem ofDigits_digitChar (d : Fin 10) : ofDigits [Nat.digitChar d] = d := by
  have hzero : '0'.toNat = 48 := rfl
  rw [ofDigits, Nat.ofDigitChars_cons, Nat.ofDigitChars_nil, Nat.toNat_digitChar_of_lt_ten d.isLt]
  omega

theorem ofDigits_two_digitChars (d e : Fin 10) :
    ofDigits [Nat.digitChar d, Nat.digitChar e] = 10 * d + e := by
  have hsplit := ofDigits_append [Nat.digitChar d] [Nat.digitChar e]
  rwa [ofDigits_digitChar, ofDigits_digitChar] at hsplit

/-- A number below a hundred is written with both its digits. -/
theorem toList_twoPlaces {n : Nat} (h : n < 100) :
    (twoPlaces n).toList = [Nat.digitChar (n / 10), Nat.digitChar (n % 10)] := by
  rw [twoPlaces, String.toList_ofList, decimal]
  by_cases hsmall : n < 10
  · rw [Nat.toDigits_of_lt_base hsmall, Nat.div_eq_of_lt hsmall, Nat.mod_eq_of_lt hsmall]
    rfl
  · rw [Nat.toDigits_of_base_le (by decide) (Nat.le_of_not_lt hsmall),
      Nat.toDigits_of_lt_base (by omega)]
    rfl

theorem toList_toString (n : Nat) : (toString n).toList = decimal n := by
  rw [Nat.toString_eq_ofList_toDigits, String.toList_ofList, decimal]

theorem toList_toString_int (n : ℤ) :
    (toString n).toList = if n < 0 then '-' :: decimal n.natAbs else decimal n.natAbs := by
  cases n with
  | ofNat n => exact toList_toString n
  | negSucc n =>
    rw [if_pos (Int.negSucc_lt_zero n)]
    change ("-" ++ toString (n + 1)).toList = _
    rw [String.toList_append, toList_toString]
    rfl

theorem lt_pow_length_decimal (n : Nat) : n < 10 ^ (decimal n).length := by
  have hlt := ofDigits_lt fun c (hc : c ∈ decimal n) => isDigit_of_mem_decimal hc
  rwa [ofDigits_decimal] at hlt

theorem pow_length_decimal_le {n : Nat} (hn : 0 < n) : 10 ^ ((decimal n).length - 1) ≤ n := by
  by_contra hlt
  have hlength : 0 < (decimal n).length := Nat.length_toDigits_pos
  rcases Nat.eq_zero_or_pos ((decimal n).length - 1) with hone | hmore
  · rw [hone] at hlt
    omega
  · have hshort : (decimal n).length ≤ (decimal n).length - 1 :=
      Nat.toDigits_length 10 n _ hmore (by omega)
    omega

/-- No zero stands in front of a number as it is written, unless it is the number itself. -/
theorem decimal_eq_of_head? {n : Nat} (h : (decimal n).head? = some '0') : decimal n = ['0'] := by
  rcases Nat.eq_zero_or_pos n with rfl | hn
  · rfl
  · obtain ⟨c, rest, hdigits, -⟩ := exists_decimal_eq n
    obtain rfl : c = '0' := by simpa [hdigits] using h
    have hrest : ofDigits rest = n := by
      rw [← ofDigits_decimal n, hdigits]
      exact (ofDigits_zeros 1 rest).symm
    have hlt : ofDigits rest < 10 ^ rest.length := ofDigits_lt fun c hc =>
      isDigit_of_mem_decimal (hdigits ▸ List.mem_cons_of_mem _ hc)
    have hle := pow_length_decimal_le hn
    rw [hdigits, List.length_cons, Nat.add_sub_cancel] at hle
    omega

/-- **A numeral with no zero in front** is how its number is written. -/
theorem decimal_ofDigits {digits : List Char} (hdigits : isNumeral digits = true)
    (hfront : digits.head? = some '0' → digits = ['0']) : decimal (ofDigits digits) = digits := by
  induction digits using List.reverseRecOn with
  | nil => exact absurd hdigits (by decide)
  | append_singleton front c ih =>
    obtain ⟨-, hall⟩ := isNumeral_iff.mp hdigits
    obtain ⟨d, rfl⟩ := exists_digitChar_eq (hall c (by simp))
    have hlast : decimal (d : Nat) = [Nat.digitChar d] := Nat.toDigits_of_lt_base d.isLt
    by_cases hempty : front = []
    · rw [hempty, List.nil_append, ofDigits_digitChar, hlast]
    · have hhead : front.head? ≠ some '0' := fun hzero =>
        have hsingle := hfront (by rw [List.head?_append_of_ne_nil _ hempty, hzero])
        hempty (by simpa using congrArg List.length hsingle)
      have hbefore : decimal (ofDigits front) = front :=
        ih (isNumeral_iff.mpr ⟨hempty, fun c hc => hall c (List.mem_append_left _ hc)⟩)
          fun hzero => absurd hzero hhead
      have hpos : 0 < ofDigits front := by
        refine Nat.pos_of_ne_zero fun hzero => hhead ?_
        rw [← hbefore, hzero]
        rfl
      calc decimal (ofDigits (front ++ [Nat.digitChar d]))
          = decimal (10 * ofDigits front + d) := by
            rw [ofDigits_append, ofDigits_digitChar, List.length_singleton, Nat.pow_one]
        _ = decimal (ofDigits front) ++ decimal d :=
            (Nat.toDigits_append_toDigits (by decide) hpos d.isLt).symm
        _ = front ++ [Nat.digitChar d] := by rw [hbefore, hlast]

theorem length_padded {width : Nat} {digits : List Char} (h : digits.length ≤ width) :
    (padded width digits).length = width := by
  rw [padded, List.length_append, List.length_replicate]
  omega

end Numeral

namespace Decimal

open Numeral

/-! ### Reading -/

theorem ten_zpow_le {k : ℤ} (hk : k ≤ 0) : (10 : ℚ) ^ k ≤ 2 ^ (3 * k) := by
  obtain ⟨m, rfl⟩ : ∃ m : Nat, k = -m := ⟨(-k).toNat, by omega⟩
  rw [zpow_mul, zpow_neg, zpow_neg, zpow_natCast, zpow_natCast]
  apply inv_anti₀ (by positivity)
  exact pow_le_pow_left₀ (by norm_num) (by norm_num) m

theorem le_ten_zpow {k : ℤ} (hk : 0 ≤ k) : (2 : ℚ) ^ (3 * k) ≤ 10 ^ k := by
  obtain ⟨m, rfl⟩ := Int.eq_ofNat_of_zero_le hk
  rw [zpow_mul, zpow_natCast, zpow_natCast]
  exact pow_le_pow_left₀ (by norm_num) (by norm_num) m

/-- How many digits a decimal has, and its exponent, say between which powers of ten it is. -/
theorem decimal_bounds {significand : Nat} (hpos : 0 < significand) (exponent : ℤ) :
    (10 : ℚ) ^ ((decimal significand).length + exponent - 1) ≤ significand * 10 ^ exponent ∧
      (significand * 10 ^ exponent : ℚ) < 10 ^ ((decimal significand).length + exponent) := by
  have hpower : (0 : ℚ) < 10 ^ exponent := zpow_pos (by norm_num) exponent
  constructor
  · have hlength : 0 < (decimal significand).length := Nat.length_toDigits_pos
    have hsplit : (decimal significand).length + exponent - 1 =
        ((decimal significand).length - 1 : Nat) + exponent := by omega
    rw [hsplit, zpow_add₀ (by norm_num), zpow_natCast]
    exact mul_le_mul_of_nonneg_right (by exact_mod_cast pow_length_decimal_le hpos) hpower.le
  · rw [zpow_add₀ (by norm_num), zpow_natCast]
    exact mul_lt_mul_of_pos_right (by exact_mod_cast lt_pow_length_decimal significand) hpower

namespace Literal

/-- **A decimal is read as its value, rounded**, where that does not overflow. -/
theorem toNumber_is {f : Format} (hf : f.Proper) (negative : Bool) (significand : Nat)
    (exponent : ℤ)
    (hx : (significand * 10 ^ exponent : ℚ) < 2 ^ (f.greatestExponent + f.precision - 1)) :
    (toNumber f (.decimal negative significand exponent)).Is negative
      (f.rounded (significand * 10 ^ exponent)) := by
  have hprecision := hf.precision_pos
  have hfield : (0 : ℤ) < 2 ^ (f.exponentBits - 1) := by positivity
  have hleast : f.leastExponent = 3 - 2 ^ (f.exponentBits - 1) - f.precision := rfl
  have hgreatest : f.greatestExponent = 2 ^ (f.exponentBits - 1) - f.precision := rfl
  rcases Nat.eq_zero_or_pos significand with rfl | hpos
  · exact ⟨0, f.leastExponent, by simp [toNumber], by simp⟩
  · obtain ⟨habove, hbelow⟩ := decimal_bounds hpos exponent
    set size : ℤ := (Numeral.decimal significand).length + exponent with hsize
    have hdigits : ((Nat.toDigits 10 significand).length : ℤ) + exponent = size := rfl
    simp only [toNumber, hdigits, hpos.ne', decide_false, Bool.false_or, decide_eq_true_eq]
    split
    · next hsmall =>
      have hzero : f.rounded (significand * 10 ^ exponent) = 0 := by
        apply Format.rounded_eq_zero
          (mul_nonneg (Nat.cast_nonneg _) (zpow_nonneg (by norm_num) exponent))
        calc (significand * 10 ^ exponent : ℚ) < 10 ^ size := hbelow
          _ ≤ 2 ^ (3 * size) := ten_zpow_le (by omega)
          _ ≤ 2 ^ (f.leastExponent - 1) := zpow_le_zpow_right₀ one_le_two (by omega)
      exact ⟨0, f.leastExponent, rfl, by rw [hzero, Nat.cast_zero, zero_mul]⟩
    · rw [if_neg]
      · have hvalue : ((significand * 10 ^ exponent.toNat : Nat) : ℚ) /
            (10 ^ (-exponent).toNat : Nat) = significand * 10 ^ exponent := by
          rw [Nat.cast_mul, mul_div_assoc, ← natCast_zpow_eq (by decide), Nat.cast_ofNat]
        rw [← hvalue] at hx ⊢
        exact Format.round_is hf negative _ (Nat.pow_pos (by decide)) hx
      · -- What is given up as too large would be at least the bound.
        intro hlarge
        refine absurd hx (not_lt.mpr ?_)
        calc (2 : ℚ) ^ (f.greatestExponent + f.precision - 1) ≤ 2 ^ (3 * (size - 1)) :=
              zpow_le_zpow_right₀ one_le_two (by omega)
          _ ≤ 10 ^ (size - 1) := le_ten_zpow (by omega)
          _ ≤ significand * 10 ^ exponent := habove

variable {whole fraction : List Char}

/-- What starts with a digit has no sign. -/
theorem parse?_append (hwhole : isNumeral whole = true) (rest : List Char) :
    parse? (whole ++ rest) = unsigned? false (whole ++ rest) := by
  obtain ⟨hne, hdigits⟩ := isNumeral_iff.mp hwhole
  obtain ⟨c, whole', rfl⟩ := List.exists_cons_of_ne_nil hne
  have hc : c.isDigit = true := hdigits c List.mem_cons_self
  rw [List.cons_append]
  unfold parse?
  split
  · next heq =>
    rw [(List.cons.inj heq).1] at hc
    exact absurd hc (by decide)
  · next heq =>
    rw [(List.cons.inj heq).1] at hc
    exact absurd hc (by decide)
  · rfl

theorem parse?_numeral (hwhole : isNumeral whole = true) :
    parse? whole = some (.decimal false (ofDigits whole) 0) := by
  obtain ⟨hne, hdigits⟩ := isNumeral_iff.mp hwhole
  have hfirst : whole.takeWhile Char.isDigit = whole := List.takeWhile_eq_self_iff.mpr hdigits
  have hrest : whole.dropWhile Char.isDigit = [] := List.dropWhile_eq_nil_iff.mpr hdigits
  have hmagnitude : magnitude? whole = some (ofDigits whole, 0) := by
    simp [magnitude?, hfirst, hrest, hne, exponent?]
  have hparse := parse?_append hwhole []
  rw [List.append_nil] at hparse
  rw [hparse, unsigned?, hmagnitude]

/-- Digits with a point among them, as they are read. -/
theorem parse?_fraction (hwhole : isNumeral whole = true)
    (hfraction : ∀ c ∈ fraction, c.isDigit = true) :
    parse? (whole ++ '.' :: fraction) =
      some (.decimal false (ofDigits (whole ++ fraction)) (-(fraction.length : ℤ))) := by
  obtain ⟨hne, hdigits⟩ := isNumeral_iff.mp hwhole
  have hfirst : (whole ++ '.' :: fraction).takeWhile Char.isDigit = whole := by
    rw [List.takeWhile_append_of_pos hdigits]
    simp
  have hrest : (whole ++ '.' :: fraction).dropWhile Char.isDigit = '.' :: fraction := by
    rw [List.dropWhile_append_of_pos hdigits]
    rfl
  have hall : fraction.takeWhile Char.isDigit = fraction :=
    List.takeWhile_eq_self_iff.mpr hfraction
  have hnone : fraction.dropWhile Char.isDigit = [] := List.dropWhile_eq_nil_iff.mpr hfraction
  have hmagnitude : magnitude? (whole ++ '.' :: fraction) =
      some (ofDigits (whole ++ fraction), -(fraction.length : ℤ)) := by
    simp [magnitude?, hfirst, hrest, hall, hnone, hne, exponent?]
  rw [parse?_append hwhole, unsigned?, hmagnitude]

end Literal

/-- The finite number that a decimal is read as. -/
theorem exists_finite?_eq {s : List Char} {significand : Nat} {exponent : ℤ}
    (hparse : Literal.parse? s = some (.decimal false significand exponent))
    (hx : (significand * 10 ^ exponent : ℚ) <
      2 ^ (double.greatestExponent + double.precision - 1)) :
    ∃ x, finite? s = some x ∧ x.Is false (double.rounded (significand * 10 ^ exponent)) := by
  have hx' := Literal.toNumber_is Format.double_proper false significand exponent hx
  refine ⟨_, ?_, hx'⟩
  rw [finite?, number?, hparse, Option.map_some, Option.filter_some, if_pos hx'.isFinite]

/-- Whole numbers are read exactly. -/
theorem exists_finite?_decimal {n : Nat} (hn : n < 2 ^ 53) :
    ∃ x, finite? (decimal n) = some x ∧ x.Is false n := by
  have hparse := Literal.parse?_numeral (isNumeral_decimal n)
  have hn' : (n : ℚ) ≤ 2 ^ 53 := by exact_mod_cast hn.le
  rw [ofDigits_decimal] at hparse
  have hread := exists_finite?_eq hparse
    (lt_double_overflow (by rw [zpow_zero, mul_one]; norm_num at hn' ⊢; linarith))
  rwa [zpow_zero, mul_one, double_rounded_natCast hn] at hread

/-! ### Writing -/

/-- **The text of a quotient** is that of the nearest decimal with so many places. -/
theorem exists_fixedQuotient_eq {places : Nat} (hplaces : 0 < places) (n d : Nat) :
    ∃ whole fraction, fixedQuotient places n d = whole ++ '.' :: fraction ∧
      isNumeral whole = true ∧ (∀ c ∈ fraction, c.isDigit = true) ∧ fraction.length = places ∧
      ofDigits (whole ++ fraction) = roundDiv (n * 10 ^ places) d := by
  set scaled := roundDiv (n * 10 ^ places) d with hscaled
  have hlength : (decimal (scaled % 10 ^ places)).length ≤ places :=
    Nat.toDigits_length 10 _ _ hplaces (Nat.mod_lt _ (Nat.pow_pos (by decide)))
  refine ⟨decimal (scaled / 10 ^ places), padded places (decimal (scaled % 10 ^ places)), ?_,
    isNumeral_decimal _, ?_, length_padded hlength, ?_⟩
  · rw [fixedQuotient, if_neg hplaces.ne']
  · intro c hc
    rcases List.mem_append.mp hc with hzero | hdigit
    · rw [List.eq_of_mem_replicate hzero]
      decide
    · exact isDigit_of_mem_decimal hdigit
  · rw [ofDigits_append, length_padded hlength, padded, ofDigits_zeros, ofDigits_decimal,
      ofDigits_decimal, Nat.div_add_mod]

end Decimal

end CarrierLink
