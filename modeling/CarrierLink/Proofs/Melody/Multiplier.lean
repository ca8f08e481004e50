import CarrierLink.Proofs.Melody.Duration
import CarrierLink.Proofs.Number.Decimal
import CarrierLink.Proofs.Text.Words
import Mathlib.Tactic.IntervalCases
import Mathlib.Tactic.NormNum

/-!
# Multipliers and the durations that they stand for

A duration is written as a multiplier of the unit and read by scaling the unit with it, and
both numbers are rounded: the multiplier to a double when it is read, then the product. The
product is cut down to a whole number, so it must not fall below the duration by the least
bit. In general it does: the double nearest to `1 / 49`, taken 49 times, is less than one.

For a unit of 500 it does not (`CarrierLink.Melody.le_rescaled`), and there are three
reasons, one for each range of durations:

* above 512, up to twice the unit, the error of the multiplier is at most `2 ^ (-53)`, so the
  product is off by at most `500 · 2 ^ (-53)`. That is less than half a unit of the grid
  around the product, `512 · 2 ^ (-53)`, and the product is rounded to the duration;
* from the unit up to 512 the grid around the product is twice as fine, but there the
  multipliers happen to be rounded up;
* below the unit, doubling the duration doubles the product.

What is read back from a multiplier is therefore the duration that its decimals stand for, brought
within the bounds (`CarrierLink.Melody.readDuration_shownText`). With three decimals that is the
duration itself (`CarrierLink.Melody.readDuration_exactText`).
-/

namespace CarrierLink.Melody

open Binary Numeral

-- A power is the one of the core library, whatever else is imported.
attribute [local instance (high)] instPowNat

/-! ### The duration that a rounded multiplier stands for -/

/-- Doubling commutes with rounding for all that is not tiny. -/
theorem double_rounded_two_mul {x : ℚ} (hx : 1 / 512 ≤ x) :
    double.rounded (2 * x) = 2 * double.rounded x := by
  have hpos : 0 < x := lt_of_lt_of_le (by norm_num) hx
  have hlog : -9 ≤ Int.log 2 x := by
    apply (Int.zpow_le_iff_le_log one_lt_two hpos).mp
    norm_num at hx ⊢
    exact hx
  have hleast := double_leastExponent
  have hprecision := double_precision
  exact Format.rounded_two_mul hpos (by omega)

/-- The product of the unit with the double nearest to the multiplier of a duration,
rounded. -/
def rescaled (duration : ℚ) : ℚ := double.rounded (double.rounded (duration / 500) * 500)

theorem le_rounded_quotient {x : ℚ} (hx : 1 ≤ x) : 1 / 512 ≤ double.rounded (x / 500) := by
  have hsmall : double.rounded (1 / 512) = 1 / 512 := by
    have hexact := Format.rounded_of_lt (f := double) (k := 1) (g := -9) (by decide) (by decide)
    norm_num at hexact ⊢
    exact hexact
  rw [← hsmall]
  exact double_rounded_mono (by norm_num) (by linarith)

theorem rescaled_mono {x y : ℚ} (hx : 1 ≤ x) (h : x ≤ y) : rescaled x ≤ rescaled y := by
  have hpos := le_rounded_quotient hx
  have hquotients : double.rounded (x / 500) ≤ double.rounded (y / 500) :=
    double_rounded_mono (by linarith) (by linarith)
  exact double_rounded_mono (by linarith) (by linarith)

theorem rescaled_two_mul {x : ℚ} (hx : 1 ≤ x) : rescaled (2 * x) = 2 * rescaled x := by
  have hpos := le_rounded_quotient hx
  rw [rescaled, mul_div_assoc, double_rounded_two_mul (by linarith), mul_assoc,
    double_rounded_two_mul (by linarith), rescaled]

/-- A multiplier that is rounded up gives no less than the duration. -/
theorem le_rescaled_of_le {d : Nat} (hpos : 0 < d) (hlt : d < 2 ^ 53)
    (h : (d / 500 : ℚ) ≤ double.rounded (d / 500)) : (d : ℚ) ≤ rescaled d := by
  calc (d : ℚ) = double.rounded d := (double_rounded_natCast hlt).symm
    _ ≤ rescaled d := double_rounded_mono (Nat.cast_pos.mpr hpos) (by linarith)

theorem rounded_quotient_eq {d : Nat} (hlow : 500 ≤ d) (hhigh : d < 1000) :
    double.rounded (d / 500) = roundDiv (d * 2 ^ 52) 500 * 2 ^ (-52 : ℤ) := by
  have hlow' : (500 : ℚ) ≤ d := by exact_mod_cast hlow
  have hhigh' : (d : ℚ) < 1000 := by exact_mod_cast hhigh
  have hgrid : double.grid (d / 500) = -52 := grid_double_eq (k := 0)
    (by rw [zpow_zero]; linarith) (by rw [zero_add, zpow_one]; linarith) (by decide)
  have hquotient : ((d * 2 ^ 52 : Nat) : ℚ) / (500 : Nat) = d / 500 / 2 ^ (-52 : ℤ) := by
    simpa using quotient_div_two_zpow d 500 (-52)
  rw [roundDiv_eq_nearestEven _ (by decide), hquotient, Format.rounded, hgrid]

/-- Just above the unit the multipliers are rounded up. -/
theorem le_rescaled_of_le_512 {d : Nat} (hlow : 500 < d) (hhigh : d ≤ 512) :
    (d : ℚ) ≤ rescaled d := by
  have hup : d * 2 ^ 52 ≤ 500 * roundDiv (d * 2 ^ 52) 500 := by
    interval_cases d <;> decide
  have hup' : (d * 2 ^ 52 : ℚ) ≤ 500 * roundDiv (d * 2 ^ 52) 500 := by exact_mod_cast hup
  apply le_rescaled_of_le (by omega) (by omega)
  rw [rounded_quotient_eq hlow.le (by omega)]
  norm_num at hup' ⊢
  linarith

/-- Farther above it the product is close enough to the duration to be rounded to it. -/
theorem le_rescaled_of_512_lt {d : Nat} (hlow : 512 < d) (hhigh : d < 1000) :
    (d : ℚ) ≤ rescaled d := by
  have hlow' : (513 : ℚ) ≤ d := by exact_mod_cast hlow
  have hhigh' : (d : ℚ) ≤ 999 := by exact_mod_cast Nat.le_of_lt_succ hhigh
  have hgrid : double.grid (d / 500) = -52 := grid_double_eq (k := 0)
    (by rw [zpow_zero]; linarith) (by rw [zero_add, zpow_one]; linarith) (by decide)
  have herror := abs_le.mp (Format.abs_rounded_sub_le (f := double) (x := d / 500) (by linarith))
  rw [hgrid] at herror
  norm_num at herror
  have hproduct : double.grid (double.rounded (d / 500) * 500) = -43 :=
    grid_double_eq (k := 9) (by norm_num; linarith) (by norm_num; linarith) (by decide)
  have hnear := Format.le_rounded_of_sub_lt (f := double) (x := double.rounded (d / 500) * 500)
    (by linarith) (d * 2 ^ 43)
  have hwhole : ((d * 2 ^ 43 : Nat) : ℚ) * 2 ^ (-43 : ℤ) = d := natCast_mul_two_zpow d 43
  rw [hproduct, hwhole] at hnear
  exact hnear (by norm_num; linarith)

/-- **Scaling back loses nothing**: no product is rounded to less than the duration. Up to the
unit, doubling the duration doubles the product. -/
theorem le_rescaled (d : Nat) (hpos : 0 < d) (hle : d ≤ 1000) : (d : ℚ) ≤ rescaled d := by
  rcases le_or_gt d 500 with hsmall | hlarge
  · have hdouble := le_rescaled (2 * d) (by omega) (by omega)
    rw [Nat.cast_mul, Nat.cast_ofNat, rescaled_two_mul (by exact_mod_cast hpos)] at hdouble
    linarith
  · rcases lt_or_eq_of_le hle with hlt | rfl
    · rcases le_or_gt d 512 with hnear | hfar
      · exact le_rescaled_of_le_512 hlarge hnear
      · exact le_rescaled_of_512_lt hfar hlt
    · have htwo := double_rounded_natCast (k := 2) (by decide)
      exact le_rescaled_of_le (by decide) (by decide) (by norm_num at htwo ⊢; exact htwo.ge)
termination_by 1000 - d

-- The unit matters: with one of 49 the shortest duration would be lost.
example : (double.scale (double.round false 1 49) 49 1).truncate? = some 0 := by decide +kernel

/-- No product is as much as a unit too large. -/
theorem rescaled_lt {d : Nat} (hpos : 0 < d) (hle : d ≤ 1000) : rescaled d < d + 1 := by
  have hpos' : (1 : ℚ) ≤ d := by exact_mod_cast hpos
  have hle' : (d : ℚ) ≤ 1000 := by exact_mod_cast hle
  have hgrid : double.grid (d / 500) ≤ -51 := by
    have hlog : Int.log 2 (d / 500 : ℚ) < 2 :=
      (Int.lt_zpow_iff_log_lt one_lt_two (by linarith)).mp (by norm_num; linarith)
    rw [Format.grid, double_leastExponent, double_precision]
    omega
  have hunit : (2 : ℚ) ^ double.grid (d / 500) ≤ 2 ^ (-51 : ℤ) :=
    zpow_le_zpow_right₀ one_le_two hgrid
  have herror := abs_le.mp (Format.abs_rounded_sub_le (f := double) (x := d / 500) (by linarith))
  have hhalf : double.rounded (d + 1 / 2) = d + 1 / 2 := by
    have hexact := Format.rounded_of_lt (f := double) (k := 2 * d + 1) (g := -1)
      (lt_of_le_of_lt (by omega : 2 * d + 1 ≤ 2001) (by decide)) (by decide)
    have hvalue : ((2 * d + 1 : Nat) : ℚ) * 2 ^ (-1 : ℤ) = d + 1 / 2 := by
      push_cast
      ring
    rwa [hvalue] at hexact
  have hproduct : double.rounded (d / 500) * 500 ≤ d + 1 / 2 := by
    norm_num at hunit
    linarith [herror.2]
  have hquotient := le_rounded_quotient hpos'
  calc rescaled d ≤ double.rounded (d + 1 / 2) := double_rounded_mono (by linarith) hproduct
    _ < d + 1 := by rw [hhalf]; linarith

/-- **What is read back from a multiplier** is the duration, brought within the bounds. -/
theorem clamp_rescaled (d : Nat) :
    max minDuration (min ⌊rescaled d⌋₊ maxDuration) = max minDuration (min d maxDuration) := by
  have hmin : minDuration = 1 := rfl
  have hmax : maxDuration = 1000 := rfl
  rcases Nat.eq_zero_or_pos d with rfl | hpos
  · simp [rescaled]
  rcases le_or_gt d 1000 with hle | hlarge
  · have hfloor : ⌊rescaled d⌋₊ = d :=
      Nat.floor_eq_on_Ico d _ ⟨le_rescaled d hpos hle, rescaled_lt hpos hle⟩
    rw [hfloor]
  · have hlarge' : ((1000 : Nat) : ℚ) ≤ d := by exact_mod_cast hlarge.le
    have hthousand : ((1000 : Nat) : ℚ) ≤ rescaled d :=
      le_trans (le_rescaled 1000 (by decide) le_rfl) (rescaled_mono (by norm_num) hlarge')
    have hfloor := Nat.le_floor hthousand
    omega

theorem rounded_quotient_le {d : Nat} (hd : d < 2 ^ 16) : double.rounded (d / 500) ≤ 256 := by
  rcases Nat.eq_zero_or_pos d with rfl | hpos
  · simp
  · have hpos' : (0 : ℚ) < d := Nat.cast_pos.mpr hpos
    have hd' : (d : ℚ) ≤ 65536 := by exact_mod_cast hd.le
    calc double.rounded (d / 500) ≤ double.rounded (256 : Nat) :=
          double_rounded_mono (by linarith) (by norm_num; linarith)
      _ = 256 := by rw [double_rounded_natCast (by decide), Nat.cast_ofNat]

theorem durationOf_rounded_quotient {d : Nat} (hd : d < 2 ^ 16) :
    durationOf (double.rounded (d / 500)) = max minDuration (min d maxDuration) := by
  have hle : double.rounded (d / 500) ≤ 256 := rounded_quotient_le hd
  rw [durationOf, if_pos (lt_double_overflow_of_le (k := 17) (by linarith) (by decide)), mul_comm]
  exact clamp_rescaled d

/-! ### Multipliers as text -/

theorem trimDecimals_append_zero (s : List Char) : trimDecimals (s ++ ['0']) = trimDecimals s := by
  simp [trimDecimals]

theorem trimDecimals_append_singleton (s : List Char) {c : Char} (hc : c.isDigit = true)
    (hne : c ≠ '0') : trimDecimals (s ++ [c]) = s ++ [c] := by
  have hpoint : c ≠ '.' := by
    rintro rfl
    exact absurd hc (by decide)
  simp [trimDecimals, hne, hpoint]

theorem trimDecimals_append_point {s : List Char} (h : ∀ c ∈ s, c.isDigit = true) :
    trimDecimals (s ++ ['.']) = s := by
  have hstop : s.reverse.dropWhile (· == '.') = s.reverse := by
    refine List.dropWhile_eq_self_iff.mpr fun hl heq => ?_
    have hdigit := h _ (List.mem_reverse.mp (List.getElem_mem hl))
    rw [beq_iff_eq.mp heq] at hdigit
    exact absurd hdigit (by decide)
  simp [trimDecimals, hstop]

theorem mem_of_mem_trimDecimals {s : List Char} {c : Char} (h : c ∈ trimDecimals s) : c ∈ s := by
  have hdropped := List.mem_reverse.mp h
  exact List.mem_reverse.mp ((List.dropWhile_sublist _).subset
    ((List.dropWhile_sublist _).subset hdropped))

variable {whole fraction : List Char}

/-- **A decimal keeps its value** when it loses the zeros that it ends in: by induction from
the end of the fraction, where the zeros are taken off one by one. -/
theorem exists_parse?_trimDecimals (hwhole : isNumeral whole = true)
    (hfraction : ∀ c ∈ fraction, c.isDigit = true) :
    ∃ (significand : Nat) (exponent : ℤ),
      Decimal.Literal.parse? (trimDecimals (whole ++ '.' :: fraction)) =
        some (.decimal false significand exponent) ∧
      (significand * 10 ^ exponent : ℚ) = ofDigits (whole ++ fraction) / 10 ^ fraction.length := by
  induction fraction using List.reverseRecOn with
  | nil =>
    have hdigits := (isNumeral_iff.mp hwhole).2
    rw [trimDecimals_append_point hdigits]
    exact ⟨_, _, Decimal.Literal.parse?_numeral hwhole, by simp⟩
  | append_singleton fraction c ih =>
    have hc : c.isDigit = true := hfraction c (by simp)
    rw [← List.cons_append, ← List.append_assoc]
    rcases eq_or_ne c '0' with rfl | hne
    · obtain ⟨significand, exponent, hparse, hvalue⟩ :=
        ih fun c' hc' => hfraction c' (List.mem_append_left _ hc')
      refine ⟨significand, exponent, by rw [trimDecimals_append_zero, hparse], ?_⟩
      have hshift :
          ofDigits (whole ++ (fraction ++ ['0'])) = ofDigits (whole ++ fraction) * 10 := by
        rw [← List.append_assoc, ofDigits_append (whole ++ fraction)]
        exact Nat.mul_comm 10 _
      rw [hvalue, hshift, List.length_append, List.length_singleton, pow_succ, Nat.cast_mul,
        Nat.cast_ofNat, mul_div_mul_right _ _ (by norm_num)]
    · rw [trimDecimals_append_singleton _ hc hne, List.append_assoc, List.cons_append]
      refine ⟨_, _, Decimal.Literal.parse?_fraction hwhole hfraction, ?_⟩
      rw [zpow_neg, zpow_natCast, div_eq_mul_inv]

/-- A duration as text, as a multiplier with so many decimals at most. -/
def shownText (places duration : Nat) : List Char :=
  trimDecimals (Decimal.fixedQuotient places duration unitDuration)

/-- The exact multiplier of a duration as text. -/
def exactText (duration : Nat) : List Char :=
  trimDecimals (Decimal.fixedQuotient exactPlaces duration unitDuration)

section ShownText

variable {places : Nat}

/-- The text has the value of the multiplier, rounded to its decimals. -/
theorem exists_parse?_shownText (hplaces : 0 < places) (d : Nat) :
    ∃ (significand : Nat) (exponent : ℤ),
      Decimal.Literal.parse? (shownText places d) = some (.decimal false significand exponent) ∧
      (significand * 10 ^ exponent : ℚ) = roundDiv (d * 10 ^ places) unitDuration / 10 ^ places := by
  obtain ⟨whole, fraction, heq, hwhole, hfraction, hlength, hdigits⟩ :=
    Decimal.exists_fixedQuotient_eq hplaces d unitDuration
  obtain ⟨significand, exponent, hparse, hvalue⟩ := exists_parse?_trimDecimals hwhole hfraction
  exact ⟨significand, exponent, by rw [shownText, heq, hparse], by rw [hvalue, hdigits, hlength]⟩

theorem isDigit_or_point_of_mem_shownText (hplaces : 0 < places) {d : Nat} {c : Char}
    (h : c ∈ shownText places d) : c.isDigit = true ∨ c = '.' := by
  obtain ⟨whole, fraction, heq, hwhole, hfraction, -⟩ :=
    Decimal.exists_fixedQuotient_eq hplaces d unitDuration
  have hmem := mem_of_mem_trimDecimals h
  rw [heq, List.mem_append, List.mem_cons] at hmem
  rcases hmem with hmem | rfl | hmem
  · exact .inl ((isNumeral_iff.mp hwhole).2 c hmem)
  · exact .inr rfl
  · exact .inl (hfraction c hmem)

theorem shownText_ne_nil (hplaces : 0 < places) (d : Nat) : shownText places d ≠ [] := by
  intro hnil
  obtain ⟨significand, exponent, hparse, -⟩ := exists_parse?_shownText hplaces d
  have hempty : Decimal.Literal.parse? [] = none := by decide
  rw [hnil, hempty] at hparse
  exact absurd hparse (by simp)

theorem isWord_shownText (hplaces : 0 < places) (d : Nat) : Text.IsWord (shownText places d) := by
  refine ⟨shownText_ne_nil hplaces d, fun c hc => ?_⟩
  rcases isDigit_or_point_of_mem_shownText hplaces hc with hdigit | rfl
  · exact Text.isBlank_of_isDigit hdigit
  · decide

/-- Only one is written as one. -/
theorem roundDiv_eq_of_shownText_eq_one (hplaces : 0 < places) {d : Nat}
    (h : shownText places d = ['1']) :
    (roundDiv (d * 10 ^ places) unitDuration / 10 ^ places : ℚ) = 1 := by
  obtain ⟨significand, exponent, hparse, hvalue⟩ := exists_parse?_shownText hplaces d
  have hliteral : Decimal.Literal.parse? ['1'] = some (.decimal false 1 0) := by decide
  rw [h, hliteral] at hparse
  obtain ⟨-, rfl, rfl⟩ := Decimal.Literal.decimal.inj (Option.some.inj hparse)
  rw [← hvalue]
  norm_num

/-- **A multiplier is read as the duration that it has the value of**, brought within the bounds. -/
theorem readDuration_shownText (hplaces : 0 < places) {d shown : Nat} (hshown : shown < 2 ^ 16)
    (h : (roundDiv (d * 10 ^ places) unitDuration / 10 ^ places : ℚ) = shown / 500) :
    Step.readDuration (some (shownText places d)) = .ok (max minDuration (min shown maxDuration)) := by
  have hshown' : (shown : ℚ) ≤ 65536 := by exact_mod_cast hshown.le
  obtain ⟨significand, exponent, hparse, hvalue⟩ := exists_parse?_shownText hplaces d
  rw [h] at hvalue
  obtain ⟨x, hread, hx⟩ :=
    Decimal.exists_finite?_eq hparse (lt_double_overflow (by rw [hvalue]; linarith))
  rw [hvalue] at hx
  have htrim := Text.trim_eq_self (isWord_shownText hplaces d).2
  rw [Step.readDuration_eq (by rwa [htrim]), hx.value_eq, if_neg Bool.false_ne_true,
    durationOf_rounded_quotient hshown]

/-- The same for a multiplier that is left out where it is one. -/
theorem readDuration_multiplier? (hplaces : 0 < places) {d shown : Nat} (hshown : shown < 2 ^ 16)
    (h : (roundDiv (d * 10 ^ places) unitDuration / 10 ^ places : ℚ) = shown / 500) :
    Step.readDuration ((multiplier? places d).map String.toList) =
      .ok (max minDuration (min shown maxDuration)) := by
  have hunit (hone : (shown / 500 : ℚ) = 1) : shown = unitDuration := by
    have heq : (shown : ℚ) = (500 : Nat) := by
      push_cast
      linarith
    exact Nat.cast_injective heq
  rw [multiplier?]
  split
  · next hnone =>
    have hone : (shown / 500 : ℚ) = 1 := by
      rw [← h]
      rcases (Bool.or_eq_true _ _).mp hnone with hd | htext
      · rw [of_decide_eq_true hd, Nat.mul_comm, roundDiv_mul_self _ (by decide), Nat.cast_pow,
          Nat.cast_ofNat, div_self (by positivity)]
      · exact roundDiv_eq_of_shownText_eq_one hplaces (of_decide_eq_true htext)
    rw [hunit hone]
    rfl
  · rw [Option.map_some, String.toList_ofList]
    exact readDuration_shownText hplaces hshown h

end ShownText

/-- Three decimals are enough: the text has the value of the multiplier. -/
theorem roundDiv_exactPlaces (d : Nat) :
    (roundDiv (d * 10 ^ exactPlaces) unitDuration / 10 ^ exactPlaces : ℚ) = d / 500 := by
  have hmul : d * 10 ^ exactPlaces = 2 * d * unitDuration := by
    rw [exactPlaces, unitDuration]
    omega
  rw [hmul, roundDiv_mul_self _ (by decide), exactPlaces]
  push_cast
  ring

theorem isWord_exactText (d : Nat) : Text.IsWord (exactText d) :=
  isWord_shownText (by decide) d

/-- Only the unit has the multiplier one. -/
theorem exactText_ne_one {d : Nat} (hd : d ≠ unitDuration) : exactText d ≠ ['1'] := by
  intro hone
  have hvalue := roundDiv_eq_of_shownText_eq_one (by decide : 0 < exactPlaces) hone
  rw [roundDiv_exactPlaces] at hvalue
  have heq : (d : ℚ) = (500 : Nat) := by
    push_cast
    linarith
  exact hd (Nat.cast_injective heq)

/-- The text is what a tone is shown with. -/
theorem multiplier?_exactPlaces (d : Nat) :
    multiplier? exactPlaces d =
      if d = unitDuration then none else some (String.ofList (exactText d)) := by
  by_cases hd : d = unitDuration
  · simp [multiplier?, hd]
  · have hone := exactText_ne_one hd
    rw [exactText] at hone
    simp [multiplier?, hd, hone, exactText]

/-- **The exact multiplier is read as the duration**, brought within the bounds. -/
theorem readDuration_exactText {d : Nat} (hd : d < 2 ^ 16) :
    Step.readDuration (some (exactText d)) = .ok (max minDuration (min d maxDuration)) :=
  readDuration_shownText (by decide) hd (roundDiv_exactPlaces d)

end CarrierLink.Melody
