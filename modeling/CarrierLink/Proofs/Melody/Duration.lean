import CarrierLink.Melody
import CarrierLink.Proofs.Except
import CarrierLink.Proofs.Number.Value
import Mathlib.Tactic.NormNum

/-!
# The duration that a multiplier stands for

A multiplier is read as a double and the unit is scaled with it. The product is rounded to a
double, cut down to whole milliseconds and brought within the bounds of an operator
(`CarrierLink.Melody.durationOf`). All of this is monotone, so a larger multiplier does not
stand for a shorter duration, as long as there is a product: from a multiplier of about
`3.6 · 10 ^ 305` on it is too large for a double, and what is not finite counts as the shortest
duration (`CarrierLink.Melody.Step.duration_mono`).
-/

namespace CarrierLink.Melody

open Binary

-- A power is the one of the core library, whatever else is imported.
attribute [local instance (high)] instPowNat

/-- **The duration that a multiplier stands for**, in milliseconds. A product with the unit that
is too large for a double counts as the shortest duration. -/
def durationOf (m : ℚ) : Nat :=
  if 500 * m < double.overflow then max minDuration (min ⌊double.rounded (500 * m)⌋₊ maxDuration)
  else minDuration

variable {m m' : ℚ}

theorem minDuration_le_durationOf (m : ℚ) : minDuration ≤ durationOf m := by
  rw [durationOf]
  split
  · exact Nat.le_max_left _ _
  · exact le_rfl

theorem durationOf_le_maxDuration (m : ℚ) : durationOf m ≤ maxDuration := by
  rw [durationOf]
  split
  · exact Nat.max_le_of_le_of_le (by decide) (Nat.min_le_right _ _)
  · decide

/-- Multipliers that are not positive stand for the shortest duration. -/
theorem durationOf_of_nonpos (h : m ≤ 0) : durationOf m = minDuration := by
  rw [durationOf]
  split
  · rw [Format.rounded_of_nonpos (by linarith), Nat.floor_zero]
    rfl
  · rfl

/-- A multiplier that is too large for a double, once it is taken five hundred times, stands for
the shortest duration too. -/
theorem durationOf_of_overflow (h : double.overflow ≤ 500 * m) : durationOf m = minDuration := by
  rw [durationOf, if_neg (not_lt.mpr h)]

/-- **Below that, larger multipliers stand for longer durations.** -/
theorem durationOf_mono (h : m ≤ m') (hm' : 500 * m' < double.overflow) :
    durationOf m ≤ durationOf m' := by
  rcases le_or_gt m 0 with hm | hm
  · rw [durationOf_of_nonpos hm]
    exact minDuration_le_durationOf m'
  · have hrounded : double.rounded (500 * m) ≤ double.rounded (500 * m') :=
      double_rounded_mono (by linarith) (by linarith)
    have hfloor := Nat.floor_le_floor hrounded
    rw [durationOf, if_pos (by linarith), durationOf, if_pos hm']
    omega

/-- From a multiplier of two on they stand for the longest one. -/
theorem durationOf_of_two_le (h : 2 ≤ m) (hm : 500 * m < double.overflow) :
    durationOf m = maxDuration := by
  have hthousand : double.rounded (1000 : Nat) ≤ double.rounded (500 * m) :=
    double_rounded_mono (by norm_num) (by push_cast; linarith)
  rw [double_rounded_natCast (by decide)] at hthousand
  have hfloor := Nat.le_floor hthousand
  rw [durationOf, if_pos hm, minDuration, maxDuration]
  omega

/-! ### What is read -/

namespace Step

variable {text : List Char} {x : Number} {v : ℚ}

theorem unitDuration_div_one : ((unitDuration : Nat) : ℚ) / (1 : Nat) = 500 := by
  norm_num [unitDuration]

theorem clamp_scale (hx : x.Is false v) :
    (double.scale x unitDuration 1).clamp minDuration maxDuration = durationOf v := by
  have hproduct : v * (unitDuration / (1 : Nat)) = 500 * v := by
    rw [unitDuration_div_one, mul_comm]
  rcases lt_or_ge (500 * v) double.overflow with hlt | hge
  · have hscaled := Format.scale_is_of_lt Format.double_proper hx unitDuration Nat.one_pos
      (by rwa [hproduct])
    rw [hscaled.clamp, hproduct, durationOf, if_pos hlt]
  · rw [Format.scale_eq_infinite Format.double_proper hx unitDuration Nat.one_pos
      (by rwa [hproduct]), durationOf_of_overflow hge]
    rfl

/-- A negative product is cut down to nothing, and one that is too large counts as nothing. -/
theorem clamp_scale_of_negative (hx : x.Is true v) :
    (double.scale x unitDuration 1).clamp minDuration maxDuration = minDuration := by
  rcases lt_or_ge (v * (unitDuration / (1 : Nat))) double.overflow with hlt | hge
  · have hscaled := Format.scale_is_of_lt Format.double_proper hx unitDuration Nat.one_pos hlt
    exact hscaled.clamp_of_negative minDuration maxDuration
  · rw [Format.scale_eq_infinite Format.double_proper hx unitDuration Nat.one_pos hge]
    rfl

/-- **A multiplier that is a number is read as its duration.** -/
theorem readDuration_eq (hread : Decimal.finite? (Text.trim text) = some x) :
    readDuration (some text) = .ok (durationOf x.value) := by
  have hfinite : x.isFinite = true := (Option.filter_eq_some_iff.mp hread).2
  have hne : Text.trim text ≠ [] := by
    intro hnil
    have hempty : Decimal.finite? [] = none := by decide
    rw [hnil, hempty] at hread
    exact absurd hread (by simp)
  obtain ⟨c, rest, htrim⟩ := List.exists_cons_of_ne_nil hne
  have hread' : readDuration (some text) =
      .ok ((double.scale x unitDuration 1).clamp minDuration maxDuration) := by
    rw [htrim] at hread
    rw [readDuration, Option.map_some, htrim]
    simp only [hread]
  rw [hread']
  apply congrArg
  obtain ⟨negative, hx⟩ := Number.exists_is hfinite
  have hvalue := hx.value_eq
  cases negative with
  | false =>
    rw [clamp_scale hx]
    exact congrArg durationOf hvalue.symm
  | true =>
    rw [if_pos rfl] at hvalue
    rw [clamp_scale_of_negative hx, durationOf_of_nonpos (by linarith [abs_nonneg x.value])]

/-- The duration of a tone comes from its multiplier. -/
theorem duration_of_parse {token note : List Char} {step : Step}
    (hcut : Text.cut separator token = (note, some text)) (hparse : parse token = .ok step)
    (hread : Decimal.finite? (Text.trim text) = some x) :
    step.duration.toNat = durationOf x.value := by
  rw [parse, hcut] at hparse
  obtain ⟨frequency, -, hparse⟩ := exists_of_bind_eq_ok hparse
  obtain ⟨duration, hduration, hparse⟩ := exists_of_bind_eq_ok hparse
  rw [readDuration_eq hread] at hduration
  obtain rfl := Except.ok.inj hduration
  obtain rfl := Except.ok.inj hparse
  have hle := durationOf_le_maxDuration x.value
  rw [maxDuration] at hle
  exact UInt16.toNat_ofNat_of_lt' (by simp only [UInt16.size]; omega)

/-- **Durations are monotone in the multipliers**, up to the bounds and up to the end of the
doubles. Take two words that are read as tones, with multipliers that are numbers.

If the greater multiplier, taken five hundred times, still is a double, the tone with the smaller
one is not longer. A multiplier of two or more then stands for a second. Multipliers that are not
positive stand for a millisecond. So do those that are too large: five hundred times such a
multiplier is infinite, and what is not finite counts as the least. -/
theorem duration_mono {token₁ note₁ text₁ token₂ note₂ text₂ : List Char} {step₁ step₂ : Step}
    {x₁ x₂ : Number} (hcut₁ : Text.cut '@' token₁ = (note₁, some text₁))
    (hcut₂ : Text.cut '@' token₂ = (note₂, some text₂))
    (hparse₁ : parse token₁ = .ok step₁) (hparse₂ : parse token₂ = .ok step₂)
    (hread₁ : Decimal.finite? (Text.trim text₁) = some x₁)
    (hread₂ : Decimal.finite? (Text.trim text₂) = some x₂) (h : x₁.value ≤ x₂.value) :
    (500 * x₂.value < 2 ^ 1024 - 2 ^ 970 →
      step₁.duration ≤ step₂.duration ∧ (2 ≤ x₂.value → step₂.duration = 1000)) ∧
    (2 ^ 1024 - 2 ^ 970 ≤ 500 * x₂.value → step₂.duration = 1) ∧
    (x₁.value ≤ 0 → step₁.duration = 1) := by
  have hduration₁ := duration_of_parse hcut₁ hparse₁ hread₁
  have hduration₂ := duration_of_parse hcut₂ hparse₂ hread₂
  rw [← double_overflow]
  refine ⟨fun hlt => ⟨?_, fun htwo => ?_⟩, fun hge => ?_, fun hnonpos => ?_⟩
  · rw [UInt16.le_iff_toNat_le, hduration₁, hduration₂]
    exact durationOf_mono h hlt
  · rw [← UInt16.toNat_inj, hduration₂, durationOf_of_two_le htwo hlt]
    rfl
  · rw [← UInt16.toNat_inj, hduration₂, durationOf_of_overflow hge]
    rfl
  · rw [← UInt16.toNat_inj, hduration₁, durationOf_of_nonpos hnonpos]
    rfl

theorem duration_mono_of_two_tones :
    ∃ step₁ step₂, parse "A4@0.75".toList = .ok step₁ ∧ parse "440@2.5".toList = .ok step₂ ∧
      step₁.duration ≤ step₂.duration ∧ step₂.duration = 1000 := by
  have hcut₁ : Text.cut '@' "A4@0.75".toList = ("A4".toList, some "0.75".toList) := by decide
  have hcut₂ : Text.cut '@' "440@2.5".toList = ("440".toList, some "2.5".toList) := by decide
  have hread₁ : Decimal.finite? "0.75".toList = some (.finite false 6755399441055744 (-53)) := by
    decide +kernel
  have hread₂ : Decimal.finite? "2.5".toList = some (.finite false 5629499534213120 (-51)) := by
    decide +kernel
  have hparse₁ : parse "A4@0.75".toList = .ok ⟨440, 375⟩ := by decide +kernel
  have hparse₂ : parse "440@2.5".toList = .ok ⟨440, 1000⟩ := by decide +kernel
  obtain ⟨hbelow, -, -⟩ := duration_mono hcut₁ hcut₂ hparse₁ hparse₂ hread₁ hread₂
    (by norm_num [Number.value])
  rw [← double_overflow] at hbelow
  obtain ⟨hle, hlongest⟩ := hbelow (lt_double_overflow_of_le (k := 11) (by norm_num [Number.value]) (by decide))
  exact ⟨_, _, hparse₁, hparse₂, hle, hlongest (by norm_num [Number.value])⟩

/-- Past the end of the doubles a greater multiplier stands for a shorter duration. -/
theorem shortest_of_huge_multiplier :
    ∃ x₁ x₂, Decimal.finite? "2".toList = some x₁ ∧ Decimal.finite? "1e306".toList = some x₂ ∧
      2 ≤ x₁.value ∧ x₁.value ≤ x₂.value ∧
      parse "440@2".toList = .ok ⟨440, 1000⟩ ∧ parse "440@1e306".toList = .ok ⟨440, 1⟩ := by
  refine ⟨.finite false 4503599627370496 (-51), .finite false 6413338752028713 964, ?_, ?_, ?_, ?_,
    ?_, ?_⟩
  · decide +kernel
  · decide +kernel
  · norm_num [Number.value]
  · have hlarge : (1 : ℚ) ≤ 2 ^ (964 : ℤ) := one_le_zpow₀ one_le_two (by decide)
    calc Number.value (.finite false 4503599627370496 (-51)) ≤ 6413338752028713 * 1 := by
          norm_num [Number.value]
      _ ≤ 6413338752028713 * 2 ^ (964 : ℤ) := mul_le_mul_of_nonneg_left hlarge (by norm_num)
  · decide +kernel
  · decide +kernel

end Step

end CarrierLink.Melody
