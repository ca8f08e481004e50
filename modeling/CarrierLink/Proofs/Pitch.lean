import CarrierLink.Pitch
import CarrierLink.Proofs.Number.Logarithm
import Mathlib.Algebra.Order.Round

/-!
# Pitches and whole frequencies

The frequency of a pitch and the place of a frequency among the pitches, as real numbers:
`CarrierLink.Pitch.frequency` and `CarrierLink.Pitch.position` are inverse to each other, and
`CarrierLink.Pitch.hertz` is the first of them to the last bits of a double.

Whole frequencies are never in doubt. What is half-way between two pitches is no whole frequency,
and from the lowest pitch to the highest that a tone can have the nearest whole frequency is farther
away than any logarithm in double precision is off. So a whole frequency has one nearest pitch
(`CarrierLink.Pitch.exists_nearest`). The pitches themselves are not whole either, except for the
As from 55 Hz on, and those come out exactly; so the whole part of a pitch does not depend on the
last bits of it (`CarrierLink.Pitch.floor_eq_floor_frequency`). How far apart whole frequencies and
pitches are is found by comparing powers of whole numbers, once for each of the pitches
(`CarrierLink.Pitch.isApart`).
-/

namespace CarrierLink.Pitch

open Binary

-- A power is the one of the core library, whatever else is imported.
attribute [local instance (high)] instPowNat

/-! ### Exact pitches -/

/-- **The frequency of a pitch**, in Hz. -/
noncomputable def frequency (semitones : ℝ) : ℝ := 440 * 2 ^ (semitones / 12)

/-- **Where a frequency stands among the pitches**, in semitones from 440 Hz. -/
noncomputable def position (frequency : ℝ) : ℝ := 12 * Real.logb 2 (frequency / 440)

theorem frequency_pos (semitones : ℝ) : 0 < frequency semitones :=
  mul_pos (by norm_num) (Real.rpow_pos_of_pos two_pos _)

theorem frequency_mono {s t : ℝ} (h : s ≤ t) : frequency s ≤ frequency t :=
  mul_le_mul_of_nonneg_left (Real.rpow_le_rpow_of_exponent_le one_le_two (by linarith))
    (by norm_num)

theorem position_frequency (s : ℝ) : position (frequency s) = s := by
  rw [position, frequency, mul_div_cancel_left₀ _ (by norm_num), Real.logb_rpow two_pos (by norm_num)]
  ring

theorem position_lt_position {x y : ℝ} (hx : 0 < x) (h : x < y) : position x < position y :=
  mul_lt_mul_of_pos_left (Real.logb_lt_logb one_lt_two (by linarith) (by linarith)) (by norm_num)

/-- Frequencies that differ by a factor stand in different places. -/
theorem position_add_le {x y t : ℝ} (hx : 0 < x) (ht : 0 ≤ t) (ht' : t ≤ 1)
    (h : x * (1 + t) ≤ y) : position x + 6 * t ≤ position y := by
  have hlog := logb_add_le_of_mul_le (by linarith : 0 < x / 440) ht ht'
    (by linarith : x / 440 * (1 + t) ≤ y / 440)
  rw [position, position]
  linarith

/-- A pitch, raised to a power in which nothing is left of the roots. -/
theorem frequency_pow {parts : Nat} (hparts : 0 < parts) (e : ℤ) :
    frequency (e / parts) ^ (12 * parts) = 440 ^ (12 * parts) * 2 ^ e := by
  have hparts' : (parts : ℝ) ≠ 0 := by exact_mod_cast hparts.ne'
  have hexponent : (e / parts / 12 : ℝ) * (12 * parts : Nat) = e := by
    push_cast
    field_simp
  rw [frequency, mul_pow, ← Real.rpow_natCast (2 ^ _), ← Real.rpow_mul two_pos.le, hexponent,
    Real.rpow_intCast]

/-! ### Whole parts of roots -/

/-- One bit of a root after the other, from the highest. -/
theorem rootFrom_mem {k n low : Nat} (bits : Nat) (hlow : low ^ k ≤ n)
    (hhigh : n < (low + 2 ^ bits) ^ k) :
    rootFrom k n bits low ^ k ≤ n ∧ n < (rootFrom k n bits low + 1) ^ k := by
  induction bits generalizing low with
  | zero => exact ⟨hlow, hhigh⟩
  | succ bits ih =>
    rw [Nat.pow_succ, Nat.mul_two, ← Nat.add_assoc] at hhigh
    rw [rootFrom]
    split
    · next hle => exact ih hle hhigh
    · next hgt => exact ih hlow (Nat.not_le.mp hgt)

/-- **The whole part of a root.** -/
theorem root_mem {k : Nat} (hk : 0 < k) (n : Nat) : root k n ^ k ≤ n ∧ n < (root k n + 1) ^ k := by
  refine rootFrom_mem _ ?_ ?_
  · rw [Nat.zero_pow hk]
    exact Nat.zero_le n
  · rw [Nat.zero_add, ← Nat.pow_mul]
    refine Nat.lt_log2_self.trans_le (Nat.pow_le_pow_right two_pos ?_)
    have hdiv := Nat.div_add_mod (Nat.log2 n) k
    have hmod := Nat.mod_lt (Nat.log2 n) hk
    rw [Nat.add_mul, Nat.one_mul, Nat.mul_comm]
    omega

/-- The root of a number that was doubled before, halved: it is rounded to a whole number. -/
theorem abs_half_root_sub_le {k n : Nat} (hk : 0 < k) {x : ℝ} (hx : 0 ≤ x) (h : (2 * x) ^ k = n) :
    |((root k n + 1) / 2 : Nat) - x| ≤ 1 / 2 := by
  obtain ⟨hlow, hhigh⟩ := root_mem hk n
  set twice := root k n
  have hlow' : (twice : ℝ) ≤ 2 * x := by
    refine (pow_le_pow_iff_left₀ (Nat.cast_nonneg _) (by positivity) hk.ne').mp ?_
    rw [h]
    exact_mod_cast hlow
  have hhigh' : 2 * x < twice + 1 := by
    refine (pow_lt_pow_iff_left₀ (by positivity) (by positivity) hk.ne').mp ?_
    rw [h]
    exact_mod_cast hhigh
  have hhalf : 2 * ((twice + 1) / 2) = twice ∨ 2 * ((twice + 1) / 2) = twice + 1 := by omega
  rw [abs_le]
  rcases hhalf with hhalf | hhalf
  · have hhalf' : (2 : ℝ) * ((twice + 1) / 2 : Nat) = twice := by exact_mod_cast hhalf
    constructor <;> linarith
  · have hhalf' : (2 : ℝ) * ((twice + 1) / 2 : Nat) = twice + 1 := by exact_mod_cast hhalf
    constructor <;> linarith

/-! ### The frequency of a pitch as a double -/

/-- A pitch is an octave, and a place in it. -/
theorem frequency_intCast (n : ℤ) :
    frequency n = 55 * 2 ^ (((n % 12).toNat : ℝ) / 12) * 2 ^ (n / 12 + 3) := by
  have hsplit : (n : ℝ) = (n % 12).toNat + 12 * (n / 12 : ℤ) := by
    have hmod : (((n % 12).toNat : ℤ) : ℝ) = (n % 12 : ℤ) := by
      rw [Int.toNat_of_nonneg (Int.emod_nonneg n (by decide))]
    rw [← Int.cast_natCast, hmod]
    exact_mod_cast (Int.emod_add_mul_ediv n 12).symm
  have hexponent : (n : ℝ) / 12 = (n % 12).toNat / 12 + (n / 12 : ℤ) := by
    rw [hsplit]
    ring
  rw [frequency, hexponent, Real.rpow_add two_pos, Real.rpow_intCast, zpow_add₀ two_ne_zero]
  ring

/-- The mantissa of a pitch, before it is rounded, doubled and without the roots. -/
theorem mantissa_pow (places r : Nat) :
    (2 * (55 * 2 ^ places * 2 ^ ((r : ℝ) / 12)) : ℝ) ^ 12 =
      ((55 * 2 ^ (places + 1)) ^ (12 : Nat) * 2 ^ r : Nat) := by
  have hroot : ((2 : ℝ) ^ ((r : ℝ) / 12)) ^ 12 = 2 ^ r := by
    rw [← Real.rpow_natCast, ← Real.rpow_mul two_pos.le, Nat.cast_ofNat,
      div_mul_cancel₀ _ (by norm_num), Real.rpow_natCast]
  have hdouble : (2 * (55 * 2 ^ places * 2 ^ ((r : ℝ) / 12)) : ℝ) =
      55 * 2 ^ (places + 1) * 2 ^ ((r : ℝ) / 12) := by
    rw [pow_succ]
    ring
  rw [hdouble, mul_pow, hroot]
  push_cast
  rfl

/-- The mantissa of a pitch: the whole number next to a number of at least fifty-one bits. -/
theorem exists_hertz_eq (n : ℤ) : ∃ (mantissa : Nat) (x : ℝ) (exponent : ℤ),
    hertz n = .finite false mantissa exponent ∧ frequency n = x * 2 ^ exponent ∧
      |mantissa - x| ≤ 1 / 2 ∧ 2 ^ 51 ≤ x ∧ (12 ∣ n → ∃ k : Nat, x = k) := by
  set r := (n % 12).toNat with hr
  have hrlt : r < 12 := by omega
  set places := double.precision - 1 - Nat.log2 (root 12 (55 ^ (12 : Nat) * 2 ^ r)) with hplaces
  have hplacesge : 46 ≤ places := by
    have hall : ∀ r < 12,
        46 ≤ double.precision - 1 - Nat.log2 (root 12 (55 ^ (12 : Nat) * 2 ^ r)) := by
      decide +kernel
    exact hall r hrlt
  have hone : (1 : ℝ) ≤ 2 ^ ((r : ℝ) / 12) :=
    Real.one_le_rpow one_le_two (div_nonneg (Nat.cast_nonneg r) (by norm_num))
  refine ⟨_, 55 * 2 ^ places * 2 ^ ((r : ℝ) / 12), n / 12 + 3 - places, rfl, ?_,
    abs_half_root_sub_le (by decide) (by positivity) (mantissa_pow places r), ?_, fun hdvd => ?_⟩
  · rw [frequency_intCast, ← hr, zpow_sub₀ two_ne_zero, zpow_natCast]
    field_simp
  · calc (2 : ℝ) ^ 51 ≤ 55 * 2 ^ 46 := by norm_num
      _ ≤ 55 * 2 ^ places :=
          mul_le_mul_of_nonneg_left (pow_le_pow_right₀ one_le_two hplacesge) (by norm_num)
      _ ≤ 55 * 2 ^ places * 2 ^ ((r : ℝ) / 12) := le_mul_of_one_le_right (by positivity) hone
  · have hzero : r = 0 := by omega
    exact ⟨55 * 2 ^ places, by rw [hzero]; norm_num⟩

theorem hertz_isFinite (n : ℤ) : (hertz n).isFinite = true := rfl

/-- **The frequency of a pitch is right to the last bits of a double.** -/
theorem abs_hertz_sub_le (n : ℤ) :
    |((hertz n).value : ℝ) - frequency n| ≤ frequency n / 2 ^ 52 := by
  obtain ⟨mantissa, x, exponent, hhertz, hfrequency, hnear, hlarge, -⟩ := exists_hertz_eq n
  have hpower : (0 : ℝ) < 2 ^ exponent := zpow_pos two_pos _
  have hvalue : ((hertz n).value : ℝ) = mantissa * 2 ^ exponent := by
    rw [hhertz, Number.value]
    push_cast
    rfl
  rw [hvalue, hfrequency, ← sub_mul, abs_mul, abs_of_pos hpower, mul_div_right_comm]
  exact mul_le_mul_of_nonneg_right (by norm_num at hlarge ⊢; linarith) hpower.le

/-- **The As are exact.** -/
theorem hertz_eq_frequency {n : ℤ} (h : 12 ∣ n) : ((hertz n).value : ℝ) = frequency n := by
  obtain ⟨mantissa, x, exponent, hhertz, hfrequency, hnear, -, hwhole⟩ := exists_hertz_eq n
  obtain ⟨k, rfl⟩ := hwhole h
  have hmantissa : mantissa = k := by
    have hlt : |((mantissa : ℤ) - k : ℤ)| < 1 := by
      have hlt' : |(mantissa - k : ℝ)| < 1 := by linarith
      exact_mod_cast hlt'
    have hzero := Int.abs_lt_one_iff.mp hlt
    omega
  rw [hhertz, hfrequency, Number.value, hmantissa]
  push_cast
  rfl

/-! ### Whole frequencies -/

/-- Two numbers that differ by more than a factor. -/
def Apart (t x y : ℝ) : Prop := x * (1 + t) ≤ y ∨ y * (1 + t) ≤ x

/-- Whether all whole numbers differ from a pitch by a factor of `1 + 1 / scale`. The pitch is
`e` parts of a semitone above 440 Hz, and it is enough to look at the whole numbers on either side
of it. -/
def isApart (parts scale : Nat) (e : Int) : Bool :=
  let degree := 12 * parts
  let up := 2 ^ e.toNat
  let down := 2 ^ (-e).toNat
  let below := root degree (440 ^ degree * up / down)
  decide ((below * (scale + 1)) ^ degree * down ≤ (440 * scale) ^ degree * up) &&
    decide ((440 * (scale + 1)) ^ degree * up ≤ ((below + 1) * scale) ^ degree * down)

theorem apart_of_isApart {parts scale : Nat} (hparts : 0 < parts) (hscale : 0 < scale) {e : ℤ}
    (h : isApart parts scale e = true) (f : Nat) :
    Apart (1 / scale) f (frequency (e / parts)) := by
  rw [isApart, Bool.and_eq_true, decide_eq_true_eq, decide_eq_true_eq] at h
  set degree := 12 * parts with hdegree
  set below := root degree (440 ^ degree * 2 ^ e.toNat / 2 ^ (-e).toNat)
  obtain ⟨hlow, hhigh⟩ := h
  have hdegree' : degree ≠ 0 := by omega
  have hscale' : (0 : ℝ) < scale := by exact_mod_cast hscale
  have hpos := frequency_pos (e / parts)
  set x := frequency (e / parts)
  have hdown : (0 : ℝ) < (2 ^ (-e).toNat : Nat) := by exact_mod_cast Nat.two_pow_pos _
  have hpower : x ^ degree * (2 ^ (-e).toNat : Nat) = 440 ^ degree * (2 ^ e.toNat : Nat) := by
    have htwo : (2 : ℝ) ^ e = (2 ^ e.toNat : Nat) / (2 ^ (-e).toNat : Nat) := by
      have hrat := congrArg (Rat.cast (K := ℝ)) (two_zpow_eq e)
      push_cast at hrat ⊢
      exact hrat
    rw [frequency_pow hparts, htwo, mul_assoc, div_mul_cancel₀ _ hdown.ne']
  have hbelow : (below * (scale + 1) : ℝ) ≤ x * scale := by
    refine (pow_le_pow_iff_left₀ (by positivity) (by positivity) hdegree').mp ?_
    refine le_of_mul_le_mul_right ?_ hdown
    rw [mul_pow x, mul_right_comm, hpower, mul_right_comm, ← mul_pow]
    exact_mod_cast hlow
  have habove : x * (scale + 1) ≤ (below + 1) * scale := by
    refine (pow_le_pow_iff_left₀ (by positivity) (by positivity) hdegree').mp ?_
    refine le_of_mul_le_mul_right ?_ hdown
    rw [mul_pow x, mul_right_comm, hpower, mul_right_comm, ← mul_pow]
    exact_mod_cast hhigh
  have hfactor (y : ℝ) : y * (1 + 1 / scale) = y * (scale + 1) / scale := by
    field_simp
  rcases Nat.lt_or_ge below f with hmore | hless
  · right
    rw [hfactor]
    calc x * (scale + 1) / scale ≤ below + 1 := (div_le_iff₀ hscale').mpr habove
      _ ≤ f := by exact_mod_cast hmore
  · left
    rw [hfactor, div_le_iff₀ hscale']
    calc (f : ℝ) * (scale + 1) ≤ below * (scale + 1) :=
          mul_le_mul_of_nonneg_right (by exact_mod_cast hless) (by positivity)
      _ ≤ x * scale := hbelow

/-- No whole frequency is half-way between two pitches. -/
theorem halfway_apart {k : ℤ} (hlow : -106 ≤ k) (hhigh : k ≤ 66) {f : Nat} (hf : 0 < f) :
    position f + 6 / 10 ^ 5 ≤ k + 1 / 2 ∨ k + 1 / 2 + 6 / 10 ^ 5 ≤ position f := by
  have hall : ∀ j < 173, isApart 2 (10 ^ 5) (2 * ((j : Nat) - 106 : ℤ) + 1) = true := by
    decide +kernel
  have hk := hall (k + 106).toNat (by omega)
  rw [Int.toNat_of_nonneg (by omega), add_sub_cancel_right] at hk
  have hapart := apart_of_isApart two_pos (by decide) hk f
  have hhalf : ((2 * k + 1 : ℤ) / (2 : Nat) : ℝ) = k + 1 / 2 := by
    push_cast
    ring
  have hf' : (0 : ℝ) < f := by exact_mod_cast hf
  have hplace := position_frequency (k + 1 / 2)
  rw [hhalf] at hapart
  refine hapart.imp (fun h => ?_) fun h => ?_
  · have hadd := position_add_le hf' (by positivity) (by norm_num) h
    push_cast at hadd
    linarith
  · have hadd := position_add_le (frequency_pos _) (by positivity) (by norm_num) h
    push_cast at hadd
    linarith

/-- **A whole frequency has a nearest pitch**, and no other is nearly as close. -/
theorem exists_nearest {f : Nat} (hpos : 1 ≤ f) (hle : f ≤ 20000) :
    ∃ s : ℤ, -105 ≤ s ∧ s ≤ 66 ∧ |position f - s| ≤ 1 / 2 - 6 / 10 ^ 5 := by
  have hf : (1 : ℝ) ≤ f := by exact_mod_cast hpos
  have hf' : (f : ℝ) ≤ 20000 := by exact_mod_cast hle
  have hlowest : frequency ((-211 : ℤ) / (2 : Nat)) < 1 := by
    refine (pow_lt_one_iff_of_nonneg (frequency_pos _).le (by decide : 12 * 2 ≠ 0)).mp ?_
    rw [frequency_pow two_pos]
    norm_num
  have hhighest : 20000 < frequency ((133 : ℤ) / (2 : Nat)) := by
    refine (pow_lt_pow_iff_left₀ (by norm_num) (frequency_pos _).le (by decide : 12 * 2 ≠ 0)).mp ?_
    rw [frequency_pow two_pos]
    norm_num
  have hlow := position_lt_position (frequency_pos _) (hlowest.trans_le hf)
  have hhigh := position_lt_position (by linarith) (hf'.trans_lt hhighest)
  rw [position_frequency] at hlow hhigh
  have hround := abs_le.mp (abs_sub_round (position f))
  set s := round (position f)
  have hs : -105 ≤ s := by
    have hreal : ((-106 : ℤ) : ℝ) < s := by
      push_cast at hlow ⊢
      linarith
    have := Int.cast_lt.mp hreal
    omega
  have hs' : s ≤ 66 := by
    have hreal : (s : ℝ) < (67 : ℤ) := by
      push_cast at hhigh ⊢
      linarith
    have := Int.cast_lt.mp hreal
    omega
  refine ⟨s, hs, hs', abs_le.mpr ⟨?_, ?_⟩⟩
  · rcases halfway_apart (k := s - 1) (by omega) (by omega) hpos with h | h
    · push_cast at h
      linarith
    · push_cast at h
      linarith
  · rcases halfway_apart (k := s) (by omega) hs' hpos with h | h
    · linarith
    · linarith

/-! ### Whole parts of pitches -/

section WholePart

variable {s : ℤ}

theorem one_le_floor_frequency (hlow : -105 ≤ s) : 1 ≤ ⌊frequency s⌋₊ := by
  have hone : 1 ≤ frequency ((-105 : ℤ) / (1 : Nat)) := by
    refine (one_le_pow_iff_of_nonneg (frequency_pos _).le (by decide : 12 * 1 ≠ 0)).mp ?_
    rw [frequency_pow one_pos]
    norm_num
  refine Nat.le_floor (Nat.cast_one (R := ℝ) ▸ hone.trans (frequency_mono ?_))
  rw [Nat.cast_one, div_one]
  exact_mod_cast hlow

theorem floor_frequency_le (hhigh : s ≤ 66) : ⌊frequency s⌋₊ ≤ 20000 := by
  have hle : frequency ((66 : ℤ) / (1 : Nat)) ≤ (20000 : Nat) := by
    refine (pow_le_pow_iff_left₀ (frequency_pos _).le (by norm_num) (by decide : 12 * 1 ≠ 0)).mp ?_
    rw [frequency_pow one_pos]
    norm_num
  refine Nat.floor_le_of_le ((frequency_mono ?_).trans hle)
  rw [Nat.cast_one, div_one]
  exact_mod_cast hhigh

/-- **The whole part of a pitch does not depend on its last bits.** -/
theorem floor_eq_floor_frequency (hlow : -105 ≤ s) (hhigh : s ≤ 66) {x : ℝ}
    (hx : |x - frequency s| ≤ frequency s / 10 ^ 7) (hexact : 12 ∣ s → x = frequency s) :
    ⌊x⌋₊ = ⌊frequency s⌋₊ := by
  by_cases hdvd : 12 ∣ s
  · rw [hexact hdvd]
  have hall : ∀ j < 172, 12 ∣ ((j : Nat) - 105 : ℤ) ∨ isApart 1 (10 ^ 6) ((j : Nat) - 105) = true := by
    decide +kernel
  have hs := hall (s + 105).toNat (by omega)
  rw [Int.toNat_of_nonneg (by omega), add_sub_cancel_right] at hs
  have hapart (f : Nat) := apart_of_isApart one_pos (by decide) (hs.resolve_left hdvd) f
  simp only [Nat.cast_one, div_one] at hapart
  have hpos := frequency_pos s
  have hfloor := Nat.floor_le hpos.le
  have hfloor' := Nat.lt_floor_add_one (frequency s)
  have hx := abs_le.mp hx
  -- The whole numbers on either side of the pitch are farther away than `x` is.
  have hbelow : ⌊frequency s⌋₊ * (1 + 1 / 10 ^ 6 : ℝ) ≤ frequency s := by
    rcases hapart ⌊frequency s⌋₊ with h | h
    · exact_mod_cast h
    · push_cast at h
      linarith
  have habove : frequency s * (1 + 1 / 10 ^ 6) ≤ (⌊frequency s⌋₊ + 1 : Nat) := by
    rcases hapart (⌊frequency s⌋₊ + 1) with h | h
    · push_cast at h
      linarith
    · exact_mod_cast h
  push_cast at habove
  refine (Nat.floor_eq_iff (by linarith)).mpr ⟨by linarith, by linarith⟩

end WholePart

end CarrierLink.Pitch
