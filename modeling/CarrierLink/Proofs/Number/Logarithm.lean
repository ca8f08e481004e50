import CarrierLink.Number.Logarithm
import CarrierLink.Proofs.Number.Value
import Mathlib.Analysis.Complex.ExponentialBounds
import Mathlib.Analysis.SpecialFunctions.Log.Base

/-!
# How far off a binary logarithm is

The places of a logarithm come from squares that are cut down, and a cut makes a logarithm
smaller. What one square loses is bounded by `CarrierLink.Binary.logb_cut_mem`. A place stands for
twice as much as the one after it, so what is lost on the way doubles with every place as the
logarithm itself does, and all the cuts together count less than two units of the last place
(`CarrierLink.Binary.logPlaces_mem`, by induction on the places).

After the one rounding at the end the logarithm of a number is off by the last bits of a double
(`CarrierLink.Binary.log2_near`).
-/

namespace CarrierLink.Binary

-- A power is the one of the core library, whatever else is imported.
attribute [local instance (high)] instPowNat

/-! ### Cuts -/

/-- A factor next to one counts for little in a logarithm. -/
theorem logb_le_of_le_mul {x y t : ℝ} (hx : 0 < x) (hy : 0 < y) (ht : 0 ≤ t)
    (h : y ≤ x * (1 + t)) : Real.logb 2 y ≤ Real.logb 2 x + 3 / 2 * t := by
  have hratio : y / x - 1 ≤ t := by
    rw [sub_le_iff_le_add, div_le_iff₀ hx]
    linarith
  have htwo := Real.log_two_gt_d9
  have hdiff : Real.logb 2 y - Real.logb 2 x ≤ 3 / 2 * t := by
    rw [← Real.logb_div hy.ne' hx.ne', Real.logb, div_le_iff₀ (by linarith)]
    calc Real.log (y / x) ≤ y / x - 1 := Real.log_le_sub_one_of_pos (div_pos hy hx)
      _ ≤ t * 1 := by linarith
      _ ≤ t * (3 / 2 * Real.log 2) := mul_le_mul_of_nonneg_left (by linarith) ht
      _ = 3 / 2 * t * Real.log 2 := by ring
  linarith

theorem abs_logb_sub_le {x y t : ℝ} (hx : 0 < x) (hy : 0 < y) (ht : 0 ≤ t) (ht' : t ≤ 1 / 2)
    (h : |y - x| ≤ x * t) : |Real.logb 2 y - Real.logb 2 x| ≤ 3 * t := by
  obtain ⟨hlow, hhigh⟩ := abs_le.mp h
  have habove := logb_le_of_le_mul hx hy ht (by linarith)
  have hbelow := logb_le_of_le_mul (t := 2 * t) hy hx (by linarith) (by nlinarith)
  exact abs_le.mpr ⟨by linarith, by linarith⟩

/-- But it does count. -/
theorem logb_add_le_of_mul_le {x y t : ℝ} (hx : 0 < x) (ht : 0 ≤ t) (ht' : t ≤ 1)
    (h : x * (1 + t) ≤ y) : Real.logb 2 x + t / 2 ≤ Real.logb 2 y := by
  have hfactor : t / 2 ≤ Real.log (1 + t) := by
    have hinv := Real.one_sub_inv_le_log_of_pos (by linarith : 0 < 1 + t)
    have hhalf : (1 + t)⁻¹ ≤ 1 - t / 2 := by
      rw [inv_le_iff_one_le_mul₀ (by linarith)]
      nlinarith
    linarith
  have htwo : Real.log 2 ≤ 1 := by linarith [Real.log_two_lt_d9]
  have hlog : Real.log (1 + t) ≤ Real.logb 2 (1 + t) := by
    rw [Real.logb, le_div_iff₀ (Real.log_pos one_lt_two)]
    exact mul_le_of_le_one_right (by linarith) htwo
  calc Real.logb 2 x + t / 2 ≤ Real.logb 2 x + Real.logb 2 (1 + t) := by linarith
    _ = Real.logb 2 (x * (1 + t)) := (Real.logb_mul hx.ne' (by linarith)).symm
    _ ≤ Real.logb 2 y := Real.logb_le_logb_of_le one_lt_two (mul_pos hx (by linarith)) h

/-- **A cut counts for little in a logarithm.** -/
theorem logb_cut_mem {bits z : Nat} {x : ℝ} (hz : 2 ^ bits ≤ z) (hlow : (z / 2 ^ bits : ℝ) ≤ x)
    (hhigh : x < (z + 1) / 2 ^ bits) :
    Real.logb 2 (z / 2 ^ bits) ≤ Real.logb 2 x ∧
      Real.logb 2 x ≤ Real.logb 2 (z / 2 ^ bits) + 3 / 2 / 2 ^ bits := by
  have hunit : (0 : ℝ) < 2 ^ bits := by positivity
  have hone : (1 : ℝ) ≤ z / 2 ^ bits := (one_le_div hunit).mpr (by exact_mod_cast hz)
  set y : ℝ := z / 2 ^ bits with hy
  refine ⟨Real.logb_le_logb_of_le one_lt_two (by linarith) hlow, ?_⟩
  have hfactor : x ≤ y * (1 + 1 / 2 ^ bits) := by
    have hscaled : 1 / 2 ^ bits ≤ y * (1 / 2 ^ bits) := le_mul_of_one_le_left (by positivity) hone
    rw [add_div, ← hy] at hhigh
    linarith
  have hlog := logb_le_of_le_mul (by linarith) (by linarith) (by positivity) hfactor
  rwa [mul_one_div] at hlog

/-- The whole part of a quotient, as a cut at some binary places. -/
theorem div_two_pow_mem (n k bits : Nat) :
    ((n / 2 ^ k : Nat) / 2 ^ bits : ℝ) ≤ n / 2 ^ (k + bits) ∧
      (n / 2 ^ (k + bits) : ℝ) < ((n / 2 ^ k : Nat) + 1) / 2 ^ bits := by
  have hsplit : (n / 2 ^ (k + bits) : ℝ) = (n / (2 ^ k : Nat) : ℝ) / 2 ^ bits := by
    rw [pow_add, div_div, Nat.cast_pow, Nat.cast_ofNat]
  rw [hsplit]
  constructor
  · exact div_le_div_of_nonneg_right Nat.cast_div_le (by positivity)
  · refine div_lt_div_of_pos_right ?_ (by positivity)
    rw [← Nat.floor_div_eq_div (K := ℝ)]
    exact Nat.lt_floor_add_one _

/-! ### Binary places -/

variable {bits y : Nat}

/-- **One place**: it is one if the square reaches two, and what goes on is the square, halved in
that case, cut down to the places kept. -/
theorem logPlaces_succ (places : Nat) (hlow : 2 ^ bits ≤ y) (hhigh : y < 2 ^ (bits + 1)) :
    ∃ place z : Nat, logPlaces bits (places + 1) y = 2 ^ places * place + logPlaces bits places z ∧
      2 ^ bits ≤ z ∧ z < 2 ^ (bits + 1) ∧
      (z / 2 ^ bits : ℝ) ≤ (y / 2 ^ bits) ^ 2 / 2 ^ place ∧
      ((y / 2 ^ bits) ^ 2 / 2 ^ place : ℝ) < (z + 1) / 2 ^ bits := by
  have hunit : 0 < 2 ^ bits := Nat.two_pow_pos bits
  have hcut (place : Nat) : ((y / 2 ^ bits) ^ 2 / 2 ^ place : ℝ) =
      (y * y : Nat) / 2 ^ (bits + place + bits) := by
    push_cast
    field_simp
    ring
  rcases Nat.lt_or_ge (y * y / 2 ^ bits) (2 ^ (bits + 1)) with hless | hmore
  · refine ⟨0, y * y / 2 ^ bits, by simp [logPlaces, hless], ?_, hless, ?_⟩
    · exact (Nat.le_div_iff_mul_le hunit).mpr (Nat.mul_le_mul hlow hlow)
    · rw [hcut]
      exact div_two_pow_mem _ _ _
  · have hhalf : y * y / 2 ^ bits / 2 = y * y / 2 ^ (bits + 1) := by
      rw [Nat.div_div_eq_div_mul, Nat.pow_succ]
    refine ⟨1, y * y / 2 ^ (bits + 1), ?_, ?_, ?_, ?_⟩
    · rw [logPlaces, if_neg (Nat.not_lt.mpr hmore), hhalf, Nat.mul_one]
    · rw [← hhalf]
      rw [Nat.pow_succ] at hmore
      omega
    · exact Nat.div_lt_of_lt_mul (Nat.mul_lt_mul'' hhigh hhigh)
    · rw [hcut]
      exact div_two_pow_mem _ _ _

/-- **The places of a logarithm** fall short of it, but not by much: by a unit of the last of them
for what comes after it, and by what the cuts count, which doubles with every place. -/
theorem logPlaces_mem (places : Nat) (hlow : 2 ^ bits ≤ y) (hhigh : y < 2 ^ (bits + 1)) :
    (logPlaces bits places y : ℝ) ≤ 2 ^ places * Real.logb 2 (y / 2 ^ bits) ∧
      2 ^ places * Real.logb 2 (y / 2 ^ bits) ≤
        logPlaces bits places y + 1 + (2 ^ places - 1) * (3 / 2 / 2 ^ bits) := by
  have hunit : (0 : ℝ) < 2 ^ bits := by positivity
  induction places generalizing y with
  | zero =>
    have hone : (1 : ℝ) ≤ y / 2 ^ bits := (one_le_div hunit).mpr (by exact_mod_cast hlow)
    have htwo : (y / 2 ^ bits : ℝ) ≤ 2 := by
      rw [div_le_iff₀ hunit, ← pow_succ']
      exact_mod_cast hhigh.le
    have hnonneg := Real.logb_nonneg one_lt_two hone
    have hle := Real.logb_le_logb_of_le one_lt_two (by linarith) htwo
    rw [Real.logb_self_eq_one one_lt_two] at hle
    constructor <;> simp [logPlaces] <;> linarith
  | succ places ih =>
    obtain ⟨place, z, hplaces, hz, hz', hbelow, habove⟩ := logPlaces_succ places hlow hhigh
    obtain ⟨ihlow, ihhigh⟩ := ih hz hz'
    obtain ⟨hcutlow, hcuthigh⟩ := logb_cut_mem hz hbelow habove
    have hsquare : Real.logb 2 ((y / 2 ^ bits) ^ 2 / 2 ^ place) =
        2 * Real.logb 2 (y / 2 ^ bits) - place := by
      have hy : (0 : ℝ) < y := by exact_mod_cast (Nat.two_pow_pos bits).trans_le hlow
      rw [Real.logb_div (by positivity) (by positivity), Real.logb_pow, Real.logb_pow,
        Real.logb_self_eq_one one_lt_two, mul_one, Nat.cast_ofNat]
    rw [hsquare] at hcutlow hcuthigh
    have hpower : (0 : ℝ) ≤ 2 ^ places := by positivity
    have hlow' := mul_le_mul_of_nonneg_left hcutlow hpower
    have hhigh' := mul_le_mul_of_nonneg_left hcuthigh hpower
    rw [hplaces, pow_succ]
    push_cast
    constructor <;> linarith

/-! ### Logarithms -/

namespace Number

variable {x : Number} {v : ℚ} {u : ℝ}

/-- What one rounding costs, in real numbers. -/
theorem Rounds.abs_cast_sub_le (h : x.Rounds v) :
    |(x.value : ℝ) - v| ≤ (|(v : ℝ)| + 1 / 2 ^ 100) / 2 ^ 53 := by
  have herror := (Rat.cast_le (K := ℝ)).mpr h.abs_value_sub_le
  push_cast at herror
  exact herror

/-- A rounding hardly adds to a small error. -/
theorem near_of_rounds (hx : |v| ≤ 2 ^ 200 → x.Rounds v) (hv : |(v : ℝ) - u| ≤ 1 / 2 ^ 58)
    (hu : |u| ≤ 2 ^ 100) : x.isFinite = true ∧ |(x.value : ℝ) - u| ≤ (1 + |u|) / 2 ^ 50 := by
  have hsize : |(v : ℝ)| ≤ |u| + 1 / 2 ^ 58 := by
    have hsum := abs_add_le ((v : ℝ) - u) u
    rw [sub_add_cancel] at hsum
    linarith
  have hle : |v| ≤ 2 ^ 200 := by
    have hreal : |(v : ℝ)| ≤ 2 ^ 200 := hsize.trans (by norm_num at hu ⊢; linarith)
    exact_mod_cast hreal
  have hrounds := hx hle
  have herror := hrounds.abs_cast_sub_le
  have hsum := abs_add_le ((x.value : ℝ) - v) (v - u)
  rw [sub_add_sub_cancel] at hsum
  have hnonneg := abs_nonneg u
  refine ⟨hrounds.isFinite, ?_⟩
  norm_num at herror hv hsize ⊢
  linarith

end Number

/-- The logarithm of a positive number is the whole number that it starts with and the logarithm
of a factor between one and two. -/
theorem logb_mantissa {mantissa : Nat} (hpos : 0 < mantissa) (exponent : ℤ) :
    Real.logb 2 ((mantissa * 2 ^ exponent : ℚ) : ℝ) =
      (Nat.log2 mantissa + exponent : ℤ) + Real.logb 2 (mantissa / 2 ^ Nat.log2 mantissa) := by
  have hmantissa : (0 : ℝ) < mantissa := by exact_mod_cast hpos
  push_cast
  rw [Real.logb_mul (by positivity) (by positivity), ← Real.rpow_intCast,
    Real.logb_rpow two_pos (by norm_num), Real.logb_div (by positivity) (by positivity),
    Real.logb_pow, Real.logb_self_eq_one one_lt_two]
  ring

/-- The places of a mantissa, brought to the bits that the squares keep. -/
theorem logPlaces_mantissa_mem {mantissa : Nat} (hpos : 0 < mantissa) :
    |(logPlaces logBits logBits (mantissa * 2 ^ logBits / 2 ^ Nat.log2 mantissa) + 1 / 2 : ℝ) /
        2 ^ logBits - Real.logb 2 (mantissa / 2 ^ Nat.log2 mantissa)| ≤ 4 / 2 ^ logBits := by
  set power := Nat.log2 mantissa with hpower
  set y := mantissa * 2 ^ logBits / 2 ^ power with hy
  have hunit : (0 : ℝ) < 2 ^ logBits := by positivity
  have hlow : 2 ^ logBits ≤ y := by
    rw [hy, Nat.le_div_iff_mul_le (Nat.two_pow_pos _), Nat.mul_comm]
    exact Nat.mul_le_mul_right _ (Nat.log2_self_le hpos.ne')
  have hhigh : y < 2 ^ (logBits + 1) := by
    rw [hy, Nat.div_lt_iff_lt_mul (Nat.two_pow_pos _), Nat.pow_succ, Nat.mul_assoc, Nat.mul_comm,
      ← Nat.pow_succ']
    exact (Nat.mul_lt_mul_left (Nat.two_pow_pos _)).mpr Nat.lt_log2_self
  have hcut := div_two_pow_mem (mantissa * 2 ^ logBits) power logBits
  have hvalue : ((mantissa * 2 ^ logBits : Nat) / 2 ^ (power + logBits) : ℝ) =
      mantissa / 2 ^ power := by
    push_cast
    rw [pow_add, mul_div_mul_right _ _ hunit.ne']
  rw [hvalue, ← hy] at hcut
  obtain ⟨hbelow, habove⟩ := logb_cut_mem hlow hcut.1 hcut.2
  obtain ⟨hplaceslow, hplaceshigh⟩ := logPlaces_mem logBits hlow hhigh
  have hcuts : ((2 : ℝ) ^ logBits - 1) * (3 / 2 / 2 ^ logBits) ≤ 3 / 2 := by
    rw [mul_div_assoc', div_le_iff₀ hunit]
    linarith
  have hcut' := mul_le_mul_of_nonneg_left habove hunit.le
  rw [mul_add, mul_div_cancel₀ _ hunit.ne'] at hcut'
  have hbelow' := mul_le_mul_of_nonneg_left hbelow hunit.le
  have hsplit : (logPlaces logBits logBits y + 1 / 2 : ℝ) / 2 ^ logBits -
      Real.logb 2 (mantissa / 2 ^ power) =
        (logPlaces logBits logBits y + 1 / 2 -
          2 ^ logBits * Real.logb 2 (mantissa / 2 ^ power)) / 2 ^ logBits := by
    rw [sub_div, mul_div_cancel_left₀ _ hunit.ne']
  rw [hsplit, abs_div, abs_of_pos hunit]
  refine div_le_div_of_nonneg_right (abs_le.mpr ⟨?_, ?_⟩) hunit.le <;> linarith

/-- **A binary logarithm is right to the last bits of a double.** -/
theorem log2_near {x : Number} {v : ℚ} (hx : x.Is false v) (hpos : 0 < v)
    (hlog : |Real.logb 2 v| ≤ 2 ^ 100) :
    (double.log2 x).isFinite = true ∧
      |((double.log2 x).value : ℝ) - Real.logb 2 v| ≤ (1 + |Real.logb 2 v|) / 2 ^ 50 := by
  obtain ⟨mantissa, exponent, rfl, rfl⟩ := hx
  have hmantissa : 0 < mantissa := by
    refine Nat.pos_of_ne_zero ?_
    rintro rfl
    simp at hpos
  have hsplit := logb_mantissa hmantissa exponent
  set power := Nat.log2 mantissa with hpower
  by_cases hexact : mantissa = 2 ^ power
  · have hwhole : double.log2 (.finite false mantissa exponent) = double.ofInt (power + exponent) := by
      simp [Format.log2, hmantissa.ne', ← hpower, ← hexact]
    rw [hwhole]
    refine Number.near_of_rounds (fun hle => rounds_ofInt _ hle) ?_ hlog
    rw [hsplit, hexact]
    norm_num
  · set places := logPlaces logBits logBits (mantissa * 2 ^ logBits / 2 ^ power) with hplaces
    set halves : ℤ := 2 * ((power + exponent) * 2 ^ logBits + places) + 1 with hhalves
    have hround : double.log2 (.finite false mantissa exponent) =
        double.round (halves < 0) halves.natAbs (2 ^ (logBits + 1)) := by
      simp [Format.log2, hmantissa.ne', ← hpower, hexact, ← hplaces, ← hhalves]
    have hvalue : ((halves / (2 ^ (logBits + 1) : Nat) : ℚ) : ℝ) =
        (power + exponent : ℤ) + (places + 1 / 2) / 2 ^ logBits := by
      rw [hhalves, pow_succ]
      push_cast
      field_simp
      ring
    rw [hround]
    refine Number.near_of_rounds (fun hle => rounds_div _ (Nat.two_pow_pos _) hle) ?_ hlog
    have hnear := logPlaces_mantissa_mem hmantissa
    rw [← hpower, ← hplaces] at hnear
    rw [hvalue, hsplit, add_sub_add_left_eq_sub]
    exact hnear.trans (by norm_num [logBits])

end CarrierLink.Binary
