import CarrierLink.Number.Binary
import Mathlib.Algebra.Order.Floor.Semifield
import Mathlib.Data.Int.Log
import Mathlib.Data.Rat.Floor
import Mathlib.Tactic.Linarith
import Mathlib.Tactic.Ring

/-!
# The rounding of a binary format

Numbers are rounded on whole numbers: a quotient comes as a numerator and a denominator, and
the grid of the format around it is found from their sizes. This module says what that is on
rational numbers, and no proof that uses it has to look at numerators again.

* `CarrierLink.Binary.Number.Is`: the value of a finite number.
* `CarrierLink.Binary.Format.rounded`: the value that a rational number is rounded to.
  It depends on the number only, not on how it is written as a quotient.
* `CarrierLink.Binary.Format.overflow`: the least number that the format has no room for.
* `CarrierLink.Binary.Format.round_is_of_lt`, `CarrierLink.Binary.Format.scale_is_of_lt`:
  rounding a quotient and scaling a number give the numbers with the rounded values, below
  that. From there on they give an infinity.

Rounding is monotone (`CarrierLink.Binary.Format.rounded_mono`), leaves the numbers of the
format as they are (`CarrierLink.Binary.Format.rounded_of_lt`) and is off by at most half a
unit of the grid (`CarrierLink.Binary.Format.abs_rounded_sub_le`).
-/

namespace CarrierLink.Binary

-- A power is the one of the core library, whatever else is imported.
attribute [local instance (high)] instPowNat

/-! ### The nearest whole number -/

/-- The nearest whole number depends on the quotient only. -/
theorem roundDiv_mul_right {c : Nat} (hc : 0 < c) (n d : Nat) :
    roundDiv (n * c) (d * c) = roundDiv n d := by
  have hquotient : n * c / (d * c) = n / d := Nat.mul_div_mul_right n d hc
  have hremainder : 2 * (n * c % (d * c)) = 2 * (n % d) * c := by
    rw [Nat.mul_mod_mul_right, Nat.mul_assoc]
  have hbelow : 2 * (n % d) * c < d * c ↔ 2 * (n % d) < d := Nat.mul_lt_mul_right hc
  have htie : 2 * (n % d) * c = d * c ↔ 2 * (n % d) = d := Nat.mul_left_inj (by omega)
  simp only [roundDiv, hquotient, hremainder, hbelow, beq_iff_eq, htie, Bool.or_eq_true,
    decide_eq_true_eq, Bool.and_eq_true]

theorem roundDiv_mul_self (q : Nat) {d : Nat} (hd : 0 < d) : roundDiv (q * d) d = q := by
  simp [roundDiv, Nat.mul_div_cancel q hd, hd]

/-- The nearest whole number is at most half a unit away. -/
theorem roundDiv_bounds (n : Nat) {d : Nat} (hd : 0 < d) :
    2 * n ≤ 2 * (d * roundDiv n d) + d ∧ 2 * (d * roundDiv n d) ≤ 2 * n + d := by
  have hsplit := Nat.div_add_mod n d
  have hlt := Nat.mod_lt n hd
  simp only [roundDiv, Bool.or_eq_true, decide_eq_true_eq, Bool.and_eq_true, beq_iff_eq]
  split
  · omega
  · rw [Nat.mul_add, Nat.mul_one]
    omega

theorem roundDiv_le_roundDiv_of_le {n m : Nat} (d : Nat) (h : n ≤ m) :
    roundDiv n d ≤ roundDiv m d := by
  have hquotient : n / d ≤ m / d := Nat.div_le_div_right h
  have hn := Nat.div_add_mod n d
  have hm := Nat.div_add_mod m d
  rcases Nat.lt_or_eq_of_le hquotient with hlt | heq
  · have hup : roundDiv n d ≤ n / d + 1 := by
      simp only [roundDiv]
      split <;> omega
    have hdown : m / d ≤ roundDiv m d := by
      simp only [roundDiv]
      split <;> omega
    omega
  · have hremainder : n % d ≤ m % d := by
      rw [heq] at hn
      omega
    simp only [roundDiv, heq, Bool.or_eq_true, decide_eq_true_eq, Bool.and_eq_true, beq_iff_eq]
    split <;> split <;> omega

/-- The nearest whole number of the smaller quotient is not the larger one. -/
theorem roundDiv_le_roundDiv {n d m c : Nat} (hd : 0 < d) (hc : 0 < c) (h : n * c ≤ m * d) :
    roundDiv n d ≤ roundDiv m c := by
  rw [← roundDiv_mul_right hc n d, ← roundDiv_mul_right hd m c, Nat.mul_comm c d]
  exact roundDiv_le_roundDiv_of_le _ h

/-- **The whole number nearest to a rational number**, a tie going to the even one; zero for a
negative number. -/
def nearestEven (x : ℚ) : Nat := roundDiv x.num.toNat x.den

theorem roundDiv_eq_nearestEven (n : Nat) {d : Nat} (hd : 0 < d) :
    roundDiv n d = nearestEven (n / d) := by
  have hd' : (d : ℚ) ≠ 0 := Nat.cast_ne_zero.mpr (by omega)
  have hcross : n * ((n : ℚ) / d).den = ((n : ℚ) / d).num.toNat * d := by
    have hnum : (((n : ℚ) / d).num.toNat : ℤ) = ((n : ℚ) / d).num :=
      Int.toNat_of_nonneg (Rat.num_nonneg.mpr (by positivity))
    have hvalue := Rat.num_div_den ((n : ℚ) / d)
    have hden : (((n : ℚ) / d).den : ℚ) ≠ 0 := Nat.cast_ne_zero.mpr (Rat.den_nz _)
    rw [div_eq_div_iff hden hd', ← hnum] at hvalue
    exact_mod_cast hvalue.symm
  exact le_antisymm (roundDiv_le_roundDiv hd (Rat.den_pos _) hcross.le)
    (roundDiv_le_roundDiv (Rat.den_pos _) hd hcross.ge)

theorem nearestEven_mono {x y : ℚ} (h : x ≤ y) : nearestEven x ≤ nearestEven y := by
  apply roundDiv_le_roundDiv (Rat.den_pos x) (Rat.den_pos y)
  have hcross := (Rat.le_iff x y).mp h
  rcases le_or_gt 0 x.num with hx | hx
  · have hy : 0 ≤ y.num := Rat.num_nonneg.mpr (le_trans (Rat.num_nonneg.mp hx) h)
    zify
    rwa [Int.toNat_of_nonneg hx, Int.toNat_of_nonneg hy]
  · rw [Int.toNat_of_nonpos hx.le, Nat.zero_mul]
    exact Nat.zero_le _

@[simp]
theorem nearestEven_natCast (k : Nat) : nearestEven k = k := by
  have hone := roundDiv_eq_nearestEven k Nat.one_pos
  rw [Nat.cast_one, div_one] at hone
  simpa using hone.symm.trans (by simpa using roundDiv_mul_self k Nat.one_pos)

@[simp]
theorem nearestEven_zero : nearestEven 0 = 0 := by decide

theorem abs_nearestEven_sub_le {x : ℚ} (hx : 0 ≤ x) : |(nearestEven x : ℚ) - x| ≤ 1 / 2 := by
  obtain ⟨hlow, hhigh⟩ := roundDiv_bounds x.num.toNat (Rat.den_pos x)
  have hden : (0 : ℚ) < x.den := Nat.cast_pos.mpr (Rat.den_pos x)
  have hnum : (x.num.toNat : ℚ) = x * x.den := by
    have hcast : ((x.num.toNat : ℤ) : ℚ) = x.num :=
      congrArg _ (Int.toNat_of_nonneg (Rat.num_nonneg.mpr hx))
    rw [Rat.mul_den_eq_num, ← hcast, Int.cast_natCast]
  have hlow' : 2 * (x * x.den) ≤ 2 * (x.den * nearestEven x) + x.den := by
    rw [← hnum]
    exact_mod_cast hlow
  have hhigh' : 2 * (x.den * nearestEven x) ≤ 2 * (x * x.den) + x.den := by
    rw [← hnum]
    exact_mod_cast hhigh
  rw [abs_le]
  constructor <;> nlinarith

/-! ### Powers of two -/

theorem natCast_zpow_eq {b : Nat} (hb : b ≠ 0) (e : ℤ) :
    (b : ℚ) ^ e = (b ^ e.toNat : Nat) / (b ^ (-e).toNat : Nat) := by
  have hsplit : e = e.toNat - ((-e).toNat : ℤ) := by omega
  conv_lhs => rw [hsplit]
  rw [zpow_sub₀ (Nat.cast_ne_zero.mpr hb), zpow_natCast, zpow_natCast]
  push_cast
  rfl

theorem two_zpow_eq (e : ℤ) : (2 : ℚ) ^ e = (2 ^ e.toNat : Nat) / (2 ^ (-e).toNat : Nat) :=
  natCast_zpow_eq two_ne_zero e

theorem natCast_mul_two_zpow (n k : Nat) : ((n * 2 ^ k : Nat) : ℚ) * 2 ^ (-(k : ℤ)) = n := by
  rw [zpow_neg, zpow_natCast, Nat.cast_mul, Nat.cast_pow, Nat.cast_ofNat,
    mul_inv_cancel_right₀ (by positivity)]

/-- A quotient by a power of two, on whole numbers. -/
theorem quotient_div_two_zpow (n d : Nat) (e : ℤ) :
    ((n * 2 ^ (-e).toNat : Nat) : ℚ) / (d * 2 ^ e.toNat : Nat) = n / d / 2 ^ e := by
  rw [two_zpow_eq e, Nat.cast_mul, Nat.cast_mul, mul_div_mul_comm, div_div_eq_mul_div,
    mul_div_assoc]

theorem log_eq_of_mem {x : ℚ} {k : ℤ} (hlow : 2 ^ k ≤ x) (hhigh : x < 2 ^ (k + 1)) :
    Int.log 2 x = k := by
  have hpos : 0 < x := lt_of_lt_of_le (zpow_pos two_pos k) hlow
  have hge : k ≤ Int.log 2 x := (Int.zpow_le_iff_le_log one_lt_two hpos).mp (by exact_mod_cast hlow)
  have hlt : Int.log 2 x < k + 1 :=
    (Int.lt_zpow_iff_log_lt one_lt_two hpos).mp (by exact_mod_cast hhigh)
  omega

/-- A power of two is compared with a quotient on whole numbers. -/
theorem mul_two_pow_le_iff (n : Nat) {d : Nat} (hd : 0 < d) (e : ℤ) :
    d * 2 ^ e.toNat ≤ n * 2 ^ (-e).toNat ↔ (2 : ℚ) ^ e ≤ n / d := by
  have hpos : (0 : ℚ) < (d * 2 ^ e.toNat : Nat) := by positivity
  have hpow : (0 : ℚ) < 2 ^ e := zpow_pos two_pos e
  rw [← one_le_div hpow, ← quotient_div_two_zpow, one_le_div hpos, Nat.cast_le]

/-- **The exponent of the greatest power of two below a quotient** is guessed from the sizes
of its numerator and denominator, and the guess is at most one too high. -/
theorem floorLog_eq_log {n d : Nat} (hn : 0 < n) (hd : 0 < d) :
    floorLog n d = Int.log 2 ((n : ℚ) / d) := by
  have hn' : (0 : ℚ) < n := Nat.cast_pos.mpr hn
  have hd' : (0 : ℚ) < d := Nat.cast_pos.mpr hd
  have hlow : (2 : ℚ) ^ ((Nat.log2 n : ℤ) - Nat.log2 d - 1) ≤ n / d := by
    have hnum : (2 : ℚ) ^ Nat.log2 n ≤ n := by exact_mod_cast Nat.log2_self_le (by omega)
    have hden : (d : ℚ) ≤ 2 ^ (Nat.log2 d + 1) := by exact_mod_cast Nat.lt_log2_self.le
    have hsplit : (Nat.log2 n : ℤ) - Nat.log2 d - 1 = Nat.log2 n - (Nat.log2 d + 1 : Nat) := by
      omega
    rw [hsplit, zpow_sub₀ two_ne_zero, zpow_natCast, zpow_natCast]
    gcongr
  have hhigh : (n : ℚ) / d < 2 ^ ((Nat.log2 n : ℤ) - Nat.log2 d + 1) := by
    have hnum : (n : ℚ) < 2 ^ (Nat.log2 n + 1) := by exact_mod_cast Nat.lt_log2_self
    have hden : (2 : ℚ) ^ Nat.log2 d ≤ d := by exact_mod_cast Nat.log2_self_le (by omega)
    have hsplit : (Nat.log2 n : ℤ) - Nat.log2 d + 1 = (Nat.log2 n + 1 : Nat) - Nat.log2 d := by
      omega
    rw [hsplit, zpow_sub₀ two_ne_zero, zpow_natCast, zpow_natCast]
    gcongr
  simp only [floorLog, mul_two_pow_le_iff n hd]
  split
  · next hguess => exact (log_eq_of_mem hguess hhigh).symm
  · next hguess =>
    rw [log_eq_of_mem hlow]
    rw [sub_add_cancel]
    exact not_le.mp hguess

/-! ### Numbers and their values -/

namespace Number

/-- **The value of a number**: it is `±v`. -/
def Is (x : Number) (negative : Bool) (v : ℚ) : Prop :=
  ∃ (mantissa : Nat) (exponent : ℤ),
    x = .finite negative mantissa exponent ∧ (mantissa : ℚ) * 2 ^ exponent = v

variable {x : Number} {negative : Bool} {v : ℚ}

theorem quotient_pos (mantissa : Nat) (exponent : ℤ) : 0 < (quotient mantissa exponent).2 :=
  Nat.two_pow_pos _

theorem quotient_eq (mantissa : Nat) (exponent : ℤ) :
    ((quotient mantissa exponent).1 : ℚ) / (quotient mantissa exponent).2 =
      mantissa * 2 ^ exponent := by
  have hdiv := quotient_div_two_zpow mantissa 1 (-exponent)
  rwa [neg_neg, Nat.one_mul, Nat.cast_one, div_one, zpow_neg, div_inv_eq_mul] at hdiv

theorem Is.isFinite (h : x.Is negative v) : x.isFinite = true := by
  obtain ⟨mantissa, exponent, rfl, -⟩ := h
  rfl

/-- Whatever is cut down is within the bounds. -/
theorem clamp_mem {least greatest : Nat} (h : least ≤ greatest) (x : Number) :
    least ≤ x.clamp least greatest ∧ x.clamp least greatest ≤ greatest := by
  rw [Number.clamp]
  split <;> omega

/-- A number that is cut down to a whole one. -/
theorem Is.clamp (h : x.Is false v) (least greatest : Nat) :
    x.clamp least greatest = max least (min ⌊v⌋₊ greatest) := by
  obtain ⟨mantissa, exponent, rfl, rfl⟩ := h
  rw [← quotient_eq, Nat.floor_div_eq_div]
  exact congrArg (fun n => max least (min n greatest)) (Int.toNat_natCast _)

end Number

/-! ### Rounding -/

namespace Format

/-- What a format needs so that rounding can be told by values: some bits, and some numbers
below the largest exponent. -/
structure Proper (f : Format) : Prop where
  precision_pos : 0 < f.precision
  leastExponent_lt : f.leastExponent < f.greatestExponent

theorem double_proper : double.Proper := ⟨by decide, by decide⟩

variable {f : Format}

/-- The exponent of the format's grid around a positive number. -/
def grid (f : Format) (x : ℚ) : ℤ := max f.leastExponent (Int.log 2 x + 1 - f.precision)

/-- **The value that a number which is not negative is rounded to**, whatever its size. -/
def rounded (f : Format) (x : ℚ) : ℚ := nearestEven (x / 2 ^ f.grid x) * 2 ^ f.grid x

@[simp]
theorem rounded_zero : f.rounded 0 = 0 := by simp [rounded]

theorem rounded_of_nonpos {x : ℚ} (hx : x ≤ 0) : f.rounded x = 0 := by
  have hquotient : x / 2 ^ f.grid x ≤ 0 := div_nonpos_of_nonpos_of_nonneg hx
    (zpow_nonneg two_pos.le _)
  have hzero := nearestEven_mono hquotient
  rw [nearestEven_zero, Nat.le_zero] at hzero
  rw [rounded, hzero, Nat.cast_zero, zero_mul]

theorem gridExponent_eq {n d : Nat} (hn : 0 < n) (hd : 0 < d) :
    f.gridExponent n d = f.grid (n / d) := by
  rw [gridExponent, grid, floorLog_eq_log hn hd]

theorem grid_mono {x y : ℚ} (hx : 0 < x) (h : x ≤ y) : f.grid x ≤ f.grid y := by
  have hlog : Int.log 2 x ≤ Int.log 2 y := Int.log_mono_right hx h
  simp only [grid]
  omega

/-- A number on its grid, or on a coarser one, is not changed. -/
theorem rounded_eq_self (k : Nat) {g : ℤ} (h : f.grid (k * 2 ^ g) ≤ g) :
    f.rounded (k * 2 ^ g) = k * 2 ^ g := by
  obtain ⟨c, hc⟩ := Int.eq_ofNat_of_zero_le (Int.sub_nonneg.mpr h)
  have hwhole : (k * 2 ^ g : ℚ) / 2 ^ f.grid (k * 2 ^ g) = (k * 2 ^ c : Nat) := by
    rw [mul_div_assoc, ← zpow_sub₀ two_ne_zero, hc, zpow_natCast]
    push_cast
    rfl
  rw [rounded, hwhole, nearestEven_natCast, ← hwhole, div_mul_cancel₀ _ (zpow_pos two_pos _).ne']

/-- The numbers of a format are not changed. -/
theorem rounded_of_lt {k : Nat} {g : ℤ} (hk : k < 2 ^ f.precision) (hg : f.leastExponent ≤ g) :
    f.rounded (k * 2 ^ g) = k * 2 ^ g := by
  rcases Nat.eq_zero_or_pos k with rfl | hpos
  · simp
  · apply rounded_eq_self
    have hunit : (0 : ℚ) < 2 ^ g := zpow_pos two_pos g
    have hvalue : (0 : ℚ) < k * 2 ^ g := mul_pos (Nat.cast_pos.mpr hpos) hunit
    have hbelow : (k * 2 ^ g : ℚ) < 2 ^ (f.precision + g) := by
      rw [zpow_add₀ two_ne_zero, zpow_natCast]
      exact mul_lt_mul_of_pos_right (by exact_mod_cast hk) hunit
    have hlog : Int.log 2 (k * 2 ^ g : ℚ) < f.precision + g :=
      (Int.lt_zpow_iff_log_lt one_lt_two hvalue).mp (by exact_mod_cast hbelow)
    rw [grid]
    omega

/-- **Rounding is off by at most half a unit of the grid.** -/
theorem abs_rounded_sub_le {x : ℚ} (hx : 0 ≤ x) : |f.rounded x - x| ≤ 2 ^ f.grid x / 2 := by
  have hunit : (0 : ℚ) < 2 ^ f.grid x := zpow_pos two_pos _
  have hsplit : f.rounded x - x = (nearestEven (x / 2 ^ f.grid x) - x / 2 ^ f.grid x) *
      2 ^ f.grid x := by
    rw [rounded, sub_mul, div_mul_cancel₀ _ hunit.ne']
  rw [hsplit, abs_mul, abs_of_pos hunit]
  linarith [mul_le_mul_of_nonneg_right (abs_nearestEven_sub_le (div_nonneg hx hunit.le)) hunit.le]

theorem rounded_le_of_le {x : ℚ} (k : Nat) (h : x ≤ k * 2 ^ f.grid x) :
    f.rounded x ≤ k * 2 ^ f.grid x := by
  have hunit : (0 : ℚ) < 2 ^ f.grid x := zpow_pos two_pos _
  have hnearest := nearestEven_mono ((div_le_iff₀ hunit).mpr h)
  rw [nearestEven_natCast] at hnearest
  rw [rounded]
  gcongr

theorem le_rounded_of_le {x : ℚ} (k : Nat) (h : k * 2 ^ f.grid x ≤ x) :
    k * 2 ^ f.grid x ≤ f.rounded x := by
  have hunit : (0 : ℚ) < 2 ^ f.grid x := zpow_pos two_pos _
  have hnearest := nearestEven_mono ((le_div_iff₀ hunit).mpr h)
  rw [nearestEven_natCast] at hnearest
  rw [rounded]
  gcongr

/-- What is less than half a unit below a number of the grid is not rounded below it. -/
theorem le_rounded_of_sub_lt {x : ℚ} (hx : 0 ≤ x) (k : Nat)
    (h : k * 2 ^ f.grid x - 2 ^ f.grid x / 2 < x) : k * 2 ^ f.grid x ≤ f.rounded x := by
  have hunit : (0 : ℚ) < 2 ^ f.grid x := zpow_pos two_pos _
  have herror := (abs_le.mp (abs_rounded_sub_le (f := f) hx)).1
  have hbelow : ((k : ℚ) - 1) * 2 ^ f.grid x < nearestEven (x / 2 ^ f.grid x) * 2 ^ f.grid x := by
    rw [← rounded]
    linarith
  have hlt : (k : ℚ) < nearestEven (x / 2 ^ f.grid x) + 1 := by
    linarith [lt_of_mul_lt_mul_right hbelow hunit.le]
  have hle : k ≤ nearestEven (x / 2 ^ f.grid x) := Nat.lt_succ_iff.mp (by exact_mod_cast hlt)
  rw [rounded]
  gcongr

/-- What is less than half the smallest positive number is rounded to zero. -/
theorem rounded_eq_zero {x : ℚ} (hx : 0 ≤ x) (h : x < 2 ^ (f.leastExponent - 1)) :
    f.rounded x = 0 := by
  have hunit : (0 : ℚ) < 2 ^ f.leastExponent := zpow_pos two_pos _
  have hcoarser : (2 : ℚ) ^ f.leastExponent ≤ 2 ^ f.grid x :=
    zpow_le_zpow_right₀ one_le_two (le_max_left _ _)
  rw [zpow_sub_one₀ two_ne_zero] at h
  have hsmall : x / 2 ^ f.grid x < 1 / 2 := by
    rw [div_lt_iff₀ (lt_of_lt_of_le hunit hcoarser)]
    linarith
  have herror := (abs_le.mp (abs_nearestEven_sub_le
    (div_nonneg hx (zpow_nonneg two_pos.le (f.grid x))))).2
  have hlt : (nearestEven (x / 2 ^ f.grid x) : ℚ) < 1 := by linarith
  have hzero : nearestEven (x / 2 ^ f.grid x) = 0 := Nat.lt_one_iff.mp (by exact_mod_cast hlt)
  rw [rounded, hzero, Nat.cast_zero, zero_mul]

/-- **Rounding is monotone**: on one grid the nearest whole number is, and between two numbers
on different grids lies the power of two at which the coarser one begins. -/
theorem rounded_mono (hf : f.Proper) {x y : ℚ} (hx : 0 < x) (h : x ≤ y) :
    f.rounded x ≤ f.rounded y := by
  have hprecision := hf.precision_pos
  rcases lt_or_eq_of_le (grid_mono (f := f) hx h) with hlt | heq
  · have hy : f.grid y = Int.log 2 y + 1 - f.precision := by
      simp only [grid] at hlt ⊢
      omega
    have hxlog : Int.log 2 x < Int.log 2 y := by
      simp only [grid] at hlt
      omega
    obtain ⟨c, hc⟩ : ∃ c : Nat, Int.log 2 y = c + f.grid x :=
      ⟨(Int.log 2 y - f.grid x).toNat, by omega⟩
    obtain ⟨p, hp⟩ : ∃ p : Nat, Int.log 2 y = p + f.grid y := ⟨f.precision - 1, by omega⟩
    calc f.rounded x ≤ (2 ^ c : Nat) * 2 ^ f.grid x := by
          apply rounded_le_of_le
          have hbelow := (Int.lt_zpow_iff_log_lt one_lt_two hx).mpr hxlog
          rw [hc, zpow_add₀ (by norm_num)] at hbelow
          exact_mod_cast hbelow.le
      _ = (2 ^ p : Nat) * 2 ^ f.grid y := by
          push_cast
          rw [← zpow_natCast, ← zpow_natCast, ← zpow_add₀ two_ne_zero,
            ← zpow_add₀ two_ne_zero, ← hc, ← hp]
      _ ≤ f.rounded y := by
          apply le_rounded_of_le
          have habove := Int.zpow_log_le_self (b := 2) one_lt_two (lt_of_lt_of_le hx h)
          rw [hp, zpow_add₀ (by norm_num)] at habove
          exact_mod_cast habove
  · rw [rounded, rounded, heq]
    have hunit : (0 : ℚ) < 2 ^ f.grid y := zpow_pos two_pos _
    have hnearest := nearestEven_mono (div_le_div_of_nonneg_right h hunit.le)
    gcongr

/-- Above the smallest normal number, rounding commutes with doubling. -/
theorem rounded_two_mul {x : ℚ} (hx : 0 < x)
    (h : f.leastExponent ≤ Int.log 2 x + 1 - f.precision) :
    f.rounded (2 * x) = 2 * f.rounded x := by
  have hlog : Int.log 2 (2 * x) = Int.log 2 x + 1 := by
    have hlow := Int.zpow_log_le_self (b := 2) one_lt_two hx
    have hhigh := Int.lt_zpow_succ_log_self (b := 2) one_lt_two x
    push_cast at hlow hhigh
    apply log_eq_of_mem <;> rw [zpow_add_one₀ two_ne_zero] <;> linarith
  have hgrid : f.grid (2 * x) = f.grid x + 1 := by
    simp only [grid, hlog]
    omega
  have hquotient : 2 * x / 2 ^ (f.grid x + 1) = x / 2 ^ f.grid x := by
    rw [zpow_add_one₀ two_ne_zero, mul_comm 2 x, mul_div_mul_right _ _ two_ne_zero]
  rw [rounded, hgrid, hquotient, rounded, zpow_add_one₀ two_ne_zero]
  ring

/-! ### Overflow -/

/-- The grid of the format around a normal number. -/
theorem grid_eq_of_mem {x : ℚ} {k : ℤ} (hlow : 2 ^ k ≤ x) (hhigh : x < 2 ^ (k + 1))
    (hk : f.leastExponent ≤ k + 1 - f.precision) : f.grid x = k + 1 - f.precision := by
  rw [grid, log_eq_of_mem hlow hhigh]
  exact max_eq_right hk

/-- **Where the format ends**: the least number that is rounded to more than its largest one.
It is half a unit below the next power of two. -/
def overflow (f : Format) : ℚ :=
  2 ^ (f.greatestExponent + f.precision) - 2 ^ (f.greatestExponent - 1)

theorem overflow_mem (hf : f.Proper) :
    2 ^ (f.greatestExponent + f.precision - 1) ≤ f.overflow ∧
      f.overflow < 2 ^ (f.greatestExponent + f.precision) := by
  have hprecision := hf.precision_pos
  have hunit : (0 : ℚ) < 2 ^ (f.greatestExponent - 1) := zpow_pos two_pos _
  have hcoarser : (2 : ℚ) ^ (f.greatestExponent - 1) ≤
      2 ^ (f.greatestExponent + f.precision - 1) := zpow_le_zpow_right₀ one_le_two (by omega)
  have hdouble : (2 : ℚ) ^ (f.greatestExponent + f.precision) =
      2 ^ (f.greatestExponent + f.precision - 1) * 2 := by
    rw [← zpow_add_one₀ two_ne_zero, sub_add_cancel]
  rw [overflow]
  constructor <;> linarith

/-- The grid of the largest numbers. -/
theorem grid_eq_greatestExponent (hf : f.Proper) {x : ℚ}
    (hlow : 2 ^ (f.greatestExponent + f.precision - 1) ≤ x)
    (hhigh : x < 2 ^ (f.greatestExponent + f.precision)) : f.grid x = f.greatestExponent := by
  have hexponents := hf.leastExponent_lt
  rw [grid_eq_of_mem hlow (by rwa [sub_add_cancel]) (by omega)]
  omega

/-- Half a unit below the next power of two is a tie, and the power is the even end. -/
theorem rounded_overflow (hf : f.Proper) :
    f.rounded f.overflow = 2 ^ (f.greatestExponent + f.precision) := by
  obtain ⟨hlow, hhigh⟩ := overflow_mem hf
  have htie : f.overflow / 2 ^ f.greatestExponent = ((2 * 2 ^ f.precision - 1 : Nat) : ℚ) / (2 : Nat) := by
    have hone : 1 ≤ 2 * 2 ^ f.precision := by
      have hpos := Nat.two_pow_pos f.precision
      omega
    have hpower : (2 : ℚ) ^ f.greatestExponent ≠ 0 := (zpow_pos two_pos _).ne'
    rw [overflow, zpow_add₀ two_ne_zero, zpow_sub_one₀ two_ne_zero, zpow_natCast]
    push_cast [hone]
    field_simp
  have hround : roundDiv (2 * 2 ^ f.precision - 1) 2 = 2 ^ f.precision := by
    obtain ⟨p, hp⟩ : ∃ p, f.precision = p + 1 :=
      ⟨f.precision - 1, by have hprecision := hf.precision_pos; omega⟩
    have hpos := Nat.two_pow_pos p
    rw [hp, Nat.pow_succ, roundDiv, if_neg]
    · omega
    · simp only [Bool.or_eq_true, decide_eq_true_eq, Bool.and_eq_true, beq_iff_eq]
      omega
  rw [rounded, grid_eq_greatestExponent hf hlow hhigh, htie,
    ← roundDiv_eq_nearestEven _ two_pos, hround, zpow_add₀ two_ne_zero, zpow_natCast, mul_comm]
  push_cast
  rfl

/-- **A number is rounded into the format exactly if it lies below its end.** -/
theorem rounded_lt_iff (hf : f.Proper) {x : ℚ} (hx : 0 < x) :
    f.rounded x < 2 ^ (f.greatestExponent + f.precision) ↔ x < f.overflow := by
  obtain ⟨hlow, hhigh⟩ := overflow_mem hf
  constructor
  · intro hlt
    by_contra hover
    have hle := rounded_mono hf (lt_of_lt_of_le (zpow_pos two_pos _) hlow) (not_lt.mp hover)
    rw [rounded_overflow hf] at hle
    exact absurd hlt (not_lt.mpr hle)
  · intro hlt
    rcases lt_or_ge x (2 ^ (f.greatestExponent + f.precision - 1)) with hsmall | hlarge
    · have hpower : f.rounded (2 ^ (f.greatestExponent + f.precision - 1)) =
          2 ^ (f.greatestExponent + f.precision - 1) := by
        have hprecision := hf.precision_pos
        have hexponents := hf.leastExponent_lt
        simpa using rounded_of_lt (f := f) (k := 1)
          (g := f.greatestExponent + f.precision - 1) (Nat.one_lt_two_pow (by omega)) (by omega)
      have hle := rounded_mono hf hx hsmall.le
      rw [hpower] at hle
      exact lt_of_le_of_lt hle (lt_of_le_of_lt hlow hhigh)
    · have hgrid := grid_eq_greatestExponent hf hlarge (lt_trans hlt hhigh)
      have herror := (abs_le.mp (abs_rounded_sub_le (f := f) hx.le)).2
      have hhalf : (2 : ℚ) ^ f.greatestExponent / 2 = 2 ^ (f.greatestExponent - 1) := by
        rw [zpow_sub_one₀ two_ne_zero, div_eq_mul_inv]
      rw [hgrid, hhalf] at herror
      rw [overflow] at hlt
      linarith

/-- A mantissa has no more bits than the format, up to a carry. -/
theorem mantissa_le (hf : f.Proper) (x : ℚ) :
    nearestEven (x / 2 ^ f.grid x) ≤ 2 ^ f.precision := by
  have hunit : (0 : ℚ) < 2 ^ f.grid x := zpow_pos two_pos _
  have hprecision := hf.precision_pos
  have hbelow : x < (2 ^ f.precision : Nat) * 2 ^ f.grid x := by
    have hlog := Int.lt_zpow_succ_log_self (b := 2) one_lt_two x
    push_cast at hlog ⊢
    rw [← zpow_natCast, ← zpow_add₀ two_ne_zero]
    refine lt_of_lt_of_le hlog (zpow_le_zpow_right₀ one_le_two ?_)
    rw [grid]
    omega
  have hbound : (nearestEven (x / 2 ^ f.grid x) : ℚ) * 2 ^ f.grid x ≤
      (2 ^ f.precision : Nat) * 2 ^ f.grid x := rounded_le_of_le _ hbelow.le
  exact_mod_cast le_of_mul_le_mul_right hbound hunit

/-- On the grid of a normal number the mantissa has all bits of the format. -/
theorem le_mantissa (hf : f.Proper) {x : ℚ} (hx : 0 < x) (hgrid : f.leastExponent < f.grid x) :
    2 ^ (f.precision - 1) ≤ nearestEven (x / 2 ^ f.grid x) := by
  have hunit : (0 : ℚ) < 2 ^ f.grid x := zpow_pos two_pos _
  have hprecision := hf.precision_pos
  have hsplit : Int.log 2 x = (f.precision - 1 : Nat) + f.grid x := by
    rw [grid] at hgrid ⊢
    omega
  have habove : ((2 ^ (f.precision - 1) : Nat) : ℚ) * 2 ^ f.grid x ≤ x := by
    have hlog := Int.zpow_log_le_self (b := 2) one_lt_two hx
    rw [hsplit, zpow_add₀ (by norm_num), zpow_natCast] at hlog
    exact_mod_cast hlog
  exact_mod_cast le_of_mul_le_mul_right (le_rounded_of_le _ habove) hunit

/-- What a quotient is rounded to, before it is asked whether that is too large: the carry of
a mantissa that is rounded up to the next power of two leaves the value as it is. -/
theorem exists_round_eq (hf : f.Proper) (negative : Bool) {n d : Nat} (hn : 0 < n) (hd : 0 < d) :
    ∃ (m : Nat) (e : ℤ), (m : ℚ) * 2 ^ e = f.rounded (n / d) ∧
      (e ≤ f.greatestExponent ↔ f.rounded (n / d) < 2 ^ (f.greatestExponent + f.precision)) ∧
      f.round negative n d =
        if e ≤ f.greatestExponent then .finite negative m e else .infinite negative := by
  have hpos : (0 : ℚ) < n / d := by positivity
  obtain ⟨p, hp⟩ : ∃ p, f.precision = p + 1 :=
    ⟨f.precision - 1, by have hprecision := hf.precision_pos; omega⟩
  have hmle := mantissa_le hf (n / d : ℚ)
  have hmge := le_mantissa hf hpos
  set e := f.grid (n / d) with he
  set m := nearestEven (n / d / 2 ^ e) with hm
  have hrounded : f.rounded (n / d) = m * 2 ^ e := rfl
  have hmantissa : roundDiv (n * 2 ^ (-e).toNat) (d * 2 ^ e.toNat) = m := by
    rw [roundDiv_eq_nearestEven _ (Nat.mul_pos hd (Nat.two_pow_pos _)), quotient_div_two_zpow]
  have hpower : (2 : ℚ) ^ (f.greatestExponent + f.precision) =
      (2 ^ f.precision : Nat) * 2 ^ f.greatestExponent := by
    rw [zpow_add₀ two_ne_zero, zpow_natCast, mul_comm]
    push_cast
    rfl
  simp only [round, if_neg hn.ne', gridExponent_eq hn hd, ← he, hmantissa]
  rw [hrounded, hpower]
  by_cases hcarry : m = 2 ^ f.precision
  · refine ⟨2 ^ (f.precision - 1), e + 1, ?_, ?_, by rw [if_pos hcarry]⟩
    · rw [hcarry, hp, zpow_add_one₀ two_ne_zero]
      push_cast
      ring
    · rw [hcarry, mul_lt_mul_iff_right₀ (by positivity), zpow_lt_zpow_iff_right₀ one_lt_two]
      omega
  · refine ⟨m, e, rfl, ?_, by rw [if_neg hcarry]⟩
    constructor
    · intro hle
      have hmlt : (m : ℚ) < (2 ^ f.precision : Nat) :=
        Nat.cast_lt.mpr (lt_of_le_of_ne hmle hcarry)
      calc (m : ℚ) * 2 ^ e < (2 ^ f.precision : Nat) * 2 ^ e :=
            mul_lt_mul_of_pos_right hmlt (zpow_pos two_pos e)
        _ ≤ (2 ^ f.precision : Nat) * 2 ^ f.greatestExponent :=
            mul_le_mul_of_nonneg_left (zpow_le_zpow_right₀ one_le_two hle) (Nat.cast_nonneg _)
    · intro hlt
      by_contra hgreater
      have hexponents := hf.leastExponent_lt
      have hbits : ((2 ^ p : Nat) : ℚ) ≤ m := by
        have hbits := hmge (by omega)
        rw [hp, Nat.add_sub_cancel] at hbits
        exact_mod_cast hbits
      refine absurd hlt (not_lt.mpr ?_)
      calc ((2 ^ f.precision : Nat) : ℚ) * 2 ^ f.greatestExponent =
            (2 ^ p : Nat) * 2 ^ (f.greatestExponent + 1) := by
            rw [hp, zpow_add_one₀ two_ne_zero]
            push_cast
            ring
        _ ≤ m * 2 ^ e :=
            mul_le_mul hbits (zpow_le_zpow_right₀ one_le_two (by omega))
              (zpow_nonneg two_pos.le _) (Nat.cast_nonneg _)

/-! ### The operations of a format -/

/-- **Rounding a quotient of whole numbers** gives a number with the rounded value, where it
does not overflow. -/
theorem round_is_of_lt (hf : f.Proper) (negative : Bool) (n : Nat) {d : Nat} (hd : 0 < d)
    (hx : (n / d : ℚ) < f.overflow) : (f.round negative n d).Is negative (f.rounded (n / d)) := by
  rcases Nat.eq_zero_or_pos n with rfl | hn
  · exact ⟨0, f.leastExponent, by rw [round, if_pos rfl], by simp⟩
  · obtain ⟨m, e, hvalue, hiff, hround⟩ := exists_round_eq hf negative hn hd
    have hlt := (rounded_lt_iff hf (by positivity)).mpr hx
    exact ⟨m, e, by rw [hround, if_pos (hiff.mpr hlt)], hvalue⟩

/-- A quotient that is too large is rounded to an infinity. -/
theorem round_eq_infinite (hf : f.Proper) (negative : Bool) {n d : Nat} (hd : 0 < d)
    (hx : f.overflow ≤ n / d) : f.round negative n d = .infinite negative := by
  have hpos : (0 : ℚ) < n / d :=
    lt_of_lt_of_le (lt_of_lt_of_le (zpow_pos two_pos _) (overflow_mem hf).1) hx
  have hn : 0 < n := by
    rcases Nat.eq_zero_or_pos n with rfl | hn
    · simp at hpos
    · exact hn
  obtain ⟨m, e, -, hiff, hround⟩ := exists_round_eq hf negative hn hd
  rw [hround, if_neg]
  intro hle
  exact absurd ((rounded_lt_iff hf hpos).mp (hiff.mp hle)) (not_lt.mpr hx)

theorem round_is (hf : f.Proper) (negative : Bool) (n : Nat) {d : Nat}
    (hd : 0 < d) (hx : (n / d : ℚ) < 2 ^ (f.greatestExponent + f.precision - 1)) :
    (f.round negative n d).Is negative (f.rounded (n / d)) :=
  round_is_of_lt hf negative n hd (lt_of_lt_of_le hx (overflow_mem hf).1)

/-- A product of a number, on whole numbers. -/
theorem quotient_mul_eq (mantissa : Nat) (exponent : ℤ) (p q : Nat) :
    (((Number.quotient mantissa exponent).1 * p : Nat) : ℚ) /
      ((Number.quotient mantissa exponent).2 * q : Nat) = mantissa * 2 ^ exponent * (p / q) := by
  rw [Nat.cast_mul, Nat.cast_mul, mul_div_mul_comm, Number.quotient_eq]

/-- **Scaling a number** rounds the product, where it does not overflow. -/
theorem scale_is_of_lt (hf : f.Proper) {x : Number} {negative : Bool} {v : ℚ}
    (h : x.Is negative v) (p : Nat) {q : Nat} (hq : 0 < q) (hv : v * (p / q) < f.overflow) :
    (f.scale x p q).Is negative (f.rounded (v * (p / q))) := by
  obtain ⟨mantissa, exponent, rfl, rfl⟩ := h
  rw [← quotient_mul_eq] at hv ⊢
  exact round_is_of_lt hf negative _ (Nat.mul_pos (Number.quotient_pos mantissa exponent) hq) hv

theorem scale_eq_infinite (hf : f.Proper) {x : Number} {negative : Bool} {v : ℚ}
    (h : x.Is negative v) (p : Nat) {q : Nat} (hq : 0 < q) (hv : f.overflow ≤ v * (p / q)) :
    f.scale x p q = .infinite negative := by
  obtain ⟨mantissa, exponent, rfl, rfl⟩ := h
  rw [← quotient_mul_eq] at hv
  exact round_eq_infinite hf negative (Nat.mul_pos (Number.quotient_pos mantissa exponent) hq) hv

end Format

/-! ### Double precision -/

theorem double_precision : (double.precision : ℤ) = 53 := rfl

theorem double_leastExponent : double.leastExponent = -1074 := by decide

theorem double_greatestExponent : double.greatestExponent = 971 := by decide

/-- The grid of the doubles between two powers of two. -/
theorem grid_double_eq {x : ℚ} {k : ℤ} (hlow : 2 ^ k ≤ x) (hhigh : x < 2 ^ (k + 1))
    (hk : -1022 ≤ k) : double.grid x = k - 52 := by
  rw [Format.grid_eq_of_mem hlow hhigh (by rw [double_leastExponent, double_precision]; omega),
    double_precision]
  omega

theorem double_overflow : double.overflow = 2 ^ 1024 - 2 ^ 970 := by
  rw [Format.overflow, double_greatestExponent, double_precision]
  norm_num

theorem double_rounded_natCast {k : Nat} (hk : k < 2 ^ 53) : double.rounded k = k := by
  simpa using Format.rounded_of_lt (f := double) (g := 0) hk (by decide)

theorem double_rounded_mono {x y : ℚ} (hx : 0 < x) (h : x ≤ y) :
    double.rounded x ≤ double.rounded y :=
  Format.rounded_mono Format.double_proper hx h

/-- Numbers of ordinary size do not overflow. -/
theorem lt_double_overflow {x : ℚ} (hx : x ≤ 2 ^ 64) :
    x < 2 ^ (double.greatestExponent + double.precision - 1) := by
  rw [double_greatestExponent, double_precision]
  exact lt_of_le_of_lt hx (zpow_lt_zpow_right₀ one_lt_two (by decide : (64 : ℤ) < 971 + 53 - 1))

theorem lt_double_overflow_of_le {x : ℚ} {k : Nat} (hx : x ≤ 2 ^ k) (hk : k < 1023) :
    x < double.overflow := by
  have hpower : (2 : ℚ) ^ (k : ℤ) < 2 ^ (971 + 53 - 1 : ℤ) :=
    zpow_lt_zpow_right₀ one_lt_two (by omega)
  have hbelow := (Format.overflow_mem Format.double_proper).1
  rw [double_greatestExponent, double_precision] at hbelow
  rw [zpow_natCast] at hpower
  linarith

/-- **The error of one rounding** to a double: half a unit of the last place, and next to
nothing where the doubles are as fine as they get. -/
theorem abs_double_rounded_sub_le {x : ℚ} (hx : 0 ≤ x) :
    |double.rounded x - x| ≤ (x + 1 / 2 ^ 100) / 2 ^ 53 := by
  rcases hx.eq_or_lt with rfl | hpos
  · rw [Format.rounded_zero, sub_self, abs_zero]
    positivity
  have hunit : (2 : ℚ) ^ double.grid x ≤ (x + 1 / 2 ^ 100) / 2 ^ 52 := by
    rw [Format.grid, double_leastExponent, double_precision]
    rcases max_choice (-1074) (Int.log 2 x + 1 - 53) with hmax | hmax
    · have hleast : (2 : ℚ) ^ (-1074 : ℤ) ≤ 2 ^ (-152 : ℤ) :=
        zpow_le_zpow_right₀ one_le_two (by decide)
      rw [hmax]
      refine hleast.trans ?_
      norm_num
      linarith
    · have hlog := Int.zpow_log_le_self (b := 2) one_lt_two hpos
      have hsplit : (2 : ℚ) ^ (Int.log 2 x + 1 - 53) = 2 ^ Int.log 2 x / 2 ^ 52 := by
        rw [show Int.log 2 x + 1 - 53 = Int.log 2 x - 52 by omega, zpow_sub₀ two_ne_zero]
        norm_num
      push_cast at hlog
      rw [hmax, hsplit]
      gcongr
      linarith [show (0 : ℚ) ≤ 1 / 2 ^ 100 by positivity]
  have herror := Format.abs_rounded_sub_le (f := double) hx
  have hhalf : (x + 1 / 2 ^ 100) / 2 ^ 53 = (x + 1 / 2 ^ 100) / 2 ^ 52 / 2 := by
    rw [div_div]
    norm_num
  linarith

end CarrierLink.Binary
