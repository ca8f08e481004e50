import CarrierLink.Proofs.Number.Rounding

/-!
# Numbers as rational numbers

A finite number has a value, and its sign is part of it: `CarrierLink.Binary.Number.value`.
Comparing two finite numbers is comparing their values, and the two zeros are equal.

An operation on doubles gives the double next to what it would give exactly, and
`CarrierLink.Binary.Number.Rounds` says how far away that may be. What several operations in a row
are off by is then a matter of adding up.
-/

namespace CarrierLink.Binary

-- A power is the one of the core library, whatever else is imported.
attribute [local instance (high)] instPowNat

/-! ### Values -/

namespace Number

variable {x : Number} {negative : Bool} {v : ℚ}

/-- **The value of a finite number.** The others have none and count as zero. -/
def value : Number → ℚ
  | .finite false mantissa exponent => mantissa * 2 ^ exponent
  | .finite true mantissa exponent => -(mantissa * 2 ^ exponent)
  | _ => 0

theorem Is.value_eq (h : x.Is negative v) : x.value = if negative then -v else v := by
  obtain ⟨mantissa, exponent, rfl, rfl⟩ := h
  cases negative <;> rfl

/-- A finite number is its magnitude with a sign. -/
theorem exists_is (h : x.isFinite = true) : ∃ negative, x.Is negative |x.value| := by
  cases x with
  | finite negative mantissa exponent =>
    have hmagnitude : (0 : ℚ) ≤ mantissa * 2 ^ exponent :=
      mul_nonneg (Nat.cast_nonneg _) (zpow_nonneg two_pos.le _)
    refine ⟨negative, mantissa, exponent, rfl, ?_⟩
    cases negative
    · exact (abs_of_nonneg hmagnitude).symm
    · rw [value, abs_neg, abs_of_nonneg hmagnitude]
  | nan => exact absurd h Bool.false_ne_true
  | infinite negative => exact absurd h Bool.false_ne_true

/-- A number above zero has no sign. -/
theorem is_of_pos (h : x.isFinite = true) (hpos : 0 < x.value) : x.Is false x.value := by
  obtain ⟨negative, hx⟩ := exists_is h
  have hvalue := hx.value_eq
  rw [abs_of_pos hpos] at hx hvalue
  cases negative with
  | false => exact hx
  | true =>
    rw [if_pos rfl] at hvalue
    linarith

/-- What is below zero is cut down to the least number. -/
theorem Is.clamp_of_negative (h : x.Is true v) (least greatest : Nat) :
    x.clamp least greatest = least := by
  obtain ⟨mantissa, exponent, rfl, -⟩ := h
  obtain ⟨n, hn⟩ : ∃ n : Nat, (finite true mantissa exponent).truncate? = some (-(n : ℤ)) :=
    ⟨_, rfl⟩
  simp only [Number.clamp, hn, Int.toNat_neg_natCast, Nat.zero_min, Nat.max_zero]

/-- What is rounded to the nearest whole number is half a unit away from it at most. -/
theorem abs_sub_floor_add_half_le (mantissa : Nat) (exponent : ℤ) :
    |(mantissa * 2 ^ exponent : ℚ) -
      ((2 * (quotient mantissa exponent).1 + (quotient mantissa exponent).2) /
        (2 * (quotient mantissa exponent).2) : Nat)| ≤ 1 / 2 := by
  have hden : (0 : ℚ) < (quotient mantissa exponent).2 :=
    Nat.cast_pos.mpr (quotient_pos mantissa exponent)
  have hquotient : ((2 * (quotient mantissa exponent).1 + (quotient mantissa exponent).2 : Nat) : ℚ) /
      (2 * (quotient mantissa exponent).2 : Nat) = mantissa * 2 ^ exponent + 1 / 2 := by
    rw [← quotient_eq mantissa exponent]
    push_cast
    field_simp
  have hnonneg : (0 : ℚ) ≤ mantissa * 2 ^ exponent :=
    mul_nonneg (Nat.cast_nonneg _) (zpow_nonneg two_pos.le _)
  have hlow := Nat.floor_le (by linarith : (0 : ℚ) ≤ mantissa * 2 ^ exponent + 1 / 2)
  have hhigh := Nat.lt_floor_add_one (mantissa * 2 ^ exponent + 1 / 2 : ℚ)
  rw [← hquotient, Nat.floor_div_eq_div, hquotient] at hlow hhigh
  exact abs_le.mpr ⟨by linarith, by linarith⟩

/-- No other whole number is that near. -/
theorem floor_add_half_eq (mantissa : Nat) (exponent : ℤ) {n : ℤ}
    (h : |(mantissa * 2 ^ exponent : ℚ) - n| < 1 / 2) :
    (((2 * (quotient mantissa exponent).1 + (quotient mantissa exponent).2) /
      (2 * (quotient mantissa exponent).2) : Nat) : ℤ) = n := by
  have hnear := abs_sub_floor_add_half_le mantissa exponent
  set nearest : Nat := (2 * (quotient mantissa exponent).1 + (quotient mantissa exponent).2) /
    (2 * (quotient mantissa exponent).2)
  obtain ⟨hlow, hhigh⟩ := abs_lt.mp h
  obtain ⟨hlow', hhigh'⟩ := abs_le.mp hnear
  have hclose : |((nearest - n : ℤ) : ℚ)| < 1 := by
    push_cast
    exact abs_lt.mpr ⟨by linarith, by linarith⟩
  exact sub_eq_zero.mp (Int.abs_lt_one_iff.mp (by exact_mod_cast hclose))

/-- **The nearest whole number**, where there is no doubt about it. -/
theorem nearest?_eq_some (hx : x.isFinite = true) {n : ℤ} (h : |x.value - n| < 1 / 2) :
    x.nearest? = some n := by
  cases x with
  | finite negative mantissa exponent =>
    cases negative with
    | false => exact congrArg some (floor_add_half_eq mantissa exponent h)
    | true =>
      have hneg : |(mantissa * 2 ^ exponent : ℚ) - (-n : ℤ)| < 1 / 2 := by
        rw [value, ← abs_neg] at h
        push_cast
        convert h using 2
        ring
      rw [nearest?]
      simp only [if_pos]
      rw [floor_add_half_eq mantissa exponent hneg, neg_neg]
  | nan => exact absurd hx Bool.false_ne_true
  | infinite negative => exact absurd hx Bool.false_ne_true

/-- The nearest whole number is half a unit away at most. -/
theorem abs_value_sub_nearest_le {n : ℤ} (h : x.nearest? = some n) : |x.value - n| ≤ 1 / 2 := by
  cases x with
  | finite negative mantissa exponent =>
    have hnear := abs_sub_floor_add_half_le mantissa exponent
    obtain rfl := Option.some.inj h
    cases negative with
    | false => exact_mod_cast hnear
    | true =>
      rw [value, if_pos rfl, Int.cast_neg, neg_sub_neg, abs_sub_comm]
      exact_mod_cast hnear
  | nan => exact absurd h (by simp [nearest?])
  | infinite negative => exact absurd h (by simp [nearest?])

theorem nearest?_of_not_isFinite (hx : x.isFinite = false) : x.nearest? = none := by
  cases x with
  | finite negative mantissa exponent => exact absurd hx (by simp [isFinite])
  | nan => rfl
  | infinite negative => rfl

/-! ### Operations -/

/-- **A number that stands for another after one rounding.** -/
def Rounds (x : Number) (v : ℚ) : Prop :=
  ∃ negative, x.Is negative (double.rounded |v|) ∧ v = if negative then -|v| else |v|

/-- What has been rounded to the right magnitude, with the right sign. -/
theorem Is.rounds {u : ℚ} (h : x.Is negative (double.rounded u)) (hu : 0 ≤ u)
    (hv : v = if negative then -u else u) : x.Rounds v := by
  have habs : |v| = u := by
    rw [hv]
    cases negative <;> simp [abs_of_nonneg hu]
  exact ⟨negative, by rwa [habs], by rwa [habs]⟩

theorem Rounds.isFinite (h : x.Rounds v) : x.isFinite = true := by
  obtain ⟨negative, hx, -⟩ := h
  exact hx.isFinite

/-- It is as close as doubles get. -/
theorem Rounds.abs_value_sub_le (h : x.Rounds v) :
    |x.value - v| ≤ (|v| + 1 / 2 ^ 100) / 2 ^ 53 := by
  obtain ⟨negative, hx, hv⟩ := h
  have herror := abs_double_rounded_sub_le (abs_nonneg v)
  rw [hx.value_eq]
  cases negative with
  | false =>
    rw [if_neg Bool.false_ne_true] at hv ⊢
    rwa [← hv] at herror ⊢
  | true =>
    rw [if_pos rfl] at hv ⊢
    have hsame : -double.rounded |v| - v = -(double.rounded |v| - |v|) := by linarith
    rwa [hsame, abs_neg]

/-- And it is the same where doubles have it. -/
theorem Rounds.value_eq (h : x.Rounds v) (hexact : double.rounded |v| = |v|) : x.value = v := by
  obtain ⟨negative, hx, hv⟩ := h
  rw [hx.value_eq, hexact, ← hv]

end Number

section Operations

open Number

variable {x y : Number} {v : ℚ}

/-- The bound that is asked for below leaves much room. -/
theorem rounds_round (negative : Bool) (n : Nat) {d : Nat} (hd : 0 < d)
    (hle : (n / d : ℚ) ≤ 2 ^ 200) (hv : v = if negative then -(n / d : ℚ) else n / d) :
    (double.round negative n d).Rounds v :=
  (Format.round_is_of_lt Format.double_proper negative n hd
    (lt_double_overflow_of_le hle (by decide))).rounds (by positivity) hv

/-- **A product with a quotient is rounded once.** -/
theorem rounds_scale (hx : x.isFinite = true) (p : Nat) {q : Nat} (hq : 0 < q)
    (hle : |x.value * (p / q)| ≤ 2 ^ 200) : (double.scale x p q).Rounds (x.value * (p / q)) := by
  obtain ⟨negative, h⟩ := exists_is hx
  have hnonneg : (0 : ℚ) ≤ p / q := by positivity
  rw [abs_mul, abs_of_nonneg hnonneg] at hle
  refine (Format.scale_is_of_lt Format.double_proper h p hq
    (lt_double_overflow_of_le hle (by decide))).rounds (by positivity) ?_
  have hvalue := h.value_eq
  cases negative with
  | false =>
    rw [if_neg Bool.false_ne_true] at hvalue ⊢
    rw [← hvalue]
  | true =>
    rw [if_pos rfl] at hvalue ⊢
    rw [← neg_mul, ← hvalue]

/-- A quotient with a sign is rounded once. -/
theorem rounds_div (n : ℤ) {d : Nat} (hd : 0 < d) (hle : |(n / d : ℚ)| ≤ 2 ^ 200) :
    (double.round (decide (n < 0)) n.natAbs d).Rounds (n / d) := by
  have habs : (n.natAbs : ℚ) / d = |(n / d : ℚ)| := by
    rw [Nat.cast_natAbs, Int.cast_abs, abs_div, Nat.abs_cast]
  refine rounds_round _ _ hd (by rwa [habs]) ?_
  rw [habs]
  by_cases hn : n < 0
  · have hsign : (n / d : ℚ) ≤ 0 :=
      div_nonpos_of_nonpos_of_nonneg (by exact_mod_cast hn.le) (Nat.cast_nonneg d)
    rw [decide_eq_true hn, if_pos rfl, abs_of_nonpos hsign, neg_neg]
  · have hsign : (0 : ℚ) ≤ n / d :=
      div_nonneg (by exact_mod_cast not_lt.mp hn) (Nat.cast_nonneg d)
    rw [decide_eq_false hn, if_neg Bool.false_ne_true, abs_of_nonneg hsign]

/-- **A whole number is rounded once.** -/
theorem rounds_ofInt (n : ℤ) (hle : |(n : ℚ)| ≤ 2 ^ 200) : (double.ofInt n).Rounds n := by
  have hrounds := rounds_div n Nat.one_pos (by simpa using hle)
  rwa [Nat.cast_one, div_one] at hrounds

/-- Doubles have all whole numbers of moderate size. -/
theorem double_rounded_abs_intCast {n : ℤ} (hn : n.natAbs < 2 ^ 53) :
    double.rounded |(n : ℚ)| = |(n : ℚ)| := by
  rw [← Int.cast_abs, Int.abs_eq_natAbs, Int.cast_natCast, double_rounded_natCast hn]

theorem rounds_ofInt_of_lt {n : ℤ} (hn : n.natAbs < 2 ^ 53) : (double.ofInt n).Rounds n := by
  refine rounds_ofInt n ?_
  rw [← Int.cast_abs, Int.abs_eq_natAbs, Int.cast_natCast]
  exact_mod_cast (hn.trans (by decide : 2 ^ 53 < 2 ^ 200)).le

theorem value_ofInt {n : ℤ} (hn : n.natAbs < 2 ^ 53) : (double.ofInt n).value = n :=
  (rounds_ofInt_of_lt hn).value_eq (double_rounded_abs_intCast hn)

/-- A number is whole on every grid that is finer than its own. -/
theorem value_onGrid (negative : Bool) (mantissa : Nat) {exponent grid : ℤ} (h : grid ≤ exponent) :
    (((if negative then -1 else 1) *
      (mantissa * 2 ^ (exponent - grid).toNat : Nat) : ℤ) : ℚ) * 2 ^ grid =
      (finite negative mantissa exponent).value := by
  have hpower : (2 : ℚ) ^ (exponent - grid).toNat * 2 ^ grid = 2 ^ exponent := by
    rw [← zpow_natCast, ← zpow_add₀ two_ne_zero]
    congr 1
    omega
  cases negative <;> simp only [value] <;> push_cast <;> rw [← hpower] <;> simp <;> ring

/-- **A sum is rounded once.** The two numbers are brought to the finer one of their grids
first, and there they are whole. -/
theorem rounds_add (hx : x.isFinite = true) (hy : y.isFinite = true)
    (hle : |x.value + y.value| ≤ 2 ^ 200) : (double.add x y).Rounds (x.value + y.value) := by
  cases x with
  | finite s m e =>
    cases y with
    | finite t n g =>
      simp only [Format.add]
      set sum : ℤ := (if s then -1 else 1) * (m * 2 ^ (e - min e g).toNat : Nat) +
        (if t then -1 else 1) * (n * 2 ^ (g - min e g).toNat : Nat) with hsum
      have hvalue : (sum : ℚ) * 2 ^ min e g = (finite s m e).value + (finite t n g).value := by
        rw [hsum, Int.cast_add, add_mul, value_onGrid s m (min_le_left _ _),
          value_onGrid t n (min_le_right _ _)]
      have hpower : (0 : ℚ) < 2 ^ min e g := zpow_pos two_pos _
      have habs : ((quotient sum.natAbs (min e g)).1 : ℚ) / (quotient sum.natAbs (min e g)).2 =
          |(finite s m e).value + (finite t n g).value| := by
        rw [quotient_eq, ← hvalue, abs_mul, abs_of_pos hpower, Nat.cast_natAbs, Int.cast_abs]
      refine rounds_round _ _ (quotient_pos _ _) (by rwa [habs]) ?_
      rw [habs, ← hvalue]
      rcases lt_trichotomy sum 0 with hneg | hzero | hpos
      · have hsign : (sum : ℚ) * 2 ^ min e g < 0 :=
          mul_neg_of_neg_of_pos (by exact_mod_cast hneg) hpower
        rw [if_neg hneg.ne, decide_eq_true hneg, if_pos rfl, abs_of_neg hsign, neg_neg]
      · rw [hzero]
        simp
      · have hsign : 0 < (sum : ℚ) * 2 ^ min e g := mul_pos (by exact_mod_cast hpos) hpower
        rw [if_neg hpos.ne', decide_eq_false hpos.not_gt, if_neg Bool.false_ne_true,
          abs_of_pos hsign]
    | nan => exact absurd hy Bool.false_ne_true
    | infinite negative => exact absurd hy Bool.false_ne_true
  | nan => exact absurd hx Bool.false_ne_true
  | infinite negative => exact absurd hx Bool.false_ne_true

theorem add_not_isFinite (hy : y.isFinite = false) : (double.add x y).isFinite = false := by
  cases y with
  | finite negative mantissa exponent => exact absurd hy (by simp [isFinite])
  | nan => cases x <;> rfl
  | infinite t =>
    cases x with
    | finite negative mantissa exponent => rfl
    | nan => rfl
    | infinite s =>
      simp only [Format.add]
      split <;> rfl

end Operations

end CarrierLink.Binary
