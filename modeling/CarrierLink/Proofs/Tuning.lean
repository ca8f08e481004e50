import CarrierLink.Note
import CarrierLink.Proofs.Pitch

/-!
# Tunings

Two functions of numbers lead from frequencies to pitches and back. How far they may be off is
what `CarrierLink.Tuning.Accurate` says, and nothing else about them matters: with any accurate
tuning a whole frequency has the same nearest note
(`CarrierLink.Tuning.Near.nearest?_eq`), and a note the same whole frequency
(`CarrierLink.Tuning.Accurate.clamp_hertz`). For the first of these nothing needs to be exact
(`CarrierLink.Tuning.Near`).

The tuning in use is accurate (`CarrierLink.Tuning.standard_accurate`). A tuning that is made from
the logarithm and the powers of a library is near, as long as these are right to nine digits
(`CarrierLink.Tuning.ofLibrary_near`), and it is accurate if the library also gets whole powers of
two right (`CarrierLink.Tuning.ofLibrary_accurate`).
-/

namespace CarrierLink

open Binary Pitch

-- A power is the one of the core library, whatever else is imported.
attribute [local instance (high)] instPowNat

/-- **A tuning**: from frequencies to semitones above 440 Hz, and back. -/
structure Tuning where
  semitones : Number → Number
  hertz : Int → Number

namespace Tuning

/-- The tuning in use. -/
def standard : Tuning := ⟨Pitch.semitones, Pitch.hertz⟩

/-- The tuning that a library's binary logarithm and powers of two give. Only positive finite
frequencies have a place in it. -/
def ofLibrary (log2 exp2 : Number → Number) : Tuning where
  semitones x :=
    if x.isFinite && decide (0 < x.value) then double.scale (log2 (double.scale x 1 440)) 12 1
    else .nan
  hertz n := double.scale (exp2 (double.scale (double.ofInt n) 1 12)) 440 1

/-- The note nearest to a frequency. -/
def nearest? (T : Tuning) (x : Number) : Option String :=
  (double.add (double.ofInt Note.concertA) (T.semitones x)).nearest?.map Note.name

/-- The frequency of the note that a text names. -/
def frequency? (T : Tuning) (s : List Char) : Option Number :=
  (Note.number? s).map fun n => T.hertz (n - Note.concertA)

/-! ### Accuracy -/

/-- **Close enough** for the frequencies and the pitches that have names. -/
structure Accurate (T : Tuning) : Prop where
  semitones_near : ∀ x : Number, x.isFinite = true → 1 / 2 ^ 100 ≤ x.value → x.value ≤ 2 ^ 150 →
    (T.semitones x).isFinite = true ∧
      |((T.semitones x).value : ℝ) - position x.value| ≤ 1 / 10 ^ 5
  semitones_zero : ∀ x : Number, x.isFinite = true → x.value = 0 →
    (T.semitones x).isFinite = false
  hertz_near : ∀ n : ℤ, |n| ≤ 1300 → (T.hertz n).isFinite = true ∧
    |((T.hertz n).value : ℝ) - frequency n| ≤ frequency n / 10 ^ 8
  hertz_exact : ∀ n : ℤ, |n| ≤ 1300 → 12 ∣ n → ((T.hertz n).value : ℝ) = frequency n

/-- **Near enough** to tell the pitches that have names from each other. -/
structure Near (T : Tuning) : Prop where
  semitones_near : ∀ x : Number, x.isFinite = true → 1 / 2 ^ 100 ≤ x.value → x.value ≤ 2 ^ 150 →
    (T.semitones x).isFinite = true ∧
      |((T.semitones x).value : ℝ) - position x.value| ≤ 1 / 10 ^ 5
  hertz_near : ∀ n : ℤ, |n| ≤ 1300 → (T.hertz n).isFinite = true ∧
    |((T.hertz n).value : ℝ) - frequency n| ≤ frequency n / 10 ^ 8

theorem Accurate.near {T : Tuning} (hT : T.Accurate) : T.Near where
  semitones_near := hT.semitones_near
  hertz_near := hT.hertz_near

/-- A logarithm that is off by a billionth of itself, or by a billionth where it is near zero. -/
structure AccurateLog (log2 : Number → Number) : Prop where
  log2_near : ∀ x : Number, x.isFinite = true → 0 < x.value → |Real.logb 2 x.value| ≤ 200 →
    (log2 x).isFinite = true ∧
      |((log2 x).value : ℝ) - Real.logb 2 x.value| ≤ (1 + |Real.logb 2 x.value|) / 10 ^ 9

/-- **What is asked of a library**: its logarithm and its powers of two are right to nine digits,
and a power of two with a whole exponent is exact. -/
structure AccurateLibrary (log2 exp2 : Number → Number) : Prop extends AccurateLog log2 where
  exp2_near : ∀ x : Number, x.isFinite = true → |x.value| ≤ 120 → (exp2 x).isFinite = true ∧
    |((exp2 x).value : ℝ) - 2 ^ (x.value : ℝ)| ≤ 2 ^ (x.value : ℝ) / 10 ^ 9
  exp2_exact : ∀ (x : Number) (k : ℤ), x.isFinite = true → x.value = k → |k| ≤ 120 →
    (exp2 x).value = 2 ^ k

/-- **What is asked of a library at least**: its logarithm and its powers of two are right to nine
digits. -/
structure NearLibrary (log2 exp2 : Number → Number) : Prop extends AccurateLog log2 where
  exp2_near : ∀ x : Number, x.isFinite = true → |x.value| ≤ 120 → (exp2 x).isFinite = true ∧
    |((exp2 x).value : ℝ) - 2 ^ (x.value : ℝ)| ≤ 2 ^ (x.value : ℝ) / 10 ^ 9

theorem AccurateLibrary.near {log2 exp2 : Number → Number} (h : AccurateLibrary log2 exp2) :
    NearLibrary log2 exp2 where
  toAccurateLog := h.toAccurateLog
  exp2_near := h.exp2_near

theorem double_log2_accurate : AccurateLog double.log2 := by
  refine ⟨fun x hx hpos hlog => ?_⟩
  obtain ⟨hfinite, hnear⟩ := log2_near (Number.is_of_pos hx hpos) hpos (by linarith)
  refine ⟨hfinite, hnear.trans ?_⟩
  have hnonneg := abs_nonneg (Real.logb 2 (x.value : ℝ))
  linarith

/-- A product, in real numbers. -/
theorem scale_near {x : Number} (hx : x.isFinite = true) (p : Nat) {q : Nat} (hq : 0 < q) {v : ℝ}
    (hv : v = x.value * (p / q)) (hle : |v| ≤ 2 ^ 200) :
    (double.scale x p q).isFinite = true ∧
      |((double.scale x p q).value : ℝ) - v| ≤ (|v| + 1 / 2 ^ 100) / 2 ^ 53 := by
  have hcast : ((x.value * (p / q) : ℚ) : ℝ) = v := by
    rw [hv]
    push_cast
    rfl
  have hrounds := rounds_scale hx p hq (by rw [← hcast] at hle; exact_mod_cast hle)
  have herror := hrounds.abs_cast_sub_le
  rw [hcast] at herror
  exact ⟨hrounds.isFinite, herror⟩

/-- A frequency is divided by 440 Hz first, and the logarithm of the quotient is hardly changed. -/
theorem logb_quotient_near {x : Number} (hx : x.isFinite = true) (hlow : 1 / 2 ^ 100 ≤ x.value)
    (hhigh : x.value ≤ 2 ^ 150) :
    (double.scale x 1 440).isFinite = true ∧ (0 : ℝ) < (double.scale x 1 440).value ∧
      |Real.logb 2 (double.scale x 1 440).value - Real.logb 2 (x.value / 440)| ≤ 1 / 2 ^ 40 ∧
      |Real.logb 2 (x.value / 440)| ≤ 150 := by
  have hlow' : (1 / 2 ^ 109 : ℝ) ≤ x.value / 440 := by
    have hreal : ((1 / 2 ^ 100 : ℚ) : ℝ) ≤ x.value := Rat.cast_le.mpr hlow
    norm_num at hreal ⊢
    linarith
  have hhigh' : (x.value / 440 : ℝ) ≤ 2 ^ 150 := by
    have hreal : (x.value : ℝ) ≤ (2 ^ 150 : ℚ) := Rat.cast_le.mpr hhigh
    norm_num at hreal ⊢
    linarith
  set v : ℝ := x.value / 440 with hv
  have hvpos : 0 < v := lt_of_lt_of_le (by norm_num) hlow'
  obtain ⟨hfinite, herror⟩ := scale_near hx 1 (by decide : 0 < 440) (v := v)
    (by rw [hv]; push_cast; ring) (by rw [abs_of_pos hvpos]; norm_num at hhigh' ⊢; linarith)
  set y : ℝ := ((double.scale x 1 440).value : ℝ)
  rw [abs_of_pos hvpos] at herror
  have hclose : |y - v| ≤ v * (1 / 2 ^ 42) := herror.trans (by norm_num at hlow' ⊢; linarith)
  have hypos : 0 < y := by
    have hbelow := (abs_le.mp hclose).1
    norm_num at hbelow
    linarith
  refine ⟨hfinite, hypos, ?_, abs_le.mpr ⟨?_, ?_⟩⟩
  · exact (abs_logb_sub_le hvpos hypos (by positivity) (by norm_num) hclose).trans (by norm_num)
  · have hmin := Real.logb_le_logb_of_le one_lt_two (by positivity) hlow'
    rw [one_div, Real.logb_inv, Real.logb_pow, Real.logb_self_eq_one one_lt_two] at hmin
    norm_num at hmin
    linarith
  · have hmax := Real.logb_le_logb_of_le one_lt_two hvpos hhigh'
    rw [Real.logb_pow, Real.logb_self_eq_one one_lt_two] at hmax
    norm_num at hmax
    exact hmax

/-- **The place of a frequency is as right as the logarithm.** Twelve times an error of two
parts in ten millions is what is left. -/
theorem semitones_near {log2 : Number → Number} (hlog2 : AccurateLog log2) {x : Number}
    (hx : x.isFinite = true) (hlow : 1 / 2 ^ 100 ≤ x.value) (hhigh : x.value ≤ 2 ^ 150) :
    (double.scale (log2 (double.scale x 1 440)) 12 1).isFinite = true ∧
      |((double.scale (log2 (double.scale x 1 440)) 12 1).value : ℝ) - position x.value| ≤
        1 / 10 ^ 5 := by
  obtain ⟨hquotient, hpos, hclose, hsize⟩ := logb_quotient_near hx hlow hhigh
  set y := double.scale x 1 440
  set u := Real.logb 2 (x.value / 440 : ℝ) with hu
  have hsize' : |Real.logb 2 (y.value : ℝ)| ≤ 151 := by
    have hsum := abs_sub_abs_le_abs_sub (Real.logb 2 (y.value : ℝ)) u
    norm_num at hclose
    linarith
  obtain ⟨hfinite, hfound⟩ :=
    hlog2.log2_near y hquotient (by exact_mod_cast hpos) (by linarith)
  set l := log2 y
  have hl : |(l.value : ℝ) - u| ≤ 2 / 10 ^ 7 := by
    have hsum := abs_sub_le (l.value : ℝ) (Real.logb 2 (y.value : ℝ)) u
    norm_num at hclose hfound ⊢
    linarith
  have hscaled : |12 * (l.value : ℝ) - position x.value| ≤ 12 * (2 / 10 ^ 7) := by
    rw [position, ← hu, ← mul_sub, abs_mul, abs_of_pos (by norm_num : (0 : ℝ) < 12)]
    exact mul_le_mul_of_nonneg_left hl (by norm_num)
  have hlsize : |12 * (l.value : ℝ)| ≤ 12 * 151 := by
    have hsum := abs_sub_abs_le_abs_sub (l.value : ℝ) u
    rw [abs_mul, abs_of_pos (by norm_num : (0 : ℝ) < 12)]
    norm_num at hl
    linarith
  obtain ⟨hproduct, herror⟩ := scale_near hfinite 12 one_pos (v := 12 * l.value)
    (by push_cast; ring) (by norm_num at hlsize ⊢; linarith)
  refine ⟨hproduct, ?_⟩
  have hsum := abs_sub_le ((double.scale l 12 1).value : ℝ) (12 * l.value) (position x.value)
  norm_num at herror hscaled hlsize ⊢
  linarith

/-- **The tuning in use is accurate.** -/
theorem standard_accurate : standard.Accurate where
  semitones_near _ hx hlow hhigh := semitones_near double_log2_accurate hx hlow hhigh
  semitones_zero x hx hzero := by
    cases x with
    | finite negative mantissa exponent =>
      have hmantissa : mantissa = 0 := by
        cases negative <;> simpa [Number.value, zpow_ne_zero] using hzero
      subst hmantissa
      simp [standard, Pitch.semitones, Format.scale, Number.quotient, Format.round, Format.log2,
        Number.isFinite]
    | nan => exact absurd hx Bool.false_ne_true
    | infinite negative => exact absurd hx Bool.false_ne_true
  hertz_near n _ := by
    refine ⟨hertz_isFinite n, (abs_hertz_sub_le n).trans ?_⟩
    have hpos := frequency_pos n
    norm_num at hpos ⊢
    linarith
  hertz_exact _ _ hdvd := hertz_eq_frequency hdvd

/-! ### Libraries -/

/-- Powers of two with almost the same exponent. -/
theorem abs_two_rpow_sub_le {u y : ℝ} (h : |y - u| ≤ 1) :
    |(2 : ℝ) ^ y - 2 ^ u| ≤ 2 ^ u * (2 * |y - u|) := by
  have hsplit : (2 : ℝ) ^ y = 2 ^ u * 2 ^ (y - u) := by
    rw [← Real.rpow_add two_pos, add_sub_cancel]
  have hlog : |Real.log 2 * (y - u)| ≤ |y - u| := by
    rw [abs_mul, abs_of_pos (Real.log_pos one_lt_two)]
    exact mul_le_of_le_one_left (abs_nonneg _) (by linarith [Real.log_two_lt_d9])
  have hpower : (0 : ℝ) < 2 ^ u := Real.rpow_pos_of_pos two_pos u
  have hexp : |(2 : ℝ) ^ (y - u) - 1| ≤ 2 * |y - u| := by
    rw [Real.rpow_def_of_pos two_pos]
    exact (Real.abs_exp_sub_one_le (hlog.trans h)).trans (by linarith)
  rw [hsplit, ← mul_sub_one, abs_mul, abs_of_pos hpower]
  exact mul_le_mul_of_nonneg_left hexp hpower.le

/-- A twelfth of a number of semitones, as the exponent that a library is asked for. -/
theorem exponent_near {n : ℤ} (hn : |n| ≤ 1300) :
    (double.scale (double.ofInt n) 1 12).isFinite = true ∧
      |((double.scale (double.ofInt n) 1 12).value : ℝ) - n / 12| ≤ 1 / 2 ^ 46 ∧
      |(n / 12 : ℝ)| ≤ 109 := by
  have hreal : |(n : ℝ)| ≤ 1300 := by exact_mod_cast hn
  have hsize : |(n / 12 : ℝ)| ≤ 109 := by
    rw [abs_div, abs_of_pos (by norm_num : (0 : ℝ) < 12)]
    linarith
  have hmem := abs_le.mp hn
  have hlt : n.natAbs < 2 ^ 53 := by omega
  obtain ⟨hfinite, hnear⟩ := scale_near (rounds_ofInt_of_lt hlt).isFinite 1 (by decide : 0 < 12)
    (v := n / 12) (by rw [value_ofInt hlt]; push_cast; ring) (by linarith)
  refine ⟨hfinite, hnear.trans ?_, hsize⟩
  norm_num at hsize ⊢
  linarith

section Library

variable {log2 exp2 : Number → Number} {n : ℤ}

/-- The power that a library finds for a pitch. -/
theorem power_near (h : NearLibrary log2 exp2) (hn : |n| ≤ 1300) :
    (exp2 (double.scale (double.ofInt n) 1 12)).isFinite = true ∧
      |((exp2 (double.scale (double.ofInt n) 1 12)).value : ℝ) - 2 ^ (n / 12 : ℝ)| ≤
        2 ^ (n / 12 : ℝ) * (11 / 10 ^ 10) := by
  obtain ⟨hexponent, hclose, hsize⟩ := exponent_near hn
  set y := double.scale (double.ofInt n) 1 12
  set u : ℝ := n / 12
  have hysize : |(y.value : ℝ)| ≤ 120 := by
    have hsum := abs_sub_abs_le_abs_sub (y.value : ℝ) u
    norm_num at hclose
    linarith
  obtain ⟨hfinite, hpower⟩ := h.exp2_near y hexponent (by exact_mod_cast hysize)
  have hpos : (0 : ℝ) < 2 ^ u := Real.rpow_pos_of_pos two_pos u
  have hchange : |(2 : ℝ) ^ (y.value : ℝ) - 2 ^ u| ≤ 2 ^ u * (2 * (1 / 2 ^ 46)) :=
    (abs_two_rpow_sub_le (hclose.trans (by norm_num))).trans
      (mul_le_mul_of_nonneg_left (by linarith) hpos.le)
  have hpower' := (abs_le.mp hchange).2
  have hsum := abs_sub_le ((exp2 y).value : ℝ) (2 ^ (y.value : ℝ)) (2 ^ u)
  refine ⟨hfinite, ?_⟩
  norm_num at hpower hpower' hchange ⊢
  linarith

/-- A pitch from a library: the exponent is rounded, the power is the library's, and the product
with 440 Hz is rounded. -/
theorem hertz_near (h : NearLibrary log2 exp2) (hn : |n| ≤ 1300) :
    ((ofLibrary log2 exp2).hertz n).isFinite = true ∧
      |(((ofLibrary log2 exp2).hertz n).value : ℝ) - frequency n| ≤ frequency n / 10 ^ 8 := by
  obtain ⟨hfinite, hclose⟩ := power_near h hn
  obtain ⟨-, -, hsize⟩ := exponent_near hn
  have hmin := Real.rpow_le_rpow_of_exponent_le one_le_two (abs_le.mp hsize).1
  have hmax := Real.rpow_le_rpow_of_exponent_le one_le_two (abs_le.mp hsize).2
  rw [Real.rpow_neg two_pos.le] at hmin
  rw [frequency]
  set e := exp2 (double.scale (double.ofInt n) 1 12) with he
  set w : ℝ := 2 ^ (n / 12 : ℝ)
  have hscaled : |e.value * 440 - 440 * w| ≤ 440 * (w * (11 / 10 ^ 10)) := by
    rw [mul_comm (e.value : ℝ), ← mul_sub, abs_mul, abs_of_pos (by norm_num : (0 : ℝ) < 440)]
    exact mul_le_mul_of_nonneg_left hclose (by norm_num)
  norm_num at hmin hmax
  have hbound : |(e.value * 440 : ℝ)| ≤ 450 * w := by
    have hsum := abs_sub_abs_le_abs_sub (e.value * 440 : ℝ) (440 * w)
    rw [abs_of_pos (by linarith : 0 < 440 * w)] at hsum
    linarith
  obtain ⟨hproduct, herror⟩ := scale_near hfinite 440 one_pos (v := e.value * 440)
    (by push_cast; ring) (hbound.trans (by norm_num; linarith))
  refine ⟨hproduct, ?_⟩
  have hsum := abs_sub_le (((ofLibrary log2 exp2).hertz n).value : ℝ) (e.value * 440) (440 * w)
  change |(((ofLibrary log2 exp2).hertz n).value : ℝ) - e.value * 440| ≤ _ at herror
  norm_num at herror hscaled hbound ⊢
  linarith

/-- The exponent of an octave is a whole number, and so everything is exact. -/
theorem hertz_exact (h : AccurateLibrary log2 exp2) (hn : |n| ≤ 1300) (hdvd : 12 ∣ n) :
    (((ofLibrary log2 exp2).hertz n).value : ℝ) = frequency n := by
  obtain ⟨k, rfl⟩ := hdvd
  have hmem := abs_le.mp hn
  obtain ⟨hexponent, -, -⟩ := exponent_near hn
  have hlt : (12 * k).natAbs < 2 ^ 53 := by omega
  have hk : |(k : ℚ)| ≤ 109 := by
    exact_mod_cast (abs_le.mpr ⟨by omega, by omega⟩ : |k| ≤ 109)
  have hwhole : (double.ofInt (12 * k)).value * ((1 : Nat) / (12 : Nat)) = k := by
    rw [value_ofInt hlt]
    push_cast
    ring
  have hvalue : (double.scale (double.ofInt (12 * k)) 1 12).value = k := by
    have hrounds := rounds_scale (rounds_ofInt_of_lt hlt).isFinite 1 (by decide : 0 < 12)
      (by rw [hwhole]; linarith)
    rw [hwhole] at hrounds
    exact hrounds.value_eq (double_rounded_abs_intCast (by omega))
  have hpower := h.exp2_exact _ k hexponent hvalue (abs_le.mpr ⟨by omega, by omega⟩)
  obtain ⟨hfinite, -⟩ := power_near h.near hn
  set e := exp2 (double.scale (double.ofInt (12 * k)) 1 12) with he
  have hproduct : e.value * ((440 : Nat) / (1 : Nat)) = (55 : Nat) * 2 ^ (k + 3) := by
    rw [hpower, zpow_add₀ two_ne_zero]
    push_cast
    ring
  have habs : |e.value * ((440 : Nat) / (1 : Nat))| = (55 : Nat) * 2 ^ (k + 3) := by
    rw [hproduct, abs_of_pos (by positivity)]
  have hexact : ((ofLibrary log2 exp2).hertz (12 * k)).value = (55 : Nat) * 2 ^ (k + 3) := by
    have hrounds := rounds_scale hfinite 440 one_pos (by
      rw [habs]
      calc ((55 : Nat) : ℚ) * 2 ^ (k + 3) ≤ (55 : Nat) * 2 ^ (112 : ℤ) :=
            mul_le_mul_of_nonneg_left (zpow_le_zpow_right₀ one_le_two (by omega)) (by norm_num)
        _ ≤ 2 ^ 200 := by norm_num)
    have hleast := double_leastExponent
    rw [← hproduct]
    refine hrounds.value_eq ?_
    rw [habs]
    exact Format.rounded_of_lt (by decide) (by omega)
  rw [hexact, frequency]
  push_cast
  rw [mul_div_cancel_left₀ _ (by norm_num), Real.rpow_intCast, zpow_add₀ two_ne_zero]
  ring

/-- **A tuning from a library is near.** -/
theorem ofLibrary_near (h : NearLibrary log2 exp2) : (ofLibrary log2 exp2).Near where
  semitones_near x hx hlow hhigh := by
    have hpos : 0 < x.value := lt_of_lt_of_le (by norm_num) hlow
    have hplace : (ofLibrary log2 exp2).semitones x =
        double.scale (log2 (double.scale x 1 440)) 12 1 := by
      simp [ofLibrary, hx, hpos]
    rw [hplace]
    exact semitones_near h.toAccurateLog hx hlow hhigh
  hertz_near _ hn := hertz_near h hn

/-- **A tuning from a library is accurate** if the library gets whole powers of two right. -/
theorem ofLibrary_accurate (h : AccurateLibrary log2 exp2) : (ofLibrary log2 exp2).Accurate where
  semitones_near := (ofLibrary_near h.near).semitones_near
  semitones_zero x hx hzero := by simp [ofLibrary, hzero, Number.isFinite]
  hertz_near := (ofLibrary_near h.near).hertz_near
  hertz_exact _ hn hdvd := hertz_exact h hn hdvd

/-- The powers of two that a library would give which only rounds them to doubles. What is cut off
before that is nothing next to the power. -/
noncomputable def power (x : Number) : Number :=
  double.round false ⌊((2 : Nat) : ℝ) ^ (x.value : ℝ) * (2 ^ 200 : Nat)⌋₊ (2 ^ 200)

/-- What is rounded is the power itself, cut down. -/
theorem exists_power_rounds {x : Number} (hsize : |(x.value : ℝ)| ≤ 120) :
    ∃ v : ℚ, (power x).Rounds v ∧ (v : ℝ) * 2 ^ 200 = ⌊(2 : ℝ) ^ (x.value : ℝ) * 2 ^ 200⌋₊ := by
  set w : ℝ := 2 ^ (x.value : ℝ) with hw
  have hwpos : 0 < w := Real.rpow_pos_of_pos two_pos _
  have hmax : w ≤ 2 ^ (120 : ℝ) :=
    Real.rpow_le_rpow_of_exponent_le one_le_two (abs_le.mp hsize).2
  set v : ℚ := ⌊w * 2 ^ 200⌋₊ / (2 ^ 200 : Nat) with hv
  have hcut : (v : ℝ) * 2 ^ 200 = ⌊w * 2 ^ 200⌋₊ := by
    rw [hv, Rat.cast_div, Rat.cast_natCast, Rat.cast_natCast, Nat.cast_pow, Nat.cast_ofNat,
      div_mul_cancel₀ _ (by positivity)]
  have hle : (v : ℝ) ≤ w := by
    have hfloor := Nat.floor_le (by positivity : 0 ≤ w * 2 ^ 200)
    rw [← hcut] at hfloor
    exact le_of_mul_le_mul_right hfloor (by positivity)
  have hpower : power x = double.round false ⌊w * 2 ^ 200⌋₊ (2 ^ 200) := by
    rw [power, Nat.cast_pow, Nat.cast_ofNat]
  rw [hpower]
  refine ⟨v, rounds_round false _ (Nat.two_pow_pos 200) ?_ rfl, hcut⟩
  have hreal : (v : ℝ) ≤ (2 ^ 200 : ℚ) := by
    norm_num at hmax ⊢
    linarith
  exact Rat.cast_le.mp hreal

/-- What is cut off, and what is rounded after that, is far less than a billionth. -/
theorem power_close {x : Number} (hsize : |(x.value : ℝ)| ≤ 120) :
    (power x).isFinite = true ∧
      |((power x).value : ℝ) - 2 ^ (x.value : ℝ)| ≤ 2 ^ (x.value : ℝ) / 10 ^ 9 := by
  obtain ⟨v, hrounds, hcut⟩ := exists_power_rounds hsize
  have hmin := Real.rpow_le_rpow_of_exponent_le one_le_two (abs_le.mp hsize).1
  rw [Real.rpow_neg two_pos.le] at hmin
  set w : ℝ := 2 ^ (x.value : ℝ)
  have hwpos : 0 < w := lt_of_lt_of_le (by norm_num) hmin
  have hfloor := Nat.floor_le (by positivity : 0 ≤ w * 2 ^ 200)
  have hfloor' := Nat.lt_floor_add_one (w * 2 ^ 200)
  rw [← hcut] at hfloor hfloor'
  have hclose : |(v : ℝ) - w| ≤ 1 / 2 ^ 200 := by
    rw [abs_le]
    norm_num at hfloor hfloor' ⊢
    constructor <;> linarith
  have hvsize := abs_sub_abs_le_abs_sub (v : ℝ) w
  rw [abs_of_pos hwpos] at hvsize
  have herror := hrounds.abs_cast_sub_le
  have hsum := abs_sub_le ((power x).value : ℝ) v w
  refine ⟨hrounds.isFinite, ?_⟩
  norm_num at herror hclose hmin ⊢
  linarith

/-- A whole power of two is neither cut down nor rounded. -/
theorem power_eq_zpow {x : Number} {k : ℤ} (hvalue : x.value = k) (hk : |k| ≤ 120) :
    (power x).value = 2 ^ k := by
  have hmem := abs_le.mp hk
  have hsize : |(x.value : ℝ)| ≤ 120 := by
    rw [hvalue]
    exact_mod_cast hk
  obtain ⟨v, hrounds, hcut⟩ := exists_power_rounds hsize
  have hwhole : (2 : ℝ) ^ (x.value : ℝ) * 2 ^ 200 = (2 ^ (k + 200).toNat : Nat) := by
    rw [hvalue, Rat.cast_intCast, Real.rpow_intCast, Nat.cast_pow, Nat.cast_ofNat, ← zpow_natCast,
      ← zpow_natCast, ← zpow_add₀ two_ne_zero]
    congr 1
    omega
  rw [hwhole, Nat.floor_natCast, ← hwhole, hvalue, Rat.cast_intCast, Real.rpow_intCast] at hcut
  have hv : v = 2 ^ k := by
    have hreal : (v : ℝ) = ((2 ^ k : ℚ) : ℝ) := by
      push_cast
      exact mul_right_cancel₀ (by positivity) hcut
    exact Rat.cast_injective hreal
  have hleast := double_leastExponent
  rw [hv] at hrounds
  refine hrounds.value_eq ?_
  rw [abs_of_pos (zpow_pos two_pos k)]
  have hone := Format.rounded_of_lt (f := double) (k := 1) (g := k) (by decide) (by omega)
  rwa [Nat.cast_one, one_mul] at hone

/-- There is such a library. -/
theorem double_accurate : AccurateLibrary double.log2 power where
  toAccurateLog := double_log2_accurate
  exp2_near _ _ hsize := power_close (by exact_mod_cast hsize)
  exp2_exact _ _ _ hvalue hk := power_eq_zpow hvalue hk

end Library

/-! ### Notes and whole frequencies -/

section Nearest

variable {T : Tuning} {s : ℤ}

namespace Near

/-- Where a frequency stands among the numbers of the notes. -/
theorem number_near (hT : T.Near) {x : Number} (hx : x.isFinite = true)
    (hlow : 1 / 2 ^ 100 ≤ x.value) (hhigh : x.value ≤ 2 ^ 150) :
    (double.add (double.ofInt Note.concertA) (T.semitones x)).isFinite = true ∧
      |((double.add (double.ofInt Note.concertA) (T.semitones x)).value : ℝ) -
        (69 + position x.value)| < 2 / 10 ^ 5 := by
  obtain ⟨hfinite, hnear⟩ := hT.semitones_near x hx hlow hhigh
  obtain ⟨-, -, -, hlog⟩ := logb_quotient_near hx hlow hhigh
  set y := T.semitones x
  have hlt : Note.concertA.natAbs < 2 ^ 53 := by decide
  have hplace : |position x.value| ≤ 12 * 150 := by
    rw [position, abs_mul, abs_of_pos (by norm_num : (0 : ℝ) < 12)]
    exact mul_le_mul_of_nonneg_left hlog (by norm_num)
  have hsize : |(69 + y.value : ℝ)| ≤ 2000 := by
    have hsum := abs_sub_abs_le_abs_sub (y.value : ℝ) (position x.value)
    have hadd := abs_add_le (69 : ℝ) y.value
    norm_num at hnear hadd
    linarith
  have hvalue : (double.ofInt Note.concertA).value = 69 := value_ofInt hlt
  have hsum := rounds_add (rounds_ofInt_of_lt hlt).isFinite hfinite (by
    have hrat : |69 + y.value| ≤ 2000 := by exact_mod_cast hsize
    rw [hvalue]
    linarith)
  rw [hvalue] at hsum
  have herror := hsum.abs_cast_sub_le
  push_cast at herror
  refine ⟨hsum.isFinite, ?_⟩
  have hadd := abs_sub_le
    ((double.add (double.ofInt Note.concertA) y).value : ℝ) (69 + y.value) (69 + position x.value)
  rw [add_sub_add_left_eq_sub (y.value : ℝ)] at hadd
  norm_num at herror hnear ⊢
  linarith

/-- **A frequency that is clearly nearest to one pitch gets its name.** -/
theorem nearest?_eq (hT : T.Near) {x : Number} (hx : x.isFinite = true)
    (hlow : 1 / 2 ^ 100 ≤ x.value) (hhigh : x.value ≤ 2 ^ 150)
    (hs : |position x.value - s| ≤ 1 / 2 - 2 / 10 ^ 5) :
    T.nearest? x = some (Note.name (Note.concertA + s)) := by
  obtain ⟨hfinite, hnear⟩ := hT.number_near hx hlow hhigh
  have hnearest := Number.nearest?_eq_some hfinite (n := Note.concertA + s) (by
    have hcast : ((Note.concertA + s : ℤ) : ℚ) = 69 + s := by
      rw [Int.cast_add]
      rfl
    have hsum := abs_sub_le
      ((double.add (double.ofInt Note.concertA) (T.semitones x)).value : ℝ)
      (69 + position x.value) (69 + s)
    rw [add_sub_add_left_eq_sub] at hsum
    have hreal : |((double.add (double.ofInt Note.concertA) (T.semitones x)).value : ℝ) -
        (69 + s)| < ((1 / 2 : ℚ) : ℝ) := by
      push_cast
      linarith
    rw [hcast]
    exact_mod_cast hreal)
  rw [nearest?, hnearest, Option.map_some]

end Near

namespace Accurate

/-- Nothing is near to zero. -/
theorem nearest?_zero (hT : T.Accurate) {x : Number} (hx : x.isFinite = true)
    (hzero : x.value = 0) : T.nearest? x = none := by
  have hsum := add_not_isFinite (x := double.ofInt Note.concertA) (hT.semitones_zero x hx hzero)
  rw [nearest?, Number.nearest?_of_not_isFinite hsum, Option.map_none]

/-- **A pitch that is cut down to whole Hz** is the whole part of the exact one. -/
theorem clamp_hertz (hT : T.Accurate) (hlow : -105 ≤ s) (hhigh : s ≤ 66) :
    (T.hertz s).clamp 0 20000 = ⌊frequency s⌋₊ := by
  have hs : |s| ≤ 1300 := abs_le.mpr ⟨by omega, by omega⟩
  obtain ⟨hfinite, hnear⟩ := hT.hertz_near s hs
  have hfrequency := frequency_pos s
  have hpos : (0 : ℝ) < (T.hertz s).value := by
    have hbelow := (abs_le.mp hnear).1
    norm_num at hbelow
    linarith
  have hfloor := floor_eq_floor_frequency hlow hhigh
    (hnear.trans (by norm_num; linarith)) (hT.hertz_exact s hs)
  have hcast : ⌊((T.hertz s).value : ℝ)⌋₊ = ⌊(T.hertz s).value⌋₊ := by
    rw [← Int.floor_toNat, Rat.floor_cast, Int.floor_toNat]
  rw [(Number.is_of_pos hfinite (by exact_mod_cast hpos)).clamp, Nat.zero_max, ← hcast, hfloor,
    Nat.min_eq_left (floor_frequency_le hhigh)]

end Accurate

end Nearest

end Tuning

end CarrierLink
