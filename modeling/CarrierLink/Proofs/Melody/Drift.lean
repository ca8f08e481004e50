import CarrierLink.Proofs.Melody.Editable

/-!
# Showing a melody and sending it back, again and again

What a melody loses when it is shown and sent back, it mostly loses the first time. Durations that
are multiples of five milliseconds stay what they are. A frequency that is the whole part of a pitch
stays what it is if that pitch is the one nearest to it, and from 36 Hz on it is: less than a hertz
is cut off, and half a semitone is more (`CarrierLink.Pitch.nearestTo_wholeHertz`).

Further down, where a semitone is less than two hertz, cutting off may lead to the next pitch below.
Five frequencies go on falling because of that (`CarrierLink.Pitch.drifting`), and all have come to
rest after the third time (`CarrierLink.Melody.resend_settles`).
-/

namespace CarrierLink

open Binary

-- A power is the one of the core library, whatever else is imported.
attribute [local instance (high)] instPowNat

/-! ### Whole frequencies and their pitches in whole numbers -/

namespace Pitch

/-- The pitch nearest to a whole frequency, from the logarithm of `2 · (f / 440) ^ 24`, which is
twice its place among the pitches and one more. -/
def nearestTo (f : Nat) : Int := floorLog (2 * f ^ 24) (440 ^ 24) / 2

/-- The whole part of a pitch, in Hz. -/
def wholeHertz (s : Int) : Nat := root 12 (440 ^ 12 * 2 ^ s.toNat / 2 ^ (-s).toNat)

/-- **What becomes of a whole frequency**: the whole part of the pitch nearest to it. Silence stays
silence. -/
def tuned (f : Nat) : Nat := if f = 0 then 0 else wholeHertz (nearestTo f)

/-- The frequencies, in Hz, that fall by one more the second time. -/
def drifting : List Nat := [11, 14, 21, 22, 26]

theorem nearestTo_mem {f : Nat} (hf : 0 < f) :
    nearestTo f - 1 / 2 ≤ position f ∧ position f < nearestTo f + 1 / 2 := by
  set l := floorLog (2 * f ^ 24) (440 ^ 24) with hl
  set x : ℚ := (2 * f ^ 24 : Nat) / (440 ^ 24 : Nat) with hx
  have hlog : l = Int.log 2 x := floorLog_eq_log (by positivity) (by positivity)
  have hpos : 0 < x := by positivity
  have hreal : (0 : ℝ) < x := by exact_mod_cast hpos
  have hplace : Real.logb 2 x = 1 + 2 * position f := by
    have hratio : (f / 440 : ℝ) ≠ 0 := by positivity
    have hsplit : (x : ℝ) = 2 * (f / 440 : ℝ) ^ 24 := by
      rw [hx]
      push_cast
      ring
    rw [hsplit, Real.logb_mul two_ne_zero (pow_ne_zero _ hratio), Real.logb_pow,
      Real.logb_self_eq_one one_lt_two, position]
    ring
  have hlow : (l : ℝ) ≤ 1 + 2 * position f := by
    have hle : ((2 : ℚ) ^ l : ℚ) ≤ x := hlog ▸ Int.zpow_log_le_self one_lt_two hpos
    rw [← hplace, Real.le_logb_iff_rpow_le one_lt_two hreal, Real.rpow_intCast]
    have hcast := (Rat.cast_le (K := ℝ)).mpr hle
    push_cast at hcast
    exact hcast
  have hhigh : 1 + 2 * position f < (l + 1 : ℤ) := by
    have hlt : x < (2 : ℚ) ^ (l + 1) := hlog ▸ Int.lt_zpow_succ_log_self one_lt_two x
    rw [← hplace, Real.logb_lt_iff_lt_rpow one_lt_two hreal, Real.rpow_intCast]
    have hcast := (Rat.cast_lt (K := ℝ)).mpr hlt
    push_cast at hcast
    exact hcast
  have hhalf : 2 * nearestTo f ≤ l ∧ l + 1 ≤ 2 * nearestTo f + 2 := by
    rw [nearestTo, ← hl]
    omega
  have hbelow : (2 * nearestTo f : ℝ) ≤ l := by exact_mod_cast hhalf.1
  have habove : ((l + 1 : ℤ) : ℝ) ≤ 2 * nearestTo f + 2 := by exact_mod_cast hhalf.2
  constructor <;> linarith

/-- It is the nearest in the sense of distance. -/
theorem nearestTo_eq {f : Nat} (hf : 0 < f) {s : ℤ}
    (hs : ∀ t ≠ s, |position f - s| < |position f - t|) : nearestTo f = s := by
  by_contra hne
  obtain ⟨hlow, hhigh⟩ := nearestTo_mem hf
  have hclose : |position f - nearestTo f| ≤ 1 / 2 := abs_le.mpr ⟨by linarith, by linarith⟩
  have hone : (1 : ℝ) ≤ |(nearestTo f : ℝ) - s| := by
    exact_mod_cast Int.one_le_abs (sub_ne_zero.mpr hne)
  have hsum := abs_sub_le (nearestTo f : ℝ) (position f) s
  rw [abs_sub_comm (nearestTo f : ℝ) (position f)] at hsum
  linarith [hs _ hne]

theorem wholeHertz_eq (s : ℤ) : wholeHertz s = ⌊frequency s⌋₊ := by
  set n := 440 ^ 12 * 2 ^ s.toNat / 2 ^ (-s).toNat with hn
  obtain ⟨hlow, hhigh⟩ := root_mem (by decide : 0 < 12) n
  have hpower : frequency s ^ 12 = (440 ^ 12 * 2 ^ s.toNat : Nat) / (2 ^ (-s).toNat : Nat) := by
    have hpow := frequency_pow one_pos s
    have htwo := congrArg (Rat.cast (K := ℝ)) (two_zpow_eq s)
    push_cast at hpow htwo ⊢
    rw [div_one] at hpow
    rw [hpow, htwo]
    ring
  have hfloor : n = ⌊frequency s ^ 12⌋₊ := by
    rw [hpower, Nat.floor_div_eq_div]
  have hpos := frequency_pos s
  refine (((Nat.floor_eq_iff hpos.le).mpr ⟨?_, ?_⟩).symm : root 12 n = _)
  · refine (pow_le_pow_iff_left₀ (Nat.cast_nonneg _) hpos.le (by decide : 12 ≠ 0)).mp ?_
    have hle := (Nat.le_floor_iff (by positivity)).mp (hlow.trans hfloor.le)
    exact_mod_cast hle
  · refine (pow_lt_pow_iff_left₀ hpos.le (by positivity) (by decide : 12 ≠ 0)).mp ?_
    have hlt := (Nat.floor_lt (by positivity)).mp (hfloor.ge.trans_lt hhigh)
    exact_mod_cast hlt

/-- **A pitch from 36 Hz on is the one nearest to its whole part.** -/
theorem nearestTo_wholeHertz {s : ℤ} (hlow : -43 ≤ s) (hhigh : s ≤ 66) :
    nearestTo (wholeHertz s) = s := by
  have hall : ∀ j < 110, nearestTo (wholeHertz ((j : Nat) - 43)) = (j : Nat) - 43 := by
    decide +kernel
  have hs := hall (s + 43).toNat (by omega)
  rwa [Int.toNat_of_nonneg (by omega), add_sub_cancel_right] at hs

/-- Higher frequencies have higher nearest pitches. -/
theorem nearestTo_mono {f g : Nat} (hf : 0 < f) (h : f ≤ g) : nearestTo f ≤ nearestTo g := by
  obtain ⟨hlow, -⟩ := nearestTo_mem hf
  obtain ⟨-, hhigh⟩ := nearestTo_mem (hf.trans_le h)
  have hplace : position f ≤ position g := by
    rcases h.eq_or_lt with rfl | hlt
    · exact le_rfl
    · exact (position_lt_position (by exact_mod_cast hf) (by exact_mod_cast hlt)).le
  have hlt : (nearestTo f : ℝ) < (nearestTo g + 1 : ℤ) := by
    push_cast
    linarith
  exact Int.lt_add_one_iff.mp (by exact_mod_cast hlt)

/-- From 1 Hz to 20000 Hz there are no others. -/
theorem nearestTo_le {f : Nat} (hpos : 0 < f) (hf : f ≤ 20000) : -105 ≤ nearestTo f ∧ nearestTo f ≤ 66 := by
  have hlow : nearestTo 1 ≤ nearestTo f := nearestTo_mono one_pos hpos
  have hhigh : nearestTo f ≤ nearestTo 20000 := nearestTo_mono hpos hf
  have hlowest : nearestTo 1 = -105 := by decide
  have hhighest : nearestTo 20000 = 66 := by decide
  omega

theorem tuned_le {f : Nat} (hf : f ≤ 20000) : tuned f ≤ 20000 := by
  rcases Nat.eq_zero_or_pos f with rfl | hpos
  · decide
  · rw [tuned, if_neg hpos.ne', wholeHertz_eq]
    exact floor_frequency_le (nearestTo_le hpos hf).2

/-- **The second time a frequency stays**, or is one of five. -/
theorem tuned_tuned {f : Nat} (hf : f ≤ 20000) :
    tuned (tuned f) = if f ∈ drifting then tuned f - 1 else tuned f := by
  rcases Nat.lt_or_ge f 36 with hsmall | hlarge
  · have hall : ∀ f < 36, tuned (tuned f) = if f ∈ drifting then tuned f - 1 else tuned f := by
      decide
    exact hall f hsmall
  · have hlow : nearestTo 36 ≤ nearestTo f := nearestTo_mono (by decide) hlarge
    have hlowest : nearestTo 36 = -43 := by decide
    obtain ⟨-, hhigh⟩ := nearestTo_le (by omega) hf
    have hne : f ∉ drifting := fun hmem => by
      have hall : ∀ g ∈ drifting, g < 36 := by decide
      exact absurd (hall f hmem) (by omega)
    have hpos : tuned f ≠ 0 := by
      rw [tuned, if_neg (by omega), wholeHertz_eq]
      have hone := one_le_floor_frequency (s := nearestTo f) (by omega)
      omega
    have htuned : tuned f = wholeHertz (nearestTo f) := if_neg (by omega)
    rw [if_neg hne, tuned, if_neg hpos, htuned, nearestTo_wholeHertz (by omega) (by omega)]

/-- **From the third time on every frequency stays.** -/
theorem tuned_settles {f : Nat} (hf : f ≤ 20000) :
    tuned (tuned (tuned (tuned f))) = tuned (tuned (tuned f)) := by
  by_cases hmem : f ∈ drifting
  · have hall : ∀ g ∈ drifting, tuned (tuned (tuned (tuned g))) = tuned (tuned (tuned g)) := by
      decide
    exact hall f hmem
  · have hsame := tuned_tuned hf
    rw [if_neg hmem] at hsame
    rw [hsame, hsame, hsame]

end Pitch

/-! ### Tones -/

namespace Melody

namespace Step

/-- **A tone that has been shown and sent back**, as a function of what it was. -/
def resent (step : Step) : Step :=
  ⟨UInt16.ofNat (Pitch.tuned step.frequency.toNat),
    UInt16.ofNat (max 1 (5 * ((step.duration.toNat + 2) / 5)))⟩

theorem Shown.eq_resent {step shown : Step} (h : step.Shown shown) : shown = step.resent := by
  have hfrequency : shown.frequency.toNat = Pitch.tuned step.frequency.toNat := by
    by_cases hsilent : step.frequency = 0
    · rw [h.silent hsilent, hsilent]
      rfl
    · have hpos : 0 < step.frequency.toNat :=
        Nat.pos_of_ne_zero fun hzero => hsilent (UInt16.toNat_inj.mp hzero)
      obtain ⟨-, s, hnearest, hfloor⟩ := h.pitch hsilent
      rw [hfloor, Pitch.tuned, if_neg hpos.ne', Pitch.nearestTo_eq hpos hnearest,
        Pitch.wholeHertz_eq]
  have hduration : shown.duration.toNat = max 1 (5 * ((step.duration.toNat + 2) / 5)) := by
    obtain ⟨k, hnearest, hshown⟩ := h.duration
    have hnear := hnearest ((step.duration.toNat + 2) / 5 : Nat)
    have hle : |(step.duration.toNat - 5 * ((step.duration.toNat + 2) / 5 : Nat) : ℤ)| ≤ 2 :=
      abs_le.mpr (by omega)
    have hk := abs_le.mp (hnear.trans hle)
    omega
  rw [resent, ← hfrequency, ← hduration, UInt16.ofNat_toNat, UInt16.ofNat_toNat]

theorem toNat_frequency_resent {step : Step} (h : step.InBounds) :
    step.resent.frequency.toNat = Pitch.tuned step.frequency.toNat := by
  have hle := Pitch.tuned_le h.frequency_le
  exact UInt16.toNat_ofNat_of_lt' (by simp only [UInt16.size]; omega)

theorem toNat_duration_resent {step : Step} (h : step.InBounds) :
    step.resent.duration.toNat = max 1 (5 * ((step.duration.toNat + 2) / 5)) := by
  have hle := h.duration_le
  rw [maxDuration] at hle
  exact UInt16.toNat_ofNat_of_lt' (by simp only [UInt16.size]; omega)

theorem InBounds.resent {step : Step} (h : step.InBounds) : step.resent.InBounds := by
  have hle := h.duration_le
  rw [maxDuration] at hle
  constructor
  · rw [toNat_frequency_resent h]
    exact Pitch.tuned_le h.frequency_le
  · rw [toNat_duration_resent h]
    exact Nat.le_max_left 1 _
  · rw [toNat_duration_resent h, maxDuration]
    omega

/-- A duration is rounded once. -/
theorem duration_resent_resent {step : Step} (h : step.InBounds) :
    step.resent.resent.duration = step.resent.duration := by
  rw [← UInt16.toNat_inj, toNat_duration_resent h.resent, toNat_duration_resent h]
  omega

theorem eq_of_fields {step other : Step} (hfrequency : step.frequency = other.frequency)
    (hduration : step.duration = other.duration) : step = other := by
  cases step
  cases other
  exact congrArg₂ Step.mk hfrequency hduration

/-- The tones that will fall on fall by one the first time. -/
theorem toNat_frequency_resent_of_drifting {step : Step} (h : step.InBounds)
    (hmem : step.frequency.toNat ∈ Pitch.drifting) :
    step.resent.frequency.toNat + 1 = step.frequency.toNat := by
  have hall : ∀ f ∈ Pitch.drifting, Pitch.tuned f + 1 = f := by decide
  rw [toNat_frequency_resent h, hall _ hmem]

/-- **The second time a tone stays**, unless it is one of those that fall on. -/
theorem resent_resent {step : Step} (h : step.InBounds) :
    step.resent.resent = if step.frequency.toNat ∈ Pitch.drifting then
      { step.resent with frequency := step.resent.frequency - 1 } else step.resent := by
  have hfrequency := Pitch.tuned_tuned h.frequency_le
  rw [← toNat_frequency_resent h, ← toNat_frequency_resent h.resent] at hfrequency
  by_cases hmem : step.frequency.toNat ∈ Pitch.drifting
  · have hall : ∀ f ∈ Pitch.drifting, 2 ≤ f := by decide
    have hone : (1 : UInt16) ≤ step.resent.frequency := by
      have hfall := toNat_frequency_resent_of_drifting h hmem
      have htwo := hall _ hmem
      rw [UInt16.le_iff_toNat_le, UInt16.toNat_one]
      omega
    have hsub : (step.resent.frequency - 1).toNat = step.resent.frequency.toNat - 1 :=
      UInt16.toNat_sub_of_le _ _ hone
    rw [if_pos hmem] at hfrequency ⊢
    exact eq_of_fields (UInt16.toNat_inj.mp (hfrequency.trans hsub.symm)) (duration_resent_resent h)
  · rw [if_neg hmem] at hfrequency ⊢
    exact eq_of_fields (UInt16.toNat_inj.mp hfrequency) (duration_resent_resent h)

theorem resent_resent_eq_iff {step : Step} (h : step.InBounds) :
    step.resent.resent = step.resent ↔ step.frequency.toNat ∉ Pitch.drifting := by
  constructor
  · intro hsame hmem
    have hall : ∀ f ∈ Pitch.drifting, Pitch.tuned (Pitch.tuned f) ≠ Pitch.tuned f := by
      decide
    refine hall _ hmem ?_
    rw [← toNat_frequency_resent h, ← toNat_frequency_resent h.resent, hsame]
  · intro hmem
    rw [resent_resent h, if_neg hmem]

/-- **The third time every tone stays.** -/
theorem resent_settles {step : Step} (h : step.InBounds) :
    step.resent.resent.resent.resent = step.resent.resent.resent := by
  refine eq_of_fields (UInt16.toNat_inj.mp ?_) (duration_resent_resent h.resent.resent)
  rw [toNat_frequency_resent h.resent.resent.resent, toNat_frequency_resent h.resent.resent,
    toNat_frequency_resent h.resent, toNat_frequency_resent h,
    Pitch.tuned_settles h.frequency_le]

end Step

/-! ### Melodies -/

/-- A melody that is shown and sent back. -/
def resend (melody : Melody) : Except MelodyError Melody := parse (editable melody.wireText)

end Melody

/-- A melody that is shown and sent back, in a tuning. -/
def Tuning.resend (T : Tuning) (melody : Melody) : Except MelodyError Melody :=
  T.parse (T.editable melody.wireText)

theorem Tuning.standard_resend : standard.resend = Melody.resend := rfl

namespace Melody

/-- **Every accurate tuning sends back the same melody**, tone by tone. -/
theorem exists_resent {melody : Melody} (h : ∀ step ∈ melody.steps, step.InBounds) :
    ∃ once : Melody, once.steps = melody.steps.map Step.resent ∧
      ∀ T : Tuning, T.Accurate → T.resend melody = .ok once := by
  obtain ⟨once, hshown, hread⟩ := exists_shown h
  refine ⟨once, ?_, hread⟩
  rw [← List.forall₂_eq_eq_eq, List.forall₂_map_right_iff]
  exact (hshown.imp fun _ _ hstep => hstep.eq_resent).flip

theorem inBounds_resent {melody once : Melody} (h : ∀ step ∈ melody.steps, step.InBounds)
    (honce : once.steps = melody.steps.map Step.resent) : ∀ step ∈ once.steps, step.InBounds := by
  rw [honce]
  exact List.forall_mem_map.mpr fun step hstep => (h step hstep).resent

/-- **A melody comes to rest.** A melody within the bounds of an operator is shown and sent back
again and again.

The second time it stays what it has become the first time, except for its tones of 11, 14, 21, 22
and 26 Hz. These fall by one the first time, and by one more the second time; everything else about
them stays then. From the third time on the whole melody stays.

This is so with the logarithm and the pitches in use, and any library whose logarithm and powers of
two are right to nine digits, and whose whole powers of two are exact, gives the same melodies. -/
theorem resend_settles {melody : Melody}
    (h : ∀ step ∈ melody.steps,
      step.frequency ≤ 20000 ∧ 1 ≤ step.duration ∧ step.duration ≤ 1000) :
    ∃ once twice settled : Melody,
      (twice = once ↔
        ∀ step ∈ melody.steps, step.frequency.toNat ∉ [11, 14, 21, 22, 26]) ∧
      List.Forall₂ (fun step shown => step.frequency.toNat ∈ [11, 14, 21, 22, 26] →
        shown.frequency.toNat + 1 = step.frequency.toNat) melody.steps once.steps ∧
      twice.steps = List.zipWith
        (fun step shown => if step.frequency.toNat ∈ [11, 14, 21, 22, 26] then
          { shown with frequency := shown.frequency - 1 } else shown)
        melody.steps once.steps ∧
      (resend melody = .ok once ∧ resend once = .ok twice ∧ resend twice = .ok settled ∧
        resend settled = .ok settled) ∧
      ∀ log2 exp2, Tuning.AccurateLibrary log2 exp2 →
        (Tuning.ofLibrary log2 exp2).resend melody = .ok once ∧
        (Tuning.ofLibrary log2 exp2).resend once = .ok twice ∧
        (Tuning.ofLibrary log2 exp2).resend twice = .ok settled ∧
        (Tuning.ofLibrary log2 exp2).resend settled = .ok settled := by
  have hbounds : ∀ step ∈ melody.steps, step.InBounds := fun step hstep =>
    (Step.inBounds_iff step).mpr (h step hstep)
  obtain ⟨once, honce, hreadonce⟩ := exists_resent hbounds
  have hbounds' := inBounds_resent hbounds honce
  obtain ⟨twice, htwice, hreadtwice⟩ := exists_resent hbounds'
  have hbounds'' := inBounds_resent hbounds' htwice
  obtain ⟨settled, hsettled, hreadsettled⟩ := exists_resent hbounds''
  obtain ⟨last, hlast, hreadlast⟩ := exists_resent (inBounds_resent hbounds'' hsettled)
  rw [honce, List.map_map] at htwice
  rw [htwice, List.map_map] at hsettled
  rw [hsettled, List.map_map] at hlast
  obtain rfl : last = settled := by
    refine eq_of_steps (hlast.trans (hsettled.symm ▸ List.map_congr_left fun step hstep => ?_))
    exact Step.resent_settles (hbounds step hstep)
  have hread (T : Tuning) (hT : T.Accurate) : T.resend melody = .ok once ∧
      T.resend once = .ok twice ∧ T.resend twice = .ok last ∧ T.resend last = .ok last :=
    ⟨hreadonce T hT, hreadtwice T hT, hreadsettled T hT, hreadlast T hT⟩
  have hstandard := hread Tuning.standard Tuning.standard_accurate
  rw [Tuning.standard_resend] at hstandard
  refine ⟨once, twice, last, ⟨fun hsame step hstep => ?_, fun hstay => eq_of_steps ?_⟩, ?_, ?_,
    hstandard, fun log2 exp2 hlibrary => hread _ (Tuning.ofLibrary_accurate hlibrary)⟩
  · rw [hsame, honce] at htwice
    exact (Step.resent_resent_eq_iff (hbounds step hstep)).mp
      (List.map_inj_left.mp htwice step hstep).symm
  · rw [htwice, honce]
    exact List.map_congr_left fun step hstep =>
      (Step.resent_resent_eq_iff (hbounds step hstep)).mpr (hstay step hstep)
  · rw [honce, List.forall₂_map_right_iff, List.forall₂_same]
    exact fun step hstep => Step.toNat_frequency_resent_of_drifting (hbounds step hstep)
  · rw [htwice, honce, List.zipWith_map_right, List.zipWith_self]
    exact List.map_congr_left fun step hstep => Step.resent_resent (hbounds step hstep)

/-- A tone that falls on twice, one that falls on once, and one that stays from the first time. -/
theorem resend_settles_of_three_tones :
    ∃ melody once twice settled : Melody,
      melody.steps = [⟨22, 500⟩, ⟨11, 33⟩, ⟨440, 998⟩] ∧
      once.steps = [⟨21, 500⟩, ⟨10, 35⟩, ⟨440, 1000⟩] ∧
      twice.steps = [⟨20, 500⟩, ⟨9, 35⟩, ⟨440, 1000⟩] ∧
      resend melody = .ok once ∧ resend once = .ok twice ∧ resend twice = .ok settled ∧
      (Tuning.ofLibrary double.log2 Tuning.power).resend settled = .ok settled := by
  let melody : Melody := ⟨[⟨22, 500⟩, ⟨11, 33⟩, ⟨440, 998⟩], by decide, by decide⟩
  obtain ⟨once, twice, settled, -, -, htwice, ⟨honce, hread, hread', -⟩, hlibrary⟩ :=
    @resend_settles melody (by decide)
  obtain ⟨-, -, -, hrest⟩ := hlibrary double.log2 Tuning.power Tuning.double_accurate
  have hsteps : once.steps = [⟨21, 500⟩, ⟨10, 35⟩, ⟨440, 1000⟩] := by
    have hvalue : (resend melody).map Melody.steps =
        .ok [⟨21, 500⟩, ⟨10, 35⟩, ⟨440, 1000⟩] := by decide +kernel
    rw [honce] at hvalue
    exact Except.ok.inj hvalue
  refine ⟨melody, once, twice, settled, rfl, hsteps, ?_, honce, hread, hread', hrest⟩
  rw [htwice, hsteps]
  decide

/-- **Showing a melody and sending it back a second time may change it again.** -/
theorem resend_drifts :
    ∃ melody once twice : Melody,
      melody.steps = [⟨11, 500⟩] ∧ once.steps = [⟨10, 500⟩] ∧ twice.steps = [⟨9, 500⟩] ∧
      resend melody = .ok once ∧ resend once = .ok twice ∧
      ∀ log2 exp2, Tuning.AccurateLibrary log2 exp2 →
        (Tuning.ofLibrary log2 exp2).resend melody = .ok once ∧
        (Tuning.ofLibrary log2 exp2).resend once = .ok twice := by
  obtain ⟨melody, hmelody⟩ : ∃ melody : Melody, melody.steps = [⟨11, 500⟩] :=
    ⟨⟨_, by decide, by decide⟩, rfl⟩
  have hbounds : ∀ step ∈ melody.steps, step.InBounds := fun step hstep =>
    (Step.inBounds_iff step).mpr (by
      rw [hmelody] at hstep
      obtain rfl := List.mem_singleton.mp hstep
      decide)
  obtain ⟨once, honce, hread⟩ := exists_resent hbounds
  obtain ⟨twice, htwice, hread'⟩ := exists_resent (inBounds_resent hbounds honce)
  have hfirst : ([⟨11, 500⟩] : List Step).map Step.resent = [⟨10, 500⟩] := by decide
  have hsecond : ([⟨10, 500⟩] : List Step).map Step.resent = [⟨9, 500⟩] := by decide
  rw [hmelody, hfirst] at honce
  rw [honce, hsecond] at htwice
  have hstandard := hread Tuning.standard Tuning.standard_accurate
  have hstandard' := hread' Tuning.standard Tuning.standard_accurate
  rw [Tuning.standard_resend] at hstandard hstandard'
  refine ⟨melody, once, twice, hmelody, honce, htwice, hstandard, hstandard',
    fun log2 exp2 hlibrary => ?_⟩
  have haccurate := Tuning.ofLibrary_accurate hlibrary
  exact ⟨hread _ haccurate, hread' _ haccurate⟩

end Melody

end CarrierLink
