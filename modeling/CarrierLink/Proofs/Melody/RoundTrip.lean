import CarrierLink.Proofs.Except
import CarrierLink.Proofs.Melody.Multiplier

/-!
# Melodies as operator text

A melody is shown as operator text and read back. A tone comes back with its frequency and
its duration brought within the bounds of an operator (`CarrierLink.Melody.Step.parse_text`),
and so does a melody, tone by tone (`CarrierLink.Melody.parse_text`). A melody is therefore
the same after the round trip exactly if it was within the bounds before
(`CarrierLink.Melody.round_trip`), and what has been read always is.
-/

namespace CarrierLink.Melody

open Binary Numeral

theorem isWord_decimal (n : Nat) : Text.IsWord (decimal n) :=
  ⟨Nat.toDigits_ne_nil, fun _ hc => Text.isBlank_of_isDigit (isDigit_of_mem_decimal hc)⟩

/-! ### Tones -/

namespace Step

/-- **Within the bounds of an operator.** -/
structure InBounds (step : Step) : Prop where
  frequency_le : step.frequency.toNat ≤ maxFrequency
  le_duration : minDuration ≤ step.duration.toNat
  duration_le : step.duration.toNat ≤ maxDuration

/-- A tone brought within the bounds. -/
def bounded (step : Step) : Step :=
  ⟨UInt16.ofNat (min step.frequency.toNat maxFrequency),
    UInt16.ofNat (max minDuration (min step.duration.toNat maxDuration))⟩

theorem inBounds_mk {frequency duration : Nat} (hfrequency : frequency ≤ maxFrequency)
    (hlow : minDuration ≤ duration) (hhigh : duration ≤ maxDuration) :
    InBounds ⟨UInt16.ofNat frequency, UInt16.ofNat duration⟩ := by
  simp only [maxFrequency, maxDuration] at hfrequency hhigh
  have hfrequency' : (UInt16.ofNat frequency).toNat = frequency :=
    UInt16.toNat_ofNat_of_lt' (by simp only [UInt16.size]; omega)
  have hduration' : (UInt16.ofNat duration).toNat = duration :=
    UInt16.toNat_ofNat_of_lt' (by simp only [UInt16.size]; omega)
  exact ⟨by rwa [hfrequency'], by rwa [hduration'], by rwa [hduration']⟩

theorem inBounds_bounded (step : Step) : step.bounded.InBounds :=
  inBounds_mk (Nat.min_le_right _ _) (Nat.le_max_left _ _)
    (Nat.max_le_of_le_of_le (by decide) (Nat.min_le_right _ _))

theorem InBounds.bounded_eq {step : Step} (h : step.InBounds) : step.bounded = step := by
  rw [bounded, Nat.min_eq_left h.frequency_le, Nat.min_eq_left h.duration_le,
    Nat.max_eq_right h.le_duration, UInt16.ofNat_toNat, UInt16.ofNat_toNat]

theorem toList_entry (note text : String) :
    (entry note (some text)).toList = note.toList ++ separator :: text.toList := by
  change (note ++ "@" ++ text).toList = _
  simp [separator]

theorem toList_text (step : Step) :
    step.text.toList = decimal step.frequency.toNat ++
      if step.hasUnitDuration then [] else separator :: exactText step.duration.toNat := by
  have hnote := toList_toString step.frequency.toNat
  rw [text, multiplier?_exactPlaces, hasUnitDuration]
  split
  · next hunit => simpa [hunit, entry] using hnote
  · next hunit => rw [toList_entry, hnote, String.toList_ofList, if_neg (by simpa using hunit)]

theorem separator_notMem_decimal (n : Nat) : separator ∉ decimal n := fun hmem =>
  absurd (isDigit_of_mem_decimal hmem) (by decide)

/-- **A tone is shown with a multiplier unless it has the unit duration.** -/
theorem separator_mem_text_iff (step : Step) :
    separator ∈ step.text.toList ↔ step.hasUnitDuration = false := by
  rw [toList_text]
  cases step.hasUnitDuration <;> simp [separator_notMem_decimal]

theorem isWord_text (step : Step) : Text.IsWord step.text.toList := by
  rw [toList_text]
  refine (isWord_decimal _).append ?_
  cases step.hasUnitDuration with
  | true => exact fun c hc => absurd hc List.not_mem_nil
  | false => exact List.forall_mem_cons.mpr ⟨by decide, (isWord_exactText _).2⟩

/-- Frequencies are whole numbers that a double holds exactly. -/
theorem readFrequency_decimal (token : List Char) {n : Nat} (hn : n < 2 ^ 16) :
    readFrequency token (decimal n) = .ok (min n maxFrequency) := by
  have htrim := Text.trim_eq_self (isWord_decimal n).2
  have hne : (decimal n).isEmpty = false := by simp [decimal]
  obtain ⟨x, hread, hx⟩ := Decimal.exists_finite?_decimal (by omega : n < 2 ^ 53)
  simp only [readFrequency, htrim, hne, hread]
  change Except.ok (x.clamp 0 maxFrequency) = _
  rw [hx.clamp, Nat.floor_natCast, Nat.zero_max]

/-- **A tone is read back from its text**, brought within the bounds. -/
theorem parse_text (step : Step) : parse step.text.toList = .ok step.bounded := by
  have hcut : Text.cut separator step.text.toList = (decimal step.frequency.toNat,
      if step.hasUnitDuration then none else some (exactText step.duration.toNat)) := by
    rw [toList_text]
    split
    · rw [List.append_nil, Text.cut_of_notMem (separator_notMem_decimal _)]
    · rw [Text.cut_append_cons (separator_notMem_decimal _)]
  have hduration : readDuration
      (if step.hasUnitDuration then none else some (exactText step.duration.toNat)) =
        .ok (max minDuration (min step.duration.toNat maxDuration)) := by
    split
    · next hunit =>
      rw [hasUnitDuration, beq_iff_eq] at hunit
      rw [hunit]
      rfl
    · exact readDuration_exactText step.duration.toNat_lt
  rw [parse, hcut]
  simp only [readFrequency_decimal _ step.frequency.toNat_lt, hduration]
  rfl

theorem readFrequency_le {token note : List Char} {frequency : Nat}
    (h : readFrequency token note = .ok frequency) : frequency ≤ maxFrequency := by
  simp only [readFrequency] at h
  split at h
  · exact absurd h (by simp)
  · split at h
    · next hertz _ =>
      obtain rfl := Except.ok.inj h
      exact (Number.clamp_mem (Nat.zero_le _) hertz).2
    · exact absurd h (by simp)

theorem readDuration_mem {multiplier : Option (List Char)} {duration : Nat}
    (h : readDuration multiplier = .ok duration) :
    minDuration ≤ duration ∧ duration ≤ maxDuration := by
  rw [readDuration] at h
  split at h
  · obtain rfl := Except.ok.inj h
    decide
  · obtain rfl := Except.ok.inj h
    decide
  · split at h
    · obtain rfl := Except.ok.inj h
      exact Number.clamp_mem (by decide) _
    · exact absurd h (by simp)

theorem inBounds_of_parse {token : List Char} {step : Step} (h : parse token = .ok step) :
    step.InBounds := by
  obtain ⟨frequency, hfrequency, h⟩ := exists_of_bind_eq_ok h
  obtain ⟨duration, hduration, h⟩ := exists_of_bind_eq_ok h
  obtain rfl := Except.ok.inj h
  obtain ⟨hlow, hhigh⟩ := readDuration_mem hduration
  exact inBounds_mk (readFrequency_le hfrequency) hlow hhigh

end Step

/-! ### Melodies -/

theorem words_text (melody : Melody) :
    Text.words melody.text.toList = melody.steps.map fun step => step.text.toList :=
  Text.words_unwords_map fun step _ => step.isWord_text

/-- **A melody is read back from its text**, with every tone brought within the bounds. -/
theorem parse_text (melody : Melody) :
    parse melody.text = ofSteps (melody.steps.map Step.bounded) := by
  have hread : readSteps melody.text = .ok (melody.steps.map Step.bounded) := by
    have htake : (melody.steps.map fun step => step.text.toList).take maxSteps =
        melody.steps.map fun step => step.text.toList :=
      List.take_of_length_le (by simpa using melody.length_le)
    rw [readSteps, words_text, htake, mapM_map_eq_ok Step.parse_text]
  rw [parse, hread]
  rfl

theorem ofSteps_steps (melody : Melody) : ofSteps melody.steps = .ok melody := by
  rw [ofSteps, dif_neg melody.ne_nil, dif_pos melody.length_le]

theorem steps_of_ofSteps {steps : List Step} {melody : Melody} (h : ofSteps steps = .ok melody) :
    melody.steps = steps := by
  rw [ofSteps] at h
  split at h
  · exact absurd h (by simp)
  · split at h
    · obtain rfl := Except.ok.inj h
      rfl
    · exact absurd h (by simp)

theorem parse_text_iff (melody : Melody) :
    parse melody.text = .ok melody ↔ ∀ step ∈ melody.steps, step.InBounds := by
  rw [parse_text]
  constructor
  · intro h step hstep
    rw [steps_of_ofSteps h] at hstep
    obtain ⟨step', -, rfl⟩ := List.mem_map.mp hstep
    exact step'.inBounds_bounded
  · intro h
    have hsame : melody.steps.map Step.bounded = melody.steps :=
      List.map_congr_left (fun step hstep => (h step hstep).bounded_eq) |>.trans (List.map_id _)
    rw [hsame, ofSteps_steps]

theorem inBounds_of_parse {input : String} {melody : Melody} (h : parse input = .ok melody) :
    ∀ step ∈ melody.steps, step.InBounds := by
  obtain ⟨steps, hread, hsteps⟩ := exists_of_bind_eq_ok h
  rw [steps_of_ofSteps hsteps]
  intro step hstep
  obtain ⟨token, -, htoken⟩ := exists_of_forall₂_right (forall₂_of_mapM hread) hstep
  exact Step.inBounds_of_parse htoken

theorem Step.inBounds_iff (step : Step) :
    step.InBounds ↔ step.frequency ≤ 20000 ∧ 1 ≤ step.duration ∧ step.duration ≤ 1000 := by
  rw [UInt16.le_iff_toNat_le, UInt16.le_iff_toNat_le, UInt16.le_iff_toNat_le]
  exact ⟨fun h => ⟨h.frequency_le, h.le_duration, h.duration_le⟩, fun h => ⟨h.1, h.2.1, h.2.2⟩⟩

theorem Step.hasUnitDuration_eq_false_iff (step : Step) :
    step.hasUnitDuration = false ↔ step.duration ≠ 500 := by
  rw [hasUnitDuration, beq_eq_false_iff_ne, Ne, Ne, ← UInt16.toNat_inj]
  rfl

/-- **The round trip of a melody.** A melody is read back from its text exactly if all of its
tones are within the bounds of an operator, and so is whatever has been read before. The
text has one word for each tone, and a word has a multiplier unless the tone has the unit
duration. -/
theorem round_trip :
    (∀ steps : List Step, 1 ≤ steps.length → steps.length ≤ 100 →
      ∃ melody, ofSteps steps = .ok melody ∧
        (parse melody.text = .ok melody ↔
          ∀ step ∈ steps, step.frequency ≤ 20000 ∧ 1 ≤ step.duration ∧ step.duration ≤ 1000)) ∧
    (∀ input melody, parse input = .ok melody → parse melody.text = .ok melody) ∧
    (∀ melody : Melody,
      Text.words melody.text.toList = melody.steps.map fun step => step.text.toList) ∧
    ∀ step : Step, '@' ∈ step.text.toList ↔ step.duration ≠ 500 := by
  refine ⟨fun steps hpos hle => ?_, fun input melody h => ?_, words_text, fun step => ?_⟩
  · have hne : steps ≠ [] := List.ne_nil_of_length_pos hpos
    refine ⟨⟨steps, hne, hle⟩, ofSteps_steps ⟨steps, hne, hle⟩, ?_⟩
    simp only [← Step.inBounds_iff]
    exact parse_text_iff ⟨steps, hne, hle⟩
  · exact (parse_text_iff melody).mpr (inBounds_of_parse h)
  · exact step.separator_mem_text_iff.trans step.hasUnitDuration_eq_false_iff

theorem round_trip_of_two_tones :
    (∃ melody, ofSteps [⟨440, 500⟩, ⟨523, 33⟩] = .ok melody ∧ parse melody.text = .ok melody) ∧
    ∃ melody, parse "440.7 30000@0.066" = .ok melody ∧ parse melody.text = .ok melody := by
  obtain ⟨hsteps, hinput, -⟩ := round_trip
  constructor
  · obtain ⟨melody, hof, hiff⟩ := hsteps [⟨440, 500⟩, ⟨523, 33⟩] (by decide) (by decide)
    exact ⟨melody, hof, hiff.mpr (by decide)⟩
  · have hread : (parse "440.7 30000@0.066").toOption.isSome = true := by decide +kernel
    cases hmelody : parse "440.7 30000@0.066" with
    | ok melody => exact ⟨melody, rfl, hinput _ melody hmelody⟩
    | error e => exact absurd hread (by simp [hmelody, Except.toOption])

end CarrierLink.Melody
