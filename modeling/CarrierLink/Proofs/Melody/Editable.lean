import CarrierLink.Proofs.Melody.WireText
import CarrierLink.Proofs.Note
import CarrierLink.Proofs.Tuning

/-!
# What becomes of a melody that is shown and sent back

The board's text is shown with note names and with multipliers of two decimals, and both lose
something. Sent back unchanged, a tone has the frequency of the note that was nearest to it, cut
down to whole Hz, and its duration is the nearest multiple of five milliseconds, or a millisecond
(`CarrierLink.Melody.Step.Shown`). Nothing worse happens to it
(`CarrierLink.Melody.parse_editable_wireText`): the name of the note is read as a note and not as a
number, low octaves with their minus sign included, and a multiplier that is left out was one.

All of this is said for every accurate tuning at once, and they all agree.
-/

namespace CarrierLink

open Binary Numeral Melody

-- A power is the one of the core library, whatever else is imported.
attribute [local instance (high)] instPowNat

/-! ### Melodies in a tuning -/

namespace Tuning

variable (T : Tuning)

/-- The note of a frequency that is written as a number; the number itself if there is none. -/
def noteText (frequency : List Char) : String :=
  ((Decimal.number? frequency).bind T.nearest?).getD (String.ofList frequency)

/-- One word of board text made editable. -/
def editableEntry (word : List Char) : String :=
  let (frequency, duration) := Text.cut separator word
  entry (T.noteText frequency)
    ((duration.bind (unsigned? (2 ^ (16 : Nat)))).bind (multiplier? editablePlaces))

/-- Board text as the operator edits it. -/
def editable (wire : String) : String :=
  Text.unwords ((Text.words wire.toList).map T.editableEntry)

/-- The frequency that a note stands for. -/
def readFrequency (token note : List Char) : Except MelodyError Nat :=
  let note := Text.trim note
  if note.isEmpty then .error (.missingNote (String.ofList token))
  else
    match (Decimal.finite? note).or (T.frequency? note) with
    | some hertz => .ok (hertz.clamp 0 maxFrequency)
    | none => .error (.invalidNote (String.ofList note))

/-- Reads one word of operator text. -/
def parseStep (token : List Char) : Except MelodyError Step := do
  let (note, multiplier) := Text.cut separator token
  let frequency ← T.readFrequency token note
  let duration ← Step.readDuration multiplier
  return ⟨UInt16.ofNat frequency, UInt16.ofNat duration⟩

/-- Reads operator text. -/
def parse (input : String) : Except MelodyError Melody :=
  ((Text.words input.toList).take maxSteps).mapM T.parseStep >>= ofSteps

theorem standard_editable : standard.editable = Melody.editable := rfl

theorem standard_parse : standard.parse = Melody.parse := rfl

variable {T}

/-! ### Entries that are written and read -/

theorem isWord_entry {note : String} {multiplier : Option String}
    (hnote : Text.IsWord note.toList) (hmultiplier : ∀ text ∈ multiplier, Text.IsWord text.toList) :
    Text.IsWord (entry note multiplier).toList := by
  cases multiplier with
  | none => exact hnote
  | some text =>
    rw [Step.toList_entry]
    exact hnote.append (List.forall_mem_cons.mpr ⟨by decide, (hmultiplier text rfl).2⟩)

/-- An entry falls apart into the note and the multiplier that it was made from. -/
theorem cut_entry {note : String} (hnote : separator ∉ note.toList) (multiplier : Option String) :
    Text.cut separator (entry note multiplier).toList =
      (note.toList, multiplier.map String.toList) := by
  cases multiplier with
  | none => exact Text.cut_of_notMem hnote
  | some text => rw [Step.toList_entry, Text.cut_append_cons hnote]; rfl

/-- An entry is read when its note and its multiplier are. -/
theorem parseStep_entry {note : String} (hnote : separator ∉ note.toList)
    {multiplier : Option String} {frequency duration : Nat}
    (hfrequency : ∀ token, T.readFrequency token note.toList = .ok frequency)
    (hduration : Step.readDuration (multiplier.map String.toList) = .ok duration) :
    T.parseStep (entry note multiplier).toList =
      .ok ⟨UInt16.ofNat frequency, UInt16.ofNat duration⟩ := by
  rw [parseStep, cut_entry hnote]
  simp only [hfrequency, hduration]
  rfl

theorem editableEntry_wireText (step : Step) :
    T.editableEntry step.wireText.toList =
      entry (T.noteText (decimal step.frequency.toNat))
        (multiplier? editablePlaces step.duration.toNat) := by
  rw [editableEntry, Step.cut_wireText]
  cases hunit : step.hasUnitDuration with
  | true =>
    rw [Step.hasUnitDuration, beq_iff_eq] at hunit
    rw [hunit]
    rfl
  | false =>
    simp only [Bool.false_eq_true, if_false, Option.bind_some,
      unsigned?_decimal step.duration.toNat_lt]

/-! ### Notes that are written and read -/

theorem exists_number?_decimal {n : Nat} (hn : n < 2 ^ 16) :
    ∃ x, Decimal.number? (decimal n) = some x ∧ x.isFinite = true ∧ x.value = n := by
  obtain ⟨x, hread, hx⟩ := Decimal.exists_finite?_decimal (by omega : n < 2 ^ 53)
  exact ⟨x, (Option.filter_eq_some_iff.mp hread).1, hx.isFinite, hx.value_eq⟩

/-- Silence has no note. -/
theorem noteText_zero (hT : T.Accurate) :
    T.noteText (decimal 0) = String.ofList (decimal 0) := by
  obtain ⟨x, hread, hx, hvalue⟩ := exists_number?_decimal (n := 0) (by decide)
  rw [noteText, hread, Option.bind_some, hT.nearest?_zero hx (by simpa using hvalue),
    Option.getD_none]

/-- A tone has the name of the pitch that is nearest to it. -/
theorem noteText_eq (hT : T.Accurate) {f : Nat} (hpos : 1 ≤ f) (hle : f ≤ 20000) {s : ℤ}
    (hs : |Pitch.position f - s| ≤ 1 / 2 - 6 / 10 ^ 5) :
    T.noteText (decimal f) = Note.name (Note.concertA + s) := by
  obtain ⟨x, hread, hx, hvalue⟩ := exists_number?_decimal (n := f) (by omega)
  have hpos' : (1 : ℚ) ≤ f := by exact_mod_cast hpos
  have hle' : (f : ℚ) ≤ 20000 := by exact_mod_cast hle
  have hnear : |Pitch.position x.value - s| ≤ 1 / 2 - 2 / 10 ^ 5 := by
    rw [hvalue, Rat.cast_natCast]
    exact hs.trans (by norm_num)
  rw [noteText, hread, Option.bind_some,
    hT.near.nearest?_eq hx (by rw [hvalue]; linarith) (by rw [hvalue]; linarith) hnear,
    Option.getD_some]

/-- Numbers are read without a tuning. -/
theorem readFrequency_decimal (token : List Char) {n : Nat} (hn : n < 2 ^ 16) :
    T.readFrequency token (decimal n) = .ok (min n maxFrequency) := by
  obtain ⟨x, hread, -⟩ := Decimal.exists_finite?_decimal (by omega : n < 2 ^ 53)
  rw [← Step.readFrequency_decimal token hn, readFrequency, Step.readFrequency,
    Text.trim_eq_self (isWord_decimal n).2]
  simp only [hread, Option.some_or]

/-- **The name of a note is read as the whole part of its pitch.** -/
theorem readFrequency_name (hT : T.Accurate) (token : List Char) {s : ℤ} (hlow : -105 ≤ s)
    (hhigh : s ≤ 66) :
    T.readFrequency token (Note.name (Note.concertA + s)).toList = .ok ⌊Pitch.frequency s⌋₊ := by
  set n := Note.concertA + s with hn
  have hoctave : (n / 12 - 1).natAbs ≤ 99 := by
    rw [Note.concertA] at hn
    omega
  have hword := Note.isWord_name n
  have hnumber := Note.finite?_eq_none_of_number? (Note.number?_name hoctave)
  have hread : T.frequency? (Note.name n).toList = some (T.hertz s) := by
    rw [frequency?, Note.number?_name hoctave, Option.map_some, hn, add_sub_cancel_left]
  rw [readFrequency]
  simp only [Text.trim_eq_self hword.2, List.isEmpty_eq_false_iff.mpr hword.1, hnumber,
    Option.none_or, hread]
  exact congrArg Except.ok (hT.clamp_hertz hlow hhigh)

end Tuning

/-! ### Tones -/

namespace Melody

namespace Step

/-- **What a tone is after it has been shown and sent back.** Silence stays silence. Any other tone
has the pitch that is nearest to it among the pitches, cut down to whole Hz. The duration is the
nearest multiple of five milliseconds, but not nothing. -/
structure Shown (step shown : Step) : Prop where
  silent : step.frequency = 0 → shown.frequency = 0
  pitch : step.frequency ≠ 0 → 1 ≤ shown.frequency ∧ ∃ s : ℤ,
    (∀ t ≠ s, |Pitch.position step.frequency.toNat - s| < |Pitch.position step.frequency.toNat - t|) ∧
    shown.frequency.toNat = ⌊Pitch.frequency s⌋₊
  duration : ∃ k : ℤ, (∀ j, |(step.duration.toNat - 5 * k : ℤ)| ≤ |(step.duration.toNat - 5 * j : ℤ)|) ∧
    (shown.duration.toNat : ℤ) = max 1 (5 * k)
  duration_near : |(shown.duration.toNat - step.duration.toNat : ℤ)| ≤ 2

/-- The multiplier that a duration is shown with is read as a multiple of five milliseconds, brought
within the bounds. -/
theorem readDuration_editablePlaces {d : Nat} (hd : d < 2 ^ 16) :
    ∃ k : Nat, readDuration ((multiplier? editablePlaces d).map String.toList) =
      .ok (max minDuration (min (5 * k) maxDuration)) ∧
      2 * (5 * k) ≤ 2 * d + 5 ∧ 2 * d ≤ 2 * (5 * k) + 5 := by
  have hbounds := roundDiv_bounds (d * 10 ^ editablePlaces) (by decide : 0 < unitDuration)
  set k := roundDiv (d * 10 ^ editablePlaces) unitDuration with hk
  simp only [unitDuration, editablePlaces] at hbounds
  have hvalue : (k / 10 ^ editablePlaces : ℚ) = (5 * k : Nat) / 500 := by
    rw [editablePlaces]
    push_cast
    ring
  exact ⟨k, readDuration_multiplier? (by decide : 0 < editablePlaces) (by omega) hvalue,
    by omega, by omega⟩

/-- Within the bounds of an operator nothing is cut off. -/
theorem readDuration_editable {d : Nat} (hhigh : d ≤ 1000) :
    ∃ k : Nat, readDuration ((multiplier? editablePlaces d).map String.toList) = .ok (max 1 (5 * k)) ∧
      2 * (5 * k) ≤ 2 * d + 5 ∧ 2 * d ≤ 2 * (5 * k) + 5 := by
  obtain ⟨k, hread, habove, hbelow⟩ := readDuration_editablePlaces (by omega : d < 2 ^ 16)
  refine ⟨k, ?_, habove, hbelow⟩
  rw [hread, minDuration, maxDuration, Nat.min_eq_left (by omega)]

/-- A frequency is shown as a note, and the note is read as the frequency that is nearest to it. -/
theorem exists_shownFrequency {f : Nat} (hle : f ≤ 20000) :
    ∃ shown : Nat, shown ≤ 20000 ∧ (f = 0 → shown = 0) ∧
      (f ≠ 0 → 1 ≤ shown ∧ ∃ s : ℤ,
        (∀ t ≠ s, |Pitch.position f - s| < |Pitch.position f - t|) ∧
        shown = ⌊Pitch.frequency s⌋₊) ∧
      ∀ T : Tuning, T.Accurate → Text.IsWord (T.noteText (decimal f)).toList ∧
        separator ∉ (T.noteText (decimal f)).toList ∧
        ∀ token, T.readFrequency token (T.noteText (decimal f)).toList = .ok shown := by
  rcases Nat.eq_zero_or_pos f with rfl | hpos
  · refine ⟨0, by decide, fun _ => rfl, fun hne => absurd rfl hne, fun T hT => ?_⟩
    rw [Tuning.noteText_zero hT, String.toList_ofList]
    exact ⟨isWord_decimal 0, separator_notMem_decimal 0, fun token =>
      Tuning.readFrequency_decimal token (by decide)⟩
  · obtain ⟨s, hlow, hhigh, hs⟩ := Pitch.exists_nearest hpos hle
    refine ⟨⌊Pitch.frequency s⌋₊, Pitch.floor_frequency_le hhigh, fun hzero => by omega,
      fun _ => ⟨Pitch.one_le_floor_frequency hlow, s, fun t ht => ?_, rfl⟩, fun T hT => ?_⟩
    · -- Another pitch is at least a semitone away from this one.
      have hone : (1 : ℝ) ≤ |(t : ℝ) - s| := by
        exact_mod_cast Int.one_le_abs (sub_ne_zero.mpr ht)
      have hsum := abs_sub_le (t : ℝ) (Pitch.position f) s
      rw [abs_sub_comm (t : ℝ) (Pitch.position f)] at hsum
      linarith
    · rw [Tuning.noteText_eq hT hpos hle hs]
      exact ⟨Note.isWord_name _, Note.separator_notMem_name _, fun token =>
        Tuning.readFrequency_name hT token hlow hhigh⟩

theorem isWord_of_mem_multiplier? {places : Nat} (hplaces : 0 < places) {d : Nat} {text : String}
    (h : text ∈ multiplier? places d) : Text.IsWord text.toList := by
  rw [multiplier?] at h
  split at h
  · exact absurd h (by simp)
  · obtain rfl := Option.some.inj h
    rw [String.toList_ofList]
    exact isWord_shownText hplaces d

/-- **A tone that is shown and sent back**, in any accurate tuning. -/
theorem exists_shown {step : Step} (h : step.InBounds) :
    ∃ shown, step.Shown shown ∧ ∀ T : Tuning, T.Accurate →
      Text.IsWord (T.editableEntry step.wireText.toList).toList ∧
      T.parseStep (T.editableEntry step.wireText.toList).toList = .ok shown := by
  obtain ⟨hfrequency, hlow, hhigh⟩ := h
  rw [maxFrequency] at hfrequency
  rw [minDuration] at hlow
  rw [maxDuration] at hhigh
  obtain ⟨frequency, hle, hzero, hpitch, hnote⟩ := exists_shownFrequency hfrequency
  obtain ⟨k, hduration, habove, hbelow⟩ := readDuration_editable hhigh
  have hfrequency' : (UInt16.ofNat frequency).toNat = frequency :=
    UInt16.toNat_ofNat_of_lt' (by simp only [UInt16.size]; omega)
  have hduration' : (UInt16.ofNat (max 1 (5 * k))).toNat = max 1 (5 * k) :=
    UInt16.toNat_ofNat_of_lt' (by simp only [UInt16.size]; omega)
  refine ⟨⟨UInt16.ofNat frequency, UInt16.ofNat (max 1 (5 * k))⟩, ?_, fun T hT => ?_⟩
  · constructor
    · intro hsilent
      rw [hzero (by rw [hsilent]; rfl)]
      rfl
    · intro htone
      have hne : step.frequency.toNat ≠ 0 := fun heq => htone (UInt16.toNat_inj.mp heq)
      obtain ⟨hone, s, hnearest, hfloor⟩ := hpitch hne
      exact ⟨UInt16.le_iff_toNat_le.mpr (by rw [hfrequency']; exact hone), s, hnearest,
        hfrequency'.trans hfloor⟩
    · refine ⟨k, fun j => ?_, by rw [hduration']; push_cast; rfl⟩
      -- Another multiple of five is farther away.
      rcases eq_or_ne j k with rfl | hne
      · exact le_rfl
      · have hnear : |(step.duration.toNat - 5 * k : ℤ)| ≤ 2 := abs_le.mpr (by omega)
        have hfar : 3 ≤ |(step.duration.toNat - 5 * j : ℤ)| := le_abs.mpr (by omega)
        omega
    · rw [hduration', abs_le]
      omega
  · obtain ⟨hword, hseparator, hread⟩ := hnote T hT
    rw [Tuning.editableEntry_wireText]
    exact ⟨Tuning.isWord_entry hword fun text htext =>
      isWord_of_mem_multiplier? (by decide) htext,
      Tuning.parseStep_entry hseparator hread hduration⟩

/-- The tones of a list, one after the other. -/
theorem exists_shown_steps {steps : List Step} (h : ∀ step ∈ steps, step.InBounds) :
    ∃ shown, List.Forall₂ Shown steps shown ∧ ∀ T : Tuning, T.Accurate →
      (steps.map fun step => (T.editableEntry step.wireText.toList).toList).mapM T.parseStep =
        .ok shown := by
  induction steps with
  | nil => exact ⟨[], .nil, fun _ _ => rfl⟩
  | cons step steps ih =>
    obtain ⟨hstep, hsteps⟩ := List.forall_mem_cons.mp h
    obtain ⟨first, hfirst, hread⟩ := exists_shown hstep
    obtain ⟨rest, hrest, hreadrest⟩ := ih hsteps
    refine ⟨first :: rest, .cons hfirst hrest, fun T hT => ?_⟩
    rw [List.map_cons, List.mapM_cons, (hread T hT).2, hreadrest T hT]
    rfl

end Step

/-! ### Melodies -/

/-- **A melody that is shown and sent back.** -/
theorem exists_shown {melody : Melody} (h : ∀ step ∈ melody.steps, step.InBounds) :
    ∃ shown : Melody, List.Forall₂ Step.Shown melody.steps shown.steps ∧
      ∀ T : Tuning, T.Accurate → T.parse (T.editable melody.wireText) = .ok shown := by
  obtain ⟨shown, hshown, hread⟩ := Step.exists_shown_steps h
  have hlength := hshown.length_eq
  have hne : shown ≠ [] := by
    rintro rfl
    exact melody.ne_nil (List.length_eq_zero_iff.mp hlength)
  have hle : shown.length ≤ maxSteps := hlength ▸ melody.length_le
  refine ⟨⟨shown, hne, hle⟩, hshown, fun T hT => ?_⟩
  have hwords : Text.words (T.editable melody.wireText).toList =
      melody.steps.map fun step => (T.editableEntry step.wireText.toList).toList := by
    rw [Tuning.editable, words_wireText, List.map_map]
    refine Text.words_unwords_map fun step hstep => ?_
    obtain ⟨_, -, hentry⟩ := Step.exists_shown (h step hstep)
    exact (hentry T hT).1
  have htake : (melody.steps.map fun step =>
      (T.editableEntry step.wireText.toList).toList).take maxSteps =
        melody.steps.map fun step => (T.editableEntry step.wireText.toList).toList :=
    List.take_of_length_le (by simpa using melody.length_le)
  rw [Tuning.parse, hwords, htake, hread T hT]
  exact ofSteps_steps ⟨shown, hne, hle⟩

/-- **Showing a melody and sending it back.** Take a melody within the bounds of an operator. Its
wire text, made editable, is read as a melody of as many tones. Each duration is the multiple of
five milliseconds nearest to what it was, or one millisecond where that is none. A frequency of zero
stays zero, and any other becomes the whole part of the pitch nearest to it, which is at least one.

This is so with the logarithm and the pitches in use, and any library whose logarithm and powers of
two are right to nine digits, and whose whole powers of two are exact, gives the same melody. -/
theorem parse_editable_wireText {melody : Melody}
    (h : ∀ step ∈ melody.steps,
      step.frequency ≤ 20000 ∧ 1 ≤ step.duration ∧ step.duration ≤ 1000) :
    ∃ shown : Melody, shown.steps.length = melody.steps.length ∧
      List.Forall₂ Step.Shown melody.steps shown.steps ∧
      parse (editable melody.wireText) = .ok shown ∧
      ∀ log2 exp2, Tuning.AccurateLibrary log2 exp2 →
        (Tuning.ofLibrary log2 exp2).parse
          ((Tuning.ofLibrary log2 exp2).editable melody.wireText) = .ok shown := by
  obtain ⟨shown, hshown, hread⟩ := exists_shown fun step hstep =>
    (Step.inBounds_iff step).mpr (h step hstep)
  have hstandard := hread Tuning.standard Tuning.standard_accurate
  rw [Tuning.standard_parse, Tuning.standard_editable] at hstandard
  exact ⟨shown, hshown.length_eq.symm, hshown, hstandard, fun log2 exp2 hlibrary =>
    hread (Tuning.ofLibrary log2 exp2) (Tuning.ofLibrary_accurate hlibrary)⟩

/-- A tone whose octave has a minus sign, one with a multiplier that is rounded to one, silence,
and a tone as high and as short as can be. -/
theorem parse_editable_wireText_of_four_tones :
    ∃ melody shown : Melody,
      melody.steps = [⟨1, 998⟩, ⟨523, 502⟩, ⟨0, 33⟩, ⟨20000, 1⟩] ∧
      List.Forall₂ Step.Shown melody.steps shown.steps ∧
      parse (editable melody.wireText) = .ok shown ∧
      (Tuning.ofLibrary double.log2 Tuning.power).parse
        ((Tuning.ofLibrary double.log2 Tuning.power).editable melody.wireText) = .ok shown := by
  obtain ⟨melody, hmelody⟩ : ∃ melody : Melody,
      melody.steps = [⟨1, 998⟩, ⟨523, 502⟩, ⟨0, 33⟩, ⟨20000, 1⟩] :=
    ⟨⟨_, by decide, by decide⟩, rfl⟩
  have hbounds : ∀ step ∈ melody.steps,
      step.frequency ≤ 20000 ∧ 1 ≤ step.duration ∧ step.duration ≤ 1000 := by
    rw [hmelody]
    decide
  obtain ⟨shown, -, hshown, hread, hlibrary⟩ := parse_editable_wireText hbounds
  exact ⟨melody, shown, hmelody, hshown, hread,
    hlibrary double.log2 Tuning.power Tuning.double_accurate⟩

end Melody

end CarrierLink
