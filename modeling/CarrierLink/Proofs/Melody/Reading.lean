import CarrierLink.Proofs.Melody.RoundTrip

/-!
# What operator text is read as

Operator text is any text at all, and this module says for each what becomes of it.

A word is cut at its first separator. Of the two parts the note is looked at first, and what is
wrong with it is what the word is refused for; only then does the multiplier count
(`CarrierLink.Melody.Step.parse_eq_error_iff`). What is not refused is a tone within the bounds
of an operator.

A text is read word by word, up to the hundredth, and refused for the first word that is
(`CarrierLink.Melody.parse_spaced`). It is a matter of its words only: how they are spaced does
not count (`CarrierLink.Text.Spaced`), and neither does anything behind the hundredth.
-/

namespace CarrierLink.Melody

open Text

/-! ### Words -/

namespace Step

/-- A finite number. -/
def IsNumber (s : List Char) : Prop := ∃ x, Decimal.finite? s = some x

/-- A note: a finite number or the name of one. -/
def IsNote (s : List Char) : Prop := IsNumber s ∨ ∃ n, Note.number? s = some n

variable {token note : List Char} {multiplier : Option (List Char)} {e : MelodyError}

theorem isNote_iff {s : List Char} :
    IsNote s ↔ ((Decimal.finite? s).or (Note.frequency? s)).isSome := by
  rw [IsNote, IsNumber, Note.frequency?, Option.isSome_or, Bool.or_eq_true, Option.isSome_map,
    Option.isSome_iff_exists, Option.isSome_iff_exists]

instance : DecidablePred IsNote := fun _ => decidable_of_iff _ isNote_iff.symm

/-- **A note is refused** for not being there, or for being no note. -/
theorem readFrequency_eq_error_iff :
    readFrequency token note = .error e ↔
      IsGap note ∧ e = .missingNote (String.ofList token) ∨
      ¬IsGap note ∧ ¬IsNote (trim note) ∧ e = .invalidNote (String.ofList (trim note)) := by
  rw [isNote_iff, ← trim_eq_nil_iff]
  cases htrim : trim note with
  | nil => simp [readFrequency, htrim, eq_comm (a := e)]
  | cons c rest =>
    cases hread : (Decimal.finite? (c :: rest)).or (Note.frequency? (c :: rest)) with
    | none => simp [readFrequency, htrim, hread, eq_comm (a := e)]
    | some hertz => simp [readFrequency, htrim, hread]

/-- **A multiplier is refused** for being neither blank nor a finite number. -/
theorem readDuration_eq_error_iff :
    readDuration multiplier = .error e ↔
      ∃ text, multiplier = some text ∧ ¬IsGap text ∧ ¬IsNumber (trim text) ∧
        e = .invalidDuration (String.ofList (trim text)) := by
  cases multiplier with
  | none => simp [readDuration]
  | some text =>
    simp only [Option.some.injEq, exists_eq_left', ← trim_eq_nil_iff, IsNumber]
    cases htrim : trim text with
    | nil => simp [readDuration, htrim]
    | cons c rest =>
      cases hread : Decimal.finite? (c :: rest) with
      | none => simp [readDuration, htrim, hread, eq_comm]
      | some x => simp [readDuration, htrim, hread]

/-- A multiplier that is missing or blank counts as one. -/
theorem readDuration_of_blank (h : ∀ text ∈ multiplier, IsGap text) :
    readDuration multiplier = .ok unitDuration := by
  cases multiplier with
  | none => rfl
  | some text => rw [readDuration, Option.map_some, trim_eq_nil_iff.mpr (h text rfl)]

/-- **What a word is refused for.** The note counts first. -/
theorem parse_eq_error_iff (hcut : cut separator token = (note, multiplier)) :
    parse token = .error e ↔
      IsGap note ∧ e = .missingNote (String.ofList token) ∨
      ¬IsGap note ∧ ¬IsNote (trim note) ∧ e = .invalidNote (String.ofList (trim note)) ∨
      ¬IsGap note ∧ IsNote (trim note) ∧
        ∃ text, multiplier = some text ∧ ¬IsGap text ∧ ¬IsNumber (trim text) ∧
          e = .invalidDuration (String.ofList (trim text)) := by
  have hparse : parse token = (do
      let frequency ← readFrequency token note
      let duration ← readDuration multiplier
      return ⟨UInt16.ofNat frequency, UInt16.ofNat duration⟩) := by rw [parse, hcut]
  rw [hparse, ← readDuration_eq_error_iff, ← or_assoc, ← readFrequency_eq_error_iff]
  cases hfrequency : readFrequency token note with
  | error e' =>
    have hrefused := readFrequency_eq_error_iff.mp hfrequency
    have hnot : ¬(¬IsGap note ∧ IsNote (trim note)) := by
      rintro ⟨hgap, hnote⟩
      rcases hrefused with ⟨hgap', -⟩ | ⟨-, hnone, -⟩
      · exact hgap hgap'
      · exact hnone hnote
    rw [← and_assoc, or_iff_left fun h => hnot h.1]
    simp [bind, Except.bind]
  | ok frequency =>
    have hread (e' : MelodyError) : readFrequency token note ≠ .error e' := by simp [hfrequency]
    have hgap : ¬IsGap note := fun hgap =>
      hread _ (readFrequency_eq_error_iff.mpr (.inl ⟨hgap, rfl⟩))
    have hnote : IsNote (trim note) := by
      by_contra hnone
      exact hread _ (readFrequency_eq_error_iff.mpr (.inr ⟨hgap, hnone, rfl⟩))
    cases hduration : readDuration multiplier with
    | error e' => simp [bind, Except.bind, hgap, hnote]
    | ok duration => simp [bind, Except.bind, pure, Except.pure]

/-- A tone whose multiplier is missing or blank has the unit duration. -/
theorem duration_of_blank {step : Step} (hcut : cut separator token = (note, multiplier))
    (hparse : parse token = .ok step) (h : ∀ text ∈ multiplier, IsGap text) :
    step.duration = 500 := by
  rw [parse, hcut] at hparse
  obtain ⟨frequency, -, hparse⟩ := exists_of_bind_eq_ok hparse
  obtain ⟨duration, hduration, hparse⟩ := exists_of_bind_eq_ok hparse
  rw [readDuration_of_blank h] at hduration
  obtain rfl := Except.ok.inj hduration
  obtain rfl := Except.ok.inj hparse
  rfl

end Step

/-! ### Texts -/

variable {input : String} {entries : List (List Char)} {e : MelodyError}

theorem readSteps_spaced (h : Spaced input.toList entries) :
    readSteps input = (entries.take maxSteps).mapM Step.parse := by
  rw [readSteps, words_eq_iff.mpr h]

/-- Tones that come from words make a melody unless there are none: there are never too many. -/
theorem parse_eq_ok_iff (h : Spaced input.toList entries) {melody : Melody} :
    parse input = .ok melody ↔
      List.Forall₂ (fun word step => Step.parse word = .ok step) (entries.take maxSteps)
        melody.steps := by
  rw [← mapM_eq_ok_iff, ← readSteps_spaced h, parse]
  constructor
  · intro hparse
    obtain ⟨steps, hread, hsteps⟩ := exists_of_bind_eq_ok hparse
    rw [hread, steps_of_ofSteps hsteps]
  · intro hread
    rw [hread]
    exact ofSteps_steps melody

/-- A text without words is no melody. -/
theorem parse_of_nil (h : Spaced input.toList []) : parse input = .error .empty := by
  rw [parse, readSteps_spaced h]
  rfl

/-- **A text is refused for the first of its words that is.** -/
theorem parse_eq_error_iff (h : Spaced input.toList entries) (hne : entries ≠ []) :
    parse input = .error e ↔
      ∃ before word after, entries.take maxSteps = before ++ word :: after ∧
        (∀ word' ∈ before, ∃ step, Step.parse word' = .ok step) ∧
        Step.parse word = .error e := by
  rw [← mapM_eq_error_iff, ← readSteps_spaced h, parse]
  cases hread : readSteps input with
  | error e' => simp [bind, Except.bind]
  | ok steps =>
    -- What has been read is neither empty nor too long.
    rw [readSteps_spaced h] at hread
    have hlength := (forall₂_of_mapM hread).length_eq
    rw [List.length_take] at hlength
    have hpos : 0 < entries.length := List.length_pos_iff.mpr hne
    have hsteps : steps ≠ [] := by
      rw [← List.length_pos_iff, ← hlength, maxSteps]
      omega
    have hle : steps.length ≤ maxSteps := by omega
    simp [bind, Except.bind, ofSteps, hsteps, hle]

/-- **What operator text is read as.** Let a text be laid out around some words.

Only the first hundred of them count. Without any the text is refused as empty; otherwise it
is a melody of one tone for each of them if each is a tone, and if not it is refused for the
first that is none. A word is put together from a note and, behind the first separator, a
multiplier. It is refused for a note that is missing, for one that is neither a finite number nor
a name, and then for a multiplier that is neither blank nor a finite number. What is left is a
tone within the bounds, of the unit duration if the multiplier is missing or blank. -/
theorem parse_spaced (h : Spaced input.toList entries) :
    (∀ input' entries', Spaced input'.toList entries' →
      entries'.take 100 = entries.take 100 → parse input' = parse input) ∧
    (parse input = .error .empty ↔ entries = []) ∧
    (entries ≠ [] →
      ((∃ melody, parse input = .ok melody) ↔
        ∀ word ∈ entries.take 100, ∃ step, Step.parse word = .ok step) ∧
      (∀ melody, parse input = .ok melody → melody.steps.length = min entries.length 100 ∧
        List.Forall₂ (fun word step => Step.parse word = .ok step) (entries.take 100)
          melody.steps) ∧
      ∀ e, parse input = .error e ↔
        ∃ before word after, entries.take 100 = before ++ word :: after ∧
          (∀ word' ∈ before, ∃ step, Step.parse word' = .ok step) ∧
          Step.parse word = .error e) ∧
    ∀ (note : List Char) (multiplier : Option (List Char)), '@' ∉ note →
      (∀ e, Step.parse (note ++ multiplier.elim [] ('@' :: ·)) = .error e ↔
        IsGap note ∧ e = .missingNote (String.ofList (note ++ multiplier.elim [] ('@' :: ·))) ∨
        ¬IsGap note ∧ ¬Step.IsNote (trim note) ∧ e = .invalidNote (String.ofList (trim note)) ∨
        ¬IsGap note ∧ Step.IsNote (trim note) ∧
          ∃ text, multiplier = some text ∧ ¬IsGap text ∧ ¬Step.IsNumber (trim text) ∧
            e = .invalidDuration (String.ofList (trim text))) ∧
      ∀ step, Step.parse (note ++ multiplier.elim [] ('@' :: ·)) = .ok step →
        step.frequency ≤ 20000 ∧ 1 ≤ step.duration ∧ step.duration ≤ 1000 ∧
          ((∀ text ∈ multiplier, IsGap text) → step.duration = 500) := by
  have hcut (note : List Char) (multiplier : Option (List Char)) (hnote : '@' ∉ note) :
      cut separator (note ++ multiplier.elim [] ('@' :: ·)) = (note, multiplier) :=
    cut_eq_iff.mpr ⟨hnote, rfl⟩
  refine ⟨fun input' entries' h' hsame => ?_, ⟨fun hempty => ?_, ?_⟩, fun hne =>
    ⟨⟨?_, fun hall => ?_⟩, fun melody hparse => ?_, fun e => parse_eq_error_iff h hne⟩,
    fun note multiplier hnote => ⟨fun e => Step.parse_eq_error_iff (hcut note multiplier hnote),
      fun step hparse => ?_⟩⟩
  · rw [parse, parse, readSteps_spaced h, readSteps_spaced h', maxSteps, hsame]
  · -- No word is refused as empty.
    by_contra hne
    obtain ⟨_, word, _, -, -, hword⟩ := (parse_eq_error_iff h hne).mp hempty
    rcases (Step.parse_eq_error_iff rfl).mp hword with ⟨-, he⟩ | ⟨-, -, he⟩ | ⟨-, -, _, -, -, -, he⟩
    all_goals exact absurd he (by simp)
  · rintro rfl
    exact parse_of_nil h
  · rintro ⟨melody, hparse⟩ word hword
    exact exists_of_forall₂_left ((parse_eq_ok_iff h).mp hparse) hword
  · cases hparse : parse input with
    | ok melody => exact ⟨melody, rfl⟩
    | error e =>
      obtain ⟨before, word, after, hsplit, -, hword⟩ := (parse_eq_error_iff h hne).mp hparse
      rw [maxSteps] at hsplit
      obtain ⟨step, hstep⟩ := hall word (by simp [hsplit])
      exact absurd (hstep.symm.trans hword) (by simp)
  · have hall := (parse_eq_ok_iff h).mp hparse
    have hlength := hall.length_eq
    rw [List.length_take, maxSteps] at hlength
    exact ⟨by omega, hall⟩
  · obtain ⟨hfrequency, hlow, hhigh⟩ := (Step.inBounds_iff step).mp (Step.inBounds_of_parse hparse)
    exact ⟨hfrequency, hlow, hhigh, Step.duration_of_blank (hcut note multiplier hnote) hparse⟩

/-- The third of four words names no note. What is wrong with its multiplier does not count, and
neither does how the words are spaced. -/
theorem parse_spaced_of_four :
    Spaced "A4@ 440@0.5  H9@x C4".toList ["A4@".toList, "440@0.5".toList, "H9@x".toList, "C4".toList] ∧
      Spaced "\tA4@\n440@0.5 H9@x C4\n".toList
        ["A4@".toList, "440@0.5".toList, "H9@x".toList, "C4".toList] ∧
      parse "A4@ 440@0.5  H9@x C4" = .error (.invalidNote "H9") ∧
      parse "\tA4@\n440@0.5 H9@x C4\n" = .error (.invalidNote "H9") := by
  have hfirst : Spaced "A4@ 440@0.5  H9@x C4".toList
      ["A4@".toList, "440@0.5".toList, "H9@x".toList, "C4".toList] :=
    words_eq_iff.mp (by decide)
  have hsecond : Spaced "\tA4@\n440@0.5 H9@x C4\n".toList
      ["A4@".toList, "440@0.5".toList, "H9@x".toList, "C4".toList] :=
    words_eq_iff.mp (by decide)
  obtain ⟨hlayout, -, hread, hword⟩ := parse_spaced hfirst
  have hthird : Step.parse "H9@x".toList = .error (.invalidNote "H9") :=
    ((hword "H9".toList (some "x".toList) (by decide)).1 _).mpr
      (.inr (.inl ⟨by decide, by decide +kernel, rfl⟩))
  have hrefused : parse "A4@ 440@0.5  H9@x C4" = .error (.invalidNote "H9") := by
    refine ((hread (by simp)).2.2 _).mpr
      ⟨["A4@".toList, "440@0.5".toList], "H9@x".toList, ["C4".toList], rfl, ?_, hthird⟩
    have htone (word : List Char) (h : (Step.parse word).toOption.isSome = true) :
        ∃ step, Step.parse word = .ok step := by
      cases hparse : Step.parse word with
      | ok step => exact ⟨step, rfl⟩
      | error e => exact absurd h (by simp [hparse, Except.toOption])
    rintro word' (_ | ⟨_, _ | ⟨_, hnone⟩⟩)
    · exact htone _ (by decide +kernel)
    · exact htone _ (by decide +kernel)
    · exact absurd hnone List.not_mem_nil
  exact ⟨hfirst, hsecond, hrefused, (hlayout _ _ hsecond rfl).trans hrefused⟩

end CarrierLink.Melody
