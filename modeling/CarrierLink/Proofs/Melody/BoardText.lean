import CarrierLink.Proofs.Melody.Editable
import CarrierLink.Proofs.Melody.Reading

/-!
# Any board text made editable

The text on a board may have come from anywhere, and this module says for each text what becomes
of it (`CarrierLink.Melody.editable_spaced`).

It is gone through word by word, and a word becomes a word or nothing. Nothing is what becomes of a
word with nothing before its separator, unless the duration behind it is shown as a multiplier
(`CarrierLink.Melody.IsLost`).

What an operator may type stays something that an operator may type, word for word, since a
frequency becomes the name of a note and a duration a multiplier. There is one exception: a note is
named whatever its octave, but a name is read only if its octave has one or two digits. All
frequencies from `10 ^ -28` to `10 ^ 31` Hz are far from that
(`CarrierLink.Note.octave_mem_of_value`).
-/

namespace CarrierLink

open Binary Numeral Text

-- A power is the one of the core library, whatever else is imported.
attribute [local instance (high)] instPowNat

/-! ### The octaves of nearest notes -/

namespace Note

/-- The number of the note nearest to a frequency, if there is one. -/
def nearestNumber? (frequency : Number) : Option Int :=
  (double.add (double.ofInt concertA) (Pitch.semitones frequency)).nearest?

/-- The octave of a note by its number. -/
def octaveOf (number : Int) : Int := number / 12 - 1

theorem nearest?_eq_map (frequency : Number) :
    nearest? frequency = (nearestNumber? frequency).map name := rfl

/-- Where the frequencies from `10 ^ -28` to `10 ^ 31` Hz stand. -/
theorem position_mem {v : ℚ} (hlow : 1 / 10 ^ 28 ≤ v) (hhigh : v ≤ 10 ^ 31) :
    -1224 ≤ Pitch.position v ∧ Pitch.position v ≤ 1140 := by
  have hlow' : ((2 : ℝ) ^ 102)⁻¹ ≤ v / 440 := by
    have hreal : ((1 / 10 ^ 28 : ℚ) : ℝ) ≤ v := Rat.cast_le.mpr hlow
    norm_num at hreal ⊢
    linarith
  have hhigh' : (v / 440 : ℝ) ≤ 2 ^ 95 := by
    have hreal : (v : ℝ) ≤ (10 ^ 31 : ℚ) := Rat.cast_le.mpr hhigh
    norm_num at hreal ⊢
    linarith
  have hpos : (0 : ℝ) < v / 440 := lt_of_lt_of_le (by positivity) hlow'
  have hmin := Real.logb_le_logb_of_le one_lt_two (by positivity) hlow'
  have hmax := Real.logb_le_logb_of_le one_lt_two hpos hhigh'
  rw [Real.logb_inv, Real.logb_pow, Real.logb_self_eq_one one_lt_two] at hmin
  rw [Real.logb_pow, Real.logb_self_eq_one one_lt_two] at hmax
  norm_num at hmin hmax
  rw [Pitch.position]
  constructor <;> linarith

/-- **Their nearest notes** have an octave of one or two digits. -/
theorem octave_mem_of_value {x : Number} {n : Int} (hx : x.isFinite = true)
    (hlow : 1 / 10 ^ 28 ≤ x.value) (hhigh : x.value ≤ 10 ^ 31) (hn : nearestNumber? x = some n) :
    -99 ≤ octaveOf n ∧ octaveOf n ≤ 99 := by
  obtain ⟨hmin, hmax⟩ := position_mem hlow hhigh
  obtain ⟨-, hplace⟩ := Tuning.standard_accurate.near.number_near hx
    (hlow.trans' (by norm_num)) (hhigh.trans (by norm_num))
  obtain ⟨hbelow, habove⟩ := abs_lt.mp hplace
  have hnear : |((double.add (double.ofInt concertA) (Pitch.semitones x)).value : ℝ) - n| ≤
      ((1 / 2 : ℚ) : ℝ) := by
    exact_mod_cast Number.abs_value_sub_nearest_le hn
  obtain ⟨hbelow', habove'⟩ := abs_le.mp hnear
  rw [Tuning.standard] at hbelow habove
  norm_num at hbelow habove hbelow' habove'
  have hleast : (-1156 : ℝ) < n := by linarith
  have hgreatest : (n : ℝ) < 1210 := by linarith
  have hleast' : -1156 < n := by exact_mod_cast hleast
  have hgreatest' : n < 1210 := by exact_mod_cast hgreatest
  rw [octaveOf]
  omega

end Note

/-! ### Words -/

namespace Melody

/-- **Nothing is left of a word** that has no frequency, nor a duration other than one that is
shown as the unit duration. -/
def IsLost (word : List Char) : Prop :=
  (cut separator word).1 = [] ∧
    ∀ ms ∈ (cut separator word).2.bind (unsigned? (2 ^ 16)), 498 ≤ ms ∧ ms ≤ 502

instance : DecidablePred IsLost := fun word =>
  inferInstanceAs (Decidable (_ ∧ ∀ ms ∈ (cut separator word).2.bind (unsigned? (2 ^ 16)), _))

/-- The durations that are shown as the unit duration. -/
theorem multiplier?_editablePlaces_eq_none_iff {d : Nat} :
    multiplier? editablePlaces d = none ↔ 498 ≤ d ∧ d ≤ 502 := by
  constructor
  · intro hnone
    rw [multiplier?] at hnone
    split at hnone
    · next hone =>
      rcases (Bool.or_eq_true _ _).mp hone with hd | htext
      · obtain rfl := of_decide_eq_true hd
        decide
      · have hvalue := roundDiv_eq_of_shownText_eq_one (by decide : 0 < editablePlaces)
          (of_decide_eq_true htext)
        rw [div_eq_one_iff_eq (by positivity)] at hvalue
        have hround : roundDiv (d * 10 ^ editablePlaces) unitDuration = 10 ^ editablePlaces := by
          exact_mod_cast hvalue
        have hbounds := roundDiv_bounds (d * 10 ^ editablePlaces) (by decide : 0 < unitDuration)
        rw [hround] at hbounds
        simp only [editablePlaces, unitDuration] at hbounds
        omega
    · exact absurd hnone (by simp)
  · rintro ⟨hlow, hhigh⟩
    interval_cases d <;> decide

theorem toList_entry_eq_nil_iff {note : String} {multiplier : Option String} :
    (entry note multiplier).toList = [] ↔ note.toList = [] ∧ multiplier = none := by
  cases multiplier with
  | none => simp [entry]
  | some text => simp [Step.toList_entry]

/-- What a frequency is shown as: the name of a note, or its own text. -/
theorem noteText_cases (frequency : List Char) :
    (∃ x n, Decimal.number? frequency = some x ∧ Note.nearestNumber? x = some n ∧
      Tuning.standard.noteText frequency = Note.name n) ∨
    Tuning.standard.noteText frequency = String.ofList frequency := by
  rw [Tuning.noteText]
  cases hname : (Decimal.number? frequency).bind Tuning.standard.nearest? with
  | none => exact .inr rfl
  | some name =>
    obtain ⟨x, hread, hnearest⟩ := Option.bind_eq_some_iff.mp hname
    obtain ⟨n, hnumber, rfl⟩ := Option.map_eq_some_iff.mp
      ((Note.nearest?_eq_map x).symm.trans hnearest)
    exact .inl ⟨x, n, hread, hnumber, rfl⟩

theorem editableEntry_eq (word : List Char) :
    editableEntry word = entry (Tuning.standard.noteText (cut separator word).1)
      (((cut separator word).2.bind (unsigned? (2 ^ 16))).bind (multiplier? editablePlaces)) := rfl

section Entry

variable {word : List Char}

theorem isBlank_of_mem_cut (h : ∀ c ∈ word, isBlank c = false) :
    ∀ c ∈ (cut separator word).1, isBlank c = false := fun c hc =>
  h c ((List.takeWhile_sublist _).subset hc)

/-- What a frequency is shown as is no longer in pieces than the frequency was. -/
theorem noteText_mem {frequency : List Char} (hblank : ∀ c ∈ frequency, isBlank c = false)
    (hseparator : separator ∉ frequency) :
    (∀ c ∈ (Tuning.standard.noteText frequency).toList, isBlank c = false) ∧
      separator ∉ (Tuning.standard.noteText frequency).toList := by
  rcases noteText_cases frequency with ⟨x, n, -, -, hname⟩ | htext
  · rw [hname]
    exact ⟨(Note.isWord_name n).2, Note.separator_notMem_name n⟩
  · rw [htext, String.toList_ofList]
    exact ⟨hblank, hseparator⟩

theorem noteText_eq_nil_iff {frequency : List Char} :
    (Tuning.standard.noteText frequency).toList = [] ↔ frequency = [] := by
  rcases noteText_cases frequency with ⟨x, n, hread, -, hname⟩ | htext
  · rw [hname]
    refine iff_of_false (Note.isWord_name n).1 ?_
    rintro rfl
    have hempty : Decimal.number? [] = none := by decide
    exact absurd (hempty.symm.trans hread) (by simp)
  · rw [htext, String.toList_ofList]

theorem separator_notMem_cut (word : List Char) : separator ∉ (cut separator word).1 :=
  (cut_eq_iff.mp rfl : _ ∧ word = _ ++ (cut separator word).2.elim [] (separator :: ·)).1

/-- There are no blanks in what a word becomes. -/
theorem editableEntry_blankless (h : ∀ c ∈ word, isBlank c = false) :
    ∀ c ∈ (editableEntry word).toList, isBlank c = false := by
  obtain ⟨hnote, -⟩ := noteText_mem (isBlank_of_mem_cut h) (separator_notMem_cut word)
  rw [editableEntry_eq]
  cases hmultiplier : ((cut separator word).2.bind (unsigned? (2 ^ 16))).bind
      (multiplier? editablePlaces) with
  | none => exact hnote
  | some text =>
    obtain ⟨ms, -, htext⟩ := Option.bind_eq_some_iff.mp hmultiplier
    have hword := Step.isWord_of_mem_multiplier? (by decide) htext
    rw [Step.toList_entry]
    intro c hc
    rcases List.mem_append.mp hc with hc | hc
    · exact hnote c hc
    · rcases List.mem_cons.mp hc with rfl | hc
      · decide
      · exact hword.2 c hc

/-- **What becomes of a word is empty if it is lost**, and only then. -/
theorem editableEntry_eq_nil_iff : (editableEntry word).toList = [] ↔ IsLost word := by
  rw [editableEntry_eq, toList_entry_eq_nil_iff, noteText_eq_nil_iff, IsLost]
  refine and_congr_right fun _ => ?_
  cases (cut separator word).2.bind (unsigned? (2 ^ 16)) with
  | none => simp
  | some ms => simp [multiplier?_editablePlaces_eq_none_iff]

end Entry

/-- **The words of text that was made editable** are what became of the words, without those of
which nothing is left. -/
theorem words_editable {raw : String} {entries : List (List Char)} (h : Spaced raw.toList entries) :
    words (editable raw).toList =
      (entries.filter fun entry => ¬IsLost entry).map fun entry => (editableEntry entry).toList := by
  have hblankless : ∀ text ∈ entries.map editableEntry, ∀ c ∈ text.toList, isBlank c = false :=
    List.forall_mem_map.mpr fun entry hentry =>
      editableEntry_blankless (h.isWord_of_mem hentry).2
  have hkept (entry : List Char) :
      (!(editableEntry entry).toList.isEmpty) = decide ¬IsLost entry := by
    rw [Bool.eq_iff_iff, decide_eq_true_iff, ← editableEntry_eq_nil_iff]
    simp
  rw [editable, h.words_eq, words_unwords_of_blankless hblankless, List.map_map, List.filter_map]
  exact congrArg _ (List.filter_congr fun entry _ => hkept entry)

/-! ### Words that are read -/

theorem lt_of_unsigned? {bound n : Nat} {s : List Char} (h : unsigned? bound s = some n) :
    n < bound := by
  unfold unsigned? at h
  rw [Option.ite_none_right_eq_some, Option.some.injEq] at h
  obtain ⟨hread, rfl⟩ := h
  exact of_decide_eq_true ((Bool.and_eq_true _ _).mp hread).2

/-- What a note is shown as is a note, if its octave has one or two digits. -/
theorem isNote_noteText {frequency : List Char} (hnote : Step.IsNote frequency)
    (hoctave : ∀ x, Decimal.number? frequency = some x →
      ∀ n ∈ Note.nearestNumber? x, -99 ≤ Note.octaveOf n ∧ Note.octaveOf n ≤ 99) :
    Step.IsNote (Tuning.standard.noteText frequency).toList := by
  rcases noteText_cases frequency with ⟨x, n, hread, hnearest, hname⟩ | htext
  · obtain ⟨hlow, hhigh⟩ := hoctave x hread n hnearest
    rw [Note.octaveOf] at hlow hhigh
    rw [hname]
    exact .inr ⟨n, Note.number?_name (by omega)⟩
  · rwa [htext, String.toList_ofList]

/-- A word that is read has a note before its separator. -/
theorem note_of_parse {word : List Char} {step : Step} (h : Step.parse word = .ok step) :
    ¬IsGap (cut separator word).1 ∧ Step.IsNote (trim (cut separator word).1) := by
  have hread (e : MelodyError) : Step.parse word ≠ .error e := by simp [h]
  have hgap : ¬IsGap (cut separator word).1 := fun hgap =>
    hread _ ((Step.parse_eq_error_iff rfl).mpr (.inl ⟨hgap, rfl⟩))
  refine ⟨hgap, ?_⟩
  by_contra hnone
  exact hread _ ((Step.parse_eq_error_iff rfl).mpr (.inr (.inl ⟨hgap, hnone, rfl⟩)))

/-- A duration is shown as a multiplier that is read, and what is no duration as none. -/
theorem exists_readDuration_shown (text : Option (List Char)) :
    ∃ duration, Step.readDuration (((text.bind (unsigned? (2 ^ 16))).bind
      (multiplier? editablePlaces)).map String.toList) = .ok duration := by
  cases hms : text.bind (unsigned? (2 ^ 16)) with
  | none => exact ⟨unitDuration, rfl⟩
  | some ms =>
    obtain ⟨s, -, hs⟩ := Option.bind_eq_some_iff.mp hms
    obtain ⟨k, hread, -⟩ := Step.readDuration_editablePlaces (lt_of_unsigned? hs)
    exact ⟨_, hread⟩

/-- **A word that is read stays one**, if the octave of its note has one or two digits. -/
theorem exists_parse_editableEntry {word : List Char} {step : Step}
    (hblank : ∀ c ∈ word, isBlank c = false) (h : Step.parse word = .ok step)
    (hoctave : ∀ x, Decimal.number? (cut separator word).1 = some x →
      ∀ n ∈ Note.nearestNumber? x, -99 ≤ Note.octaveOf n ∧ Note.octaveOf n ≤ 99) :
    ∃ shown, Step.parse (editableEntry word).toList = .ok shown := by
  have hfrequency := isBlank_of_mem_cut hblank
  obtain ⟨hnote, hseparator⟩ := noteText_mem hfrequency (separator_notMem_cut word)
  obtain ⟨hgap, hread⟩ := note_of_parse h
  rw [← trim_eq_nil_iff, trim_eq_self hfrequency] at hgap
  rw [trim_eq_self hfrequency] at hread
  obtain ⟨duration, hduration⟩ := exists_readDuration_shown (cut separator word).2
  cases hshown : Step.parse (editableEntry word).toList with
  | ok shown => exact ⟨shown, rfl⟩
  | error e =>
    rw [editableEntry_eq] at hshown
    rcases (Step.parse_eq_error_iff (Tuning.cut_entry hseparator _)).mp hshown with
      ⟨hgap', -⟩ | ⟨-, hnone, -⟩ | ⟨-, -, htext⟩
    · rw [← trim_eq_nil_iff, trim_eq_self hnote, noteText_eq_nil_iff] at hgap'
      exact absurd hgap' hgap
    · rw [trim_eq_self hnote] at hnone
      exact absurd (isNote_noteText hread hoctave) hnone
    · have hrefused := Step.readDuration_eq_error_iff.mpr htext
      exact absurd (hduration.symm.trans hrefused) (by simp)

/-- A word that is read is not lost: it has a note. -/
theorem not_isLost_of_parse {word : List Char} {step : Step} (h : Step.parse word = .ok step) :
    ¬IsLost word := by
  rintro ⟨hnil, -⟩
  obtain ⟨hgap, -⟩ := note_of_parse h
  rw [hnil] at hgap
  exact hgap fun c hc => absurd hc List.not_mem_nil

/-! ### Texts -/

/-- What is taken from the front is the same after a filter that lets all of it through. -/
theorem take_filter_of_forall {α : Type} {p : α → Bool} {xs : List α} {n : Nat}
    (h : ∀ x ∈ xs.take n, p x = true) : (xs.filter p).take n = xs.take n := by
  induction xs generalizing n with
  | nil => rfl
  | cons x xs ih =>
    cases n with
    | zero => rfl
    | succ n =>
      rw [List.take_succ_cons] at h ⊢
      obtain ⟨hx, hrest⟩ := List.forall_mem_cons.mp h
      rw [List.filter_cons_of_pos hx, List.take_succ_cons, ih hrest]

/-- **Board text that is read as a melody** stays that when it is made editable. -/
theorem exists_parse_editable {raw : String} {entries : List (List Char)}
    (h : Spaced raw.toList entries) {melody : Melody} (hmelody : parse raw = .ok melody)
    (hoctave : ∀ entry ∈ entries.take maxSteps,
      ∀ x, Decimal.number? (cut separator entry).1 = some x →
        ∀ n ∈ Note.nearestNumber? x, -99 ≤ Note.octaveOf n ∧ Note.octaveOf n ≤ 99) :
    ∃ shown, parse (editable raw) = .ok shown ∧ shown.steps.length = melody.steps.length := by
  have hwords := words_eq_iff.mp (words_editable h)
  have hsteps := (parse_eq_ok_iff h).mp hmelody
  have hread (entry : List Char) (hentry : entry ∈ entries.take maxSteps) :
      ∃ step, Step.parse entry = .ok step := exists_of_forall₂_left hsteps hentry
  have hfront : (((entries.filter fun entry => ¬IsLost entry).map fun entry =>
      (editableEntry entry).toList).take maxSteps) =
        (entries.take maxSteps).map fun entry => (editableEntry entry).toList := by
    rw [← List.map_take, take_filter_of_forall]
    intro entry hentry
    obtain ⟨step, hstep⟩ := hread entry hentry
    exact decide_eq_true (not_isLost_of_parse hstep)
  have hshown (entry : List Char) (hentry : entry ∈ entries.take maxSteps) :
      ∃ step, Step.parse (editableEntry entry).toList = .ok step := by
    obtain ⟨step, hstep⟩ := hread entry hentry
    exact exists_parse_editableEntry (h.isWord_of_mem (List.mem_of_mem_take hentry)).2 hstep
      (hoctave entry hentry)
  cases hparse : parse (editable raw) with
  | ok shown =>
    have hlength := ((parse_eq_ok_iff hwords).mp hparse).length_eq
    rw [hfront, List.length_map, hsteps.length_eq] at hlength
    exact ⟨shown, rfl, hlength.symm⟩
  | error e =>
    have hne : ((entries.filter fun entry => ¬IsLost entry).map fun entry =>
        (editableEntry entry).toList) ≠ [] := by
      intro hnil
      have hlength := hsteps.length_eq
      rw [hnil, List.take_nil, eq_comm, List.map_eq_nil_iff] at hfront
      rw [hfront, List.length_nil, eq_comm, List.length_eq_zero_iff] at hlength
      exact melody.ne_nil hlength
    obtain ⟨before, word, after, hsplit, -, hword⟩ := (parse_eq_error_iff hwords hne).mp hparse
    rw [hfront] at hsplit
    obtain ⟨entry, hentry, rfl⟩ := List.mem_map.mp
      (hsplit ▸ by simp : word ∈ (entries.take maxSteps).map fun entry =>
        (editableEntry entry).toList)
    obtain ⟨step, hstep⟩ := hshown entry hentry
    exact absurd (hstep.symm.trans hword) (by simp)

/-- **Any board text made editable.** Let a board text be laid out around some words, whatever they
are.

Each of them becomes the word that is made from it alone, in order, except for those of which
nothing is left. A word with anything before its separator is not lost; so where all words have
that, none is.

If the text is read as a melody, and no nearest note of a frequency in it is in an octave of more
than two digits, what was made from it is read as a melody of as many tones. No nearest note of a
frequency from `10 ^ -28` to `10 ^ 31` Hz is in such an octave. -/
theorem editable_spaced {raw : String} {entries : List (List Char)} (h : Spaced raw.toList entries) :
    Spaced (editable raw).toList
      ((entries.filter fun entry => ¬IsLost entry).map fun entry => (editableEntry entry).toList) ∧
    ((∀ entry ∈ entries, (cut '@' entry).1 ≠ []) →
      Spaced (editable raw).toList (entries.map fun entry => (editableEntry entry).toList)) ∧
    (∀ melody, parse raw = .ok melody →
      (∀ entry ∈ entries.take 100, ∀ x ∈ Decimal.number? (cut '@' entry).1,
        ∀ n ∈ Note.nearestNumber? x, -99 ≤ Note.octaveOf n ∧ Note.octaveOf n ≤ 99) →
      ∃ shown, parse (editable raw) = .ok shown ∧ shown.steps.length = melody.steps.length) ∧
    ∀ x : Number, x.isFinite = true → 1 / 10 ^ 28 ≤ x.value → x.value ≤ 10 ^ 31 →
      ∀ n ∈ Note.nearestNumber? x, -99 ≤ Note.octaveOf n ∧ Note.octaveOf n ≤ 99 := by
  have hwords := words_eq_iff.mp (words_editable h)
  refine ⟨hwords, fun hall => ?_, fun melody hmelody hoctave => ?_, fun x hx hlow hhigh n hn => ?_⟩
  · have hkept : (entries.filter fun entry => ¬IsLost entry) = entries :=
      List.filter_eq_self.mpr fun entry hentry =>
        decide_eq_true fun hlost => hall entry hentry hlost.1
    rwa [hkept] at hwords
  · exact exists_parse_editable h hmelody hoctave
  · exact Note.octave_mem_of_value hx hlow hhigh hn

/-- A tone, a pause and a tone that is cut down to the greatest duration: none of them is lost. -/
theorem editable_spaced_of_three_words :
    Spaced "440 0@250 523@1000".toList ["440".toList, "0@250".toList, "523@1000".toList] ∧
    Spaced (editable "440 0@250 523@1000").toList
      ["A4".toList, "0@0.5".toList, "C5@2".toList] ∧
    ∃ melody shown, parse "440 0@250 523@1000" = .ok melody ∧
      parse (editable "440 0@250 523@1000") = .ok shown ∧ shown.steps.length = 3 := by
  have hspaced : Spaced "440 0@250 523@1000".toList
      ["440".toList, "0@250".toList, "523@1000".toList] := words_eq_iff.mp (by decide)
  obtain ⟨-, hall, hread, -⟩ := editable_spaced hspaced
  obtain ⟨hsteps, hshows, hoctave⟩ :
      (parse "440 0@250 523@1000").map Melody.steps =
        .ok [⟨440, 500⟩, ⟨0, 1000⟩, ⟨523, 1000⟩] ∧
      (["440".toList, "0@250".toList, "523@1000".toList].map fun entry =>
        (editableEntry entry).toList) = ["A4".toList, "0@0.5".toList, "C5@2".toList] ∧
      ∀ entry ∈ ["440".toList, "0@250".toList, "523@1000".toList],
        ∀ x ∈ Decimal.number? (cut '@' entry).1,
          ∀ n ∈ Note.nearestNumber? x, -99 ≤ Note.octaveOf n ∧ Note.octaveOf n ≤ 99 := by
    decide +kernel
  obtain ⟨melody, hmelody, hmelodysteps⟩ := exists_of_map_eq_ok hsteps
  obtain ⟨shown, hshown, hlength⟩ := hread melody hmelody hoctave
  rw [hmelodysteps] at hlength
  have hentries := hall (by decide)
  rw [hshows] at hentries
  exact ⟨hspaced, hentries, melody, shown, hmelody, hshown, hlength⟩

/-- **A word may be lost, and what was read may no longer be**: a separator on its own leaves
nothing, and the note nearest to a frequency may be in an octave that is not read. -/
theorem editable_loses :
    words "440 @ 523@250".toList = ["440".toList, "@".toList, "523@250".toList] ∧
    words (editable "440 @ 523@250").toList = ["A4".toList, "C5@0.5".toList] ∧
    (∃ melody, parse "1e300" = .ok melody) ∧
    parse (editable "1e300") = .error (.invalidNote "G992") := by
  obtain ⟨hwords, hsteps, hrefused⟩ :
      words (editable "440 @ 523@250").toList = ["A4".toList, "C5@0.5".toList] ∧
      (parse "1e300").map Melody.steps = .ok [⟨20000, 500⟩] ∧
      parse (editable "1e300") = .error (.invalidNote "G992") := by
    decide +kernel
  obtain ⟨melody, hmelody, -⟩ := exists_of_map_eq_ok hsteps
  exact ⟨by decide, hwords, ⟨melody, hmelody⟩, hrefused⟩

end Melody

end CarrierLink
