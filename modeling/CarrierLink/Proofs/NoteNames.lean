import CarrierLink.Proofs.Note
import CarrierLink.Proofs.Tuning

/-!
# The names of the notes

What texts are names, and of which notes (`CarrierLink.Note.Names`): a letter of the scale, an
accidental and an octave of one or two digits, with nothing before, between or after them. A reader
that cuts a text at the first digit or minus sign finds just these
(`CarrierLink.Note.number?_eq_some_iff`), because neither stands in an accidental.

An accidental may carry a note into the next octave, so that a note has many names. They all sound
alike, different notes sound different, the higher ones higher, and each is recognized by its sound
(`CarrierLink.Tuning.names_faithful`). It is then spelled with a sharp (`CarrierLink.Note.Sharp`),
whatever it was called before. Neighbours differ by about a seventeenth of their frequency, and so
the last bits of a logarithm or a power do not matter.
-/

namespace CarrierLink

open Binary

-- A power is the one of the core library, whatever else is imported.
attribute [local instance (high)] instPowNat

/-! ### Names -/

namespace Note

/-- The letters of the scale, with the semitones from C up to them. -/
def letters : List (Char × ℤ) :=
  [('C', 0), ('D', 2), ('E', 4), ('F', 5), ('G', 7), ('A', 9), ('B', 11)]

/-- The accidentals, with the semitones that they add. -/
def accidentals : List (String × ℤ) :=
  [("", 0), ("#", 1), ("##", 2), ("x", 2), ("b", -1), ("bb", -2)]

/-- **The text of an octave**: one or two digits, with a minus sign below zero. -/
inductive Octave : List Char → ℤ → Prop
  | above {digits : List Char} (hlength : digits.length = 1 ∨ digits.length = 2)
      (hdigits : ∀ c ∈ digits, c.isDigit = true) : Octave digits (Numeral.ofDigits digits)
  | below {digits : List Char} (hlength : digits.length = 1 ∨ digits.length = 2)
      (hdigits : ∀ c ∈ digits, c.isDigit = true) :
      Octave ('-' :: digits) (-Numeral.ofDigits digits)

/-- **A name of the note with a number**: a letter and an accidental, both in either case, and an
octave. -/
def Names (s : List Char) (number : ℤ) : Prop :=
  ∃ letter pitch spelled shift c accidental octave register,
    (letter, pitch) ∈ letters ∧ (spelled, shift) ∈ accidentals ∧
      (c = letter ∨ c = letter.toLower) ∧ accidental.map Char.toLower = spelled.toList ∧
      Octave octave register ∧ s = c :: (accidental ++ octave) ∧
      number = 12 * (register + 1) + pitch + shift

variable {s accidental octave : List Char} {c : Char} {n pitch shift register : ℤ}

theorem letter?_eq_some_iff : letter? c = some pitch ↔
    ∃ letter, (letter, pitch) ∈ letters ∧ (c = letter ∨ c = letter.toLower) := by
  constructor
  · intro h
    have hall : ("CDEFGABcdefgab".toList.all fun c => letters.any fun entry =>
        letter? c == some entry.2 && (c == entry.1 || c == entry.1.toLower)) = true := by
      decide
    have hc := List.all_eq_true.mp hall c (mem_letters (Option.isSome_of_eq_some h))
    obtain ⟨⟨letter, pitch'⟩, hmem, heq⟩ := List.any_eq_true.mp hc
    rw [h] at heq
    obtain ⟨rfl, hcase⟩ : pitch = pitch' ∧ (c = letter ∨ c = letter.toLower) := by simpa using heq
    exact ⟨letter, hmem, hcase⟩
  · rintro ⟨letter, hmem, hcase⟩
    have hall : (letters.all fun entry =>
        letter? entry.1 == some entry.2 && letter? entry.1.toLower == some entry.2) = true := by
      decide
    obtain ⟨hupper, hlower⟩ :
        letter? letter = some pitch ∧ letter? letter.toLower = some pitch := by
      simpa using List.all_eq_true.mp hall _ hmem
    rcases hcase with rfl | rfl
    · exact hupper
    · exact hlower

theorem accidental?_eq_some_iff : accidental? accidental = some shift ↔
    ∃ spelled, (spelled, shift) ∈ accidentals ∧
      accidental.map Char.toLower = spelled.toList := by
  constructor
  · intro h
    unfold accidental? at h
    split at h <;> rename_i hspelled
    · exact ⟨"", by simp_all [accidentals], hspelled⟩
    · exact ⟨"#", by simp_all [accidentals], hspelled⟩
    · exact ⟨"##", by simp_all [accidentals], hspelled⟩
    · exact ⟨"x", by simp_all [accidentals], hspelled⟩
    · exact ⟨"b", by simp_all [accidentals], hspelled⟩
    · exact ⟨"bb", by simp_all [accidentals], hspelled⟩
    · exact absurd h (by simp)
  · rintro ⟨spelled, hmem, hspelled⟩
    have hall : (accidentals.all fun entry =>
        accidental? entry.1.toList == some entry.2 &&
          entry.1.toList.map Char.toLower == entry.1.toList) = true := by
      decide
    obtain ⟨hread, hlower⟩ : accidental? spelled.toList = some shift ∧
        spelled.toList.map Char.toLower = spelled.toList := by
      simpa using List.all_eq_true.mp hall _ hmem
    rw [accidental?, hlower] at hread
    rw [accidental?, hspelled]
    exact hread

theorem octave?_eq_some_iff : octave? octave = some register ↔ Octave octave register := by
  have hread {digits : List Char} :
      (Numeral.isNumeral digits && decide (digits.length ≤ 2)) = true ↔
        (digits.length = 1 ∨ digits.length = 2) ∧ ∀ c ∈ digits, c.isDigit = true := by
    rw [Bool.and_eq_true, decide_eq_true_iff, Numeral.isNumeral_iff, ← List.length_pos_iff_ne_nil]
    constructor
    · exact fun h => ⟨by omega, h.1.2⟩
    · exact fun h => ⟨⟨by omega, h.2⟩, by omega⟩
  constructor
  · intro h
    unfold octave? at h
    dsimp only at h
    split at h
    · next digits =>
      split at h
      · next hdigits =>
        obtain rfl : -(Numeral.ofDigits digits : ℤ) = register := by simpa using h
        exact .below (hread.mp hdigits).1 (hread.mp hdigits).2
      · exact absurd h (by simp)
    · split at h
      · next hdigits =>
        obtain rfl := Option.some.inj h
        exact .above (hread.mp hdigits).1 (hread.mp hdigits).2
      · exact absurd h (by simp)
  · intro h
    cases h with
    | above hlength hdigits =>
      cases octave with
      | nil => simp at hlength
      | cons d digits =>
        rw [octave?_of_isDigit (hdigits d List.mem_cons_self),
          if_pos (hread.mpr ⟨hlength, hdigits⟩)]
    | below hlength hdigits =>
      simp only [octave?, hread.mpr ⟨hlength, hdigits⟩, if_true, Option.map_some]

/-- An octave starts where a reader looks for it. -/
theorem Octave.exists_eq_cons (h : Octave octave register) :
    ∃ d digits, octave = d :: digits ∧ startsOctave d = true := by
  cases h with
  | above hlength hdigits =>
    cases octave with
    | nil => simp at hlength
    | cons d digits => exact ⟨d, digits, rfl, by simp [startsOctave, hdigits d]⟩
  | below => exact ⟨'-', _, rfl, rfl⟩

theorem Octave.register_mem (h : Octave octave register) : -99 ≤ register ∧ register ≤ 99 := by
  have hlt {digits : List Char} (hlength : digits.length = 1 ∨ digits.length = 2)
      (hdigits : ∀ c ∈ digits, c.isDigit = true) : Numeral.ofDigits digits < 100 :=
    (Numeral.ofDigits_lt hdigits).trans_le (by rcases hlength with h | h <;> simp [h])
  cases h with
  | above hlength hdigits =>
    have := hlt hlength hdigits
    omega
  | below hlength hdigits =>
    have := hlt hlength hdigits
    omega

/-- Where an octave starts there is nothing whose case could be changed. -/
theorem toLower_of_startsOctave {e : Char} (h : startsOctave e = true) : e.toLower = e := by
  rw [startsOctave, Bool.or_eq_true, beq_iff_eq] at h
  rcases h with hdigit | rfl
  · rw [Char.isDigit, Bool.and_eq_true, decide_eq_true_iff, decide_eq_true_iff] at hdigit
    exact dif_neg fun hupper => absurd (UInt32.le_trans hupper.1 hdigit.2) (by decide)
  · decide

/-- No octave starts in an accidental. -/
theorem not_startsOctave_of_mem {spelled : String} (hmem : (spelled, shift) ∈ accidentals)
    (hspelled : accidental.map Char.toLower = spelled.toList) :
    ∀ e ∈ accidental, (!startsOctave e) = true := by
  intro e he
  have hall : (accidentals.all fun entry =>
      entry.1.toList.all fun e => !startsOctave e) = true := by
    decide
  have hlower : (!startsOctave e.toLower) = true :=
    List.all_eq_true.mp (List.all_eq_true.mp hall _ hmem) _
      (hspelled ▸ List.mem_map_of_mem he)
  by_contra hstarts
  rw [Bool.not_eq_true', Bool.not_eq_false] at hstarts
  rw [toLower_of_startsOctave hstarts, hstarts] at hlower
  exact absurd hlower Bool.false_ne_true

/-- **The texts that are read as a note** are its names. -/
theorem number?_eq_some_iff : number? s = some n ↔ Names s n := by
  constructor
  · intro h
    cases s with
    | nil => exact absurd h (by simp [number?])
    | cons c rest =>
      simp only [number?, Option.bind_eq_bind, Option.bind_eq_some_iff] at h
      obtain ⟨pitch, hletter, shift, haccidental, register, hoctave, h⟩ := h
      obtain ⟨letter, hmem, hcase⟩ := letter?_eq_some_iff.mp hletter
      obtain ⟨spelled, hmem', hspelled⟩ := accidental?_eq_some_iff.mp haccidental
      exact ⟨letter, pitch, spelled, shift, c, _, _, register, hmem, hmem', hcase, hspelled,
        octave?_eq_some_iff.mp hoctave,
        congrArg (c :: ·) (List.takeWhile_append_dropWhile ..).symm, (Option.some.inj h).symm⟩
  · rintro ⟨letter, pitch, spelled, shift, c, accidental, octave, register, hmem, hmem', hcase,
      hspelled, hoctave, rfl, rfl⟩
    rw [number?_cons_append (not_startsOctave_of_mem hmem' hspelled) hoctave.exists_eq_cons,
      letter?_eq_some_iff.mpr ⟨letter, hmem, hcase⟩,
      accidental?_eq_some_iff.mpr ⟨spelled, hmem', hspelled⟩, octave?_eq_some_iff.mpr hoctave]
    rfl

/-- The lowest note that has a name is the C flattened twice of octave -99, the highest the B
sharpened twice of octave 99. -/
theorem Names.number_mem (h : Names s n) : -1178 ≤ n ∧ n ≤ 1213 := by
  obtain ⟨letter, pitch, spelled, shift, c, accidental, octave, register, hmem, hmem', -, -,
    hoctave, -, rfl⟩ := h
  have hletters : ∀ entry ∈ letters, 0 ≤ entry.2 ∧ entry.2 ≤ 11 := by decide
  have haccidentals : ∀ entry ∈ accidentals, -2 ≤ entry.2 ∧ entry.2 ≤ 2 := by decide
  have hpitch := hletters _ hmem
  have hshift := haccidentals _ hmem'
  have hregister := hoctave.register_mem
  dsimp only at hpitch hshift
  omega

theorem Names.unique {n' : ℤ} (h : Names s n) (h' : Names s n') : n = n' :=
  Option.some.inj ((number?_eq_some_iff.mpr h).symm.trans (number?_eq_some_iff.mpr h'))

/-! ### Spellings with a sharp -/

/-- **An octave in full**: as many digits as it has, with no zero in front of them, and a minus
sign below zero. -/
inductive Register : List Char → ℤ → Prop
  | above {digits : List Char} (hne : digits ≠ []) (hdigits : ∀ c ∈ digits, c.isDigit = true)
      (hfront : digits.head? = some '0' → digits = ['0']) :
      Register digits (Numeral.ofDigits digits)
  | below {digits : List Char} (hne : digits ≠ []) (hdigits : ∀ c ∈ digits, c.isDigit = true)
      (hfront : digits.head? ≠ some '0') : Register ('-' :: digits) (-Numeral.ofDigits digits)

/-- The letters of the notes above which there is one without a letter of its own. -/
def raised : List Char := ['C', 'D', 'F', 'G', 'A']

/-- **The spelling of a note with a sharp**: a capital letter and its octave. A note without a
letter of its own has the letter of the note below it, and a sharp. -/
inductive Sharp : List Char → ℤ → Prop
  | natural {letter : Char} {pitch register : ℤ} {octave : List Char}
      (hletter : (letter, pitch) ∈ letters) (hoctave : Register octave register) :
      Sharp (letter :: octave) (12 * (register + 1) + pitch)
  | sharp {letter : Char} {pitch register : ℤ} {octave : List Char}
      (hletter : (letter, pitch) ∈ letters) (hraised : letter ∈ raised)
      (hoctave : Register octave register) :
      Sharp (letter :: '#' :: octave) (12 * (register + 1) + pitch + 1)

theorem register_iff : Register octave register ↔ octave = (toString register).toList := by
  rw [Numeral.toList_toString_int]
  constructor
  · intro h
    cases h with
    | above hne hdigits hfront =>
      have hwritten := Numeral.decimal_ofDigits (Numeral.isNumeral_iff.mpr ⟨hne, hdigits⟩) hfront
      rw [if_neg (by omega), Int.natAbs_natCast, hwritten]
    | @below digits hne hdigits hfront =>
      have hwritten := Numeral.decimal_ofDigits (Numeral.isNumeral_iff.mpr ⟨hne, hdigits⟩)
        fun hzero => absurd hzero hfront
      have hpos : 0 < Numeral.ofDigits digits := by
        refine Nat.pos_of_ne_zero fun hzero => hfront ?_
        rw [← hwritten, hzero]
        rfl
      rw [if_pos (by omega), Int.natAbs_neg, Int.natAbs_natCast, hwritten]
  · rintro rfl
    obtain ⟨hne, hdigits⟩ := Numeral.isNumeral_iff.mp (Numeral.isNumeral_decimal register.natAbs)
    split
    · next hneg =>
      have hfront : (Numeral.decimal register.natAbs).head? ≠ some '0' := by
        intro hzero
        have hvalue := Numeral.ofDigits_decimal register.natAbs
        rw [Numeral.decimal_eq_of_head? hzero] at hvalue
        change 0 = register.natAbs at hvalue
        omega
      have hbelow := Register.below hne hdigits hfront
      rwa [Numeral.ofDigits_decimal, (by omega : -(register.natAbs : ℤ) = register)] at hbelow
    · have habove := Register.above hne hdigits Numeral.decimal_eq_of_head?
      rwa [Numeral.ofDigits_decimal, (by omega : (register.natAbs : ℤ) = register)] at habove

/-- A note by its octave and its place above the C of the octave. -/
theorem toList_name_of_lt {place : Nat} (hplace : place < 12) (register : ℤ) :
    (name (12 * (register + 1) + place)).toList =
      (sharpNames.getD place "").toList ++ (toString register).toList := by
  rw [toList_name, (by omega : ((12 * (register + 1) + place) % 12).toNat = place),
    (by omega : (12 * (register + 1) + place) / 12 - 1 = register)]

/-- **A note has one spelling with a sharp**, and it is the name that is written. -/
theorem sharp_iff : Sharp s n ↔ s = (name n).toList := by
  constructor
  · intro h
    cases h with
    | @natural letter pitch register _ hletter hoctave =>
      have hall : ∀ entry ∈ letters, ∃ place < 12, entry.2 = (place : Nat) ∧
          (sharpNames.getD place "").toList = [entry.1] := by
        decide
      obtain ⟨place, hlt, rfl, htext⟩ := hall _ hletter
      rw [toList_name_of_lt hlt, htext, register_iff.mp hoctave, List.singleton_append]
    | @sharp letter pitch register _ hletter hraised hoctave =>
      have hall : ∀ entry ∈ letters, entry.1 ∈ raised →
          ∃ place < 12, entry.2 + 1 = (place : Nat) ∧
            (sharpNames.getD place "").toList = [entry.1, '#'] := by
        decide
      obtain ⟨place, hlt, hplace, htext⟩ := hall _ hletter hraised
      dsimp only at hplace htext
      rw [add_assoc, hplace, toList_name_of_lt hlt, htext, register_iff.mp hoctave]
      rfl
  · rintro rfl
    have hall : ∀ place < 12, ∃ entry ∈ letters,
        entry.2 = (place : Nat) ∧ (sharpNames.getD place "").toList = [entry.1] ∨
        entry.1 ∈ raised ∧ entry.2 + 1 = (place : Nat) ∧
          (sharpNames.getD place "").toList = [entry.1, '#'] := by
      decide
    have hlt : (n % 12).toNat < 12 := by omega
    have hregister := register_iff.mpr (rfl : (toString (n / 12 - 1)).toList = _)
    obtain ⟨⟨letter, pitch⟩, hletter, ⟨hplace, htext⟩ | ⟨hraised, hplace, htext⟩⟩ := hall _ hlt
    · have hnatural := Sharp.natural hletter hregister
      dsimp only at hplace htext
      rwa [(by omega : 12 * (n / 12 - 1 + 1) + pitch = n), ← List.singleton_append, ← htext,
        ← toList_name] at hnatural
    · have hsharp := Sharp.sharp hletter hraised hregister
      dsimp only at hplace htext
      rw [(by omega : 12 * (n / 12 - 1 + 1) + pitch + 1 = n)] at hsharp
      rwa [toList_name, htext]

end Note

/-! ### Sounds -/

namespace Tuning

namespace Near

variable {T : Tuning} {n : ℤ}

/-- **The place of a pitch** is itself, to the last bits. -/
theorem position_near (hT : T.Near) (hn : |n| ≤ 1300) :
    (0 : ℝ) < (T.hertz n).value ∧ |Pitch.position (T.hertz n).value - n| ≤ 1 / 10 ^ 6 := by
  obtain ⟨-, hnear⟩ := hT.hertz_near n hn
  have hfrequency := Pitch.frequency_pos n
  have hpos : (0 : ℝ) < (T.hertz n).value := by
    have hbelow := (abs_le.mp hnear).1
    norm_num at hbelow
    linarith
  have hlog := abs_logb_sub_le (x := Pitch.frequency n / 440) (y := (T.hertz n).value / 440)
    (t := 1 / 10 ^ 8) (by positivity) (by positivity) (by positivity) (by norm_num) (by
      rw [← sub_div, abs_div, abs_of_pos (by norm_num : (0 : ℝ) < 440)]
      norm_num at hnear ⊢
      linarith)
  refine ⟨hpos, ?_⟩
  rw [← Pitch.position_frequency n, Pitch.position, Pitch.position, ← mul_sub, abs_mul,
    abs_of_pos (by norm_num : (0 : ℝ) < 12)]
  norm_num at hlog ⊢
  linarith

/-- **A higher pitch has a higher frequency.** -/
theorem strictMonoOn_hertz (hT : T.Near) :
    StrictMonoOn (fun n => (T.hertz n).value) {n | |n| ≤ 1300} := by
  intro m hm n hn hlt
  obtain ⟨-, hplace⟩ := hT.position_near hm
  obtain ⟨hpos, hplace'⟩ := hT.position_near hn
  have hgap : (m : ℝ) + 1 ≤ n := by exact_mod_cast hlt
  by_contra hle
  have hle' : ((T.hertz n).value : ℝ) ≤ (T.hertz m).value := by exact_mod_cast not_lt.mp hle
  -- Otherwise the lower of them would stand almost a semitone above its place.
  have hposition : Pitch.position (T.hertz n).value ≤ Pitch.position (T.hertz m).value := by
    rcases hle'.lt_or_eq with hlt | heq
    · exact (Pitch.position_lt_position hpos hlt).le
    · rw [heq]
  have habove := (abs_le.mp hplace).2
  have hbelow := (abs_le.mp hplace').1
  norm_num at habove hbelow
  linarith

/-- The pitches that have names are neither too low nor too high to be recognized. -/
theorem hertz_mem (hT : T.Near) (hlow : -1250 ≤ n) (hhigh : n ≤ 1250) :
    1 / 2 ^ 100 ≤ (T.hertz n).value ∧ (T.hertz n).value ≤ 2 ^ 150 := by
  obtain ⟨-, hnear⟩ := hT.hertz_near n (abs_le.mpr ⟨by omega, by omega⟩)
  have hlow' : (-1250 : ℝ) ≤ n := by exact_mod_cast hlow
  have hhigh' : (n : ℝ) ≤ 1250 := by exact_mod_cast hhigh
  have hmin : (2 : ℝ) ^ (-105 : ℝ) ≤ 2 ^ (n / 12 : ℝ) :=
    Real.rpow_le_rpow_of_exponent_le one_le_two (by linarith)
  have hmax : (2 : ℝ) ^ (n / 12 : ℝ) ≤ 2 ^ (105 : ℝ) :=
    Real.rpow_le_rpow_of_exponent_le one_le_two (by linarith)
  rw [Real.rpow_neg two_pos.le] at hmin
  obtain ⟨hbelow, habove⟩ := abs_le.mp hnear
  rw [Pitch.frequency] at hbelow habove
  constructor
  · have hreal : ((1 / 2 ^ 100 : ℚ) : ℝ) ≤ (T.hertz n).value := by
      push_cast
      norm_num at hmin hbelow ⊢
      linarith
    exact Rat.cast_le.mp hreal
  · have hreal : ((T.hertz n).value : ℝ) ≤ (2 ^ 150 : ℚ) := by
      push_cast
      norm_num at hmax habove ⊢
      linarith
    exact Rat.cast_le.mp hreal

/-- **A pitch is recognized** by its frequency. -/
theorem nearest?_hertz (hT : T.Near) (hlow : -1250 ≤ n) (hhigh : n ≤ 1250) :
    T.nearest? (T.hertz n) = some (Note.name (Note.concertA + n)) := by
  have hn : |n| ≤ 1300 := abs_le.mpr ⟨by omega, by omega⟩
  obtain ⟨hmin, hmax⟩ := hT.hertz_mem hlow hhigh
  exact hT.nearest?_eq (hT.hertz_near n hn).1 hmin hmax
    ((hT.position_near hn).2.trans (by norm_num))

end Near

end Tuning

/-! ### Names and their sounds -/

namespace Note

/-- **What notes sound like and are called**, by two functions from texts to frequencies and from
frequencies to texts. -/
structure Faithful (frequency? : List Char → Option Number) (nearest? : Number → Option String) :
    Prop where
  /-- A text has a frequency if it is the name of a note, and only then. -/
  isSome_iff : ∀ s, (frequency? s).isSome ↔ ∃ n, Names s n
  isFinite : ∀ s f, frequency? s = some f → f.isFinite = true
  /-- Names have the same frequency if they are names of the same note, and only then. -/
  value_eq_iff : ∀ s t m n f g, Names s m → Names t n → frequency? s = some f →
    frequency? t = some g → (f.value = g.value ↔ m = n)
  /-- A higher note has a higher frequency. -/
  value_lt : ∀ s t m n f g, Names s m → Names t n → frequency? s = some f →
    frequency? t = some g → m < n → f.value < g.value
  /-- A note gets its one spelling with a sharp, however it was called before. -/
  nearest?_eq : ∀ s n f, Names s n → frequency? s = some f →
    ∃ text, nearest? f = some text ∧ ∀ t, Sharp t n ↔ t = text.toList

end Note

namespace Tuning

variable {T : Tuning} {s : List Char} {n : ℤ} {f : Number}

theorem frequency?_eq_some_iff :
    T.frequency? s = some f ↔ ∃ n, Note.Names s n ∧ T.hertz (n - Note.concertA) = f := by
  simp only [frequency?, Option.map_eq_some_iff, Note.number?_eq_some_iff]

/-- The note that is meant by a name. -/
theorem eq_hertz_of_names (hs : Note.Names s n) (hf : T.frequency? s = some f) :
    f = T.hertz (n - Note.concertA) := by
  obtain ⟨n', hs', rfl⟩ := frequency?_eq_some_iff.mp hf
  rw [hs.unique hs']

/-- **A tuning that is near enough tells the notes apart.** -/
theorem Near.faithful (hT : T.Near) : Note.Faithful T.frequency? T.nearest? := by
  have hmem {s : List Char} {n : ℤ} (hs : Note.Names s n) :
      -1250 ≤ n - Note.concertA ∧ n - Note.concertA ≤ 1250 := by
    have hnumber := hs.number_mem
    rw [Note.concertA]
    omega
  have habs {s : List Char} {n : ℤ} (hs : Note.Names s n) : |n - Note.concertA| ≤ 1300 :=
    abs_le.mpr ⟨by linarith [(hmem hs).1], by linarith [(hmem hs).2]⟩
  refine ⟨fun s => ?_, fun s f hf => ?_, fun s t m n f g hs ht hf hg => ?_,
    fun s t m n f g hs ht hf hg h => ?_, fun s n f hs hf => ?_⟩
  · rw [Option.isSome_iff_exists]
    constructor
    · rintro ⟨f, hf⟩
      obtain ⟨n, hs, -⟩ := frequency?_eq_some_iff.mp hf
      exact ⟨n, hs⟩
    · rintro ⟨n, hs⟩
      exact ⟨_, frequency?_eq_some_iff.mpr ⟨n, hs, rfl⟩⟩
  · obtain ⟨n, hs, rfl⟩ := frequency?_eq_some_iff.mp hf
    exact (hT.hertz_near _ (habs hs)).1
  · rw [eq_hertz_of_names hs hf, eq_hertz_of_names ht hg]
    exact (hT.strictMonoOn_hertz.injOn.eq_iff (habs hs) (habs ht)).trans sub_left_inj
  · rw [eq_hertz_of_names hs hf, eq_hertz_of_names ht hg]
    exact hT.strictMonoOn_hertz (habs hs) (habs ht) (sub_lt_sub_right h Note.concertA)
  · refine ⟨Note.name n, ?_, fun t => Note.sharp_iff⟩
    rw [eq_hertz_of_names hs hf, hT.nearest?_hertz (hmem hs).1 (hmem hs).2, add_sub_cancel]

/-- **The texts with a frequency are the names of notes**: a letter of the scale in either case, an
accidental in any case, and an octave of one or two digits. Two names have the same frequency if
and only if they are names of the same note, a higher note has a higher frequency, and from its
frequency each note gets its name with a sharp.

This is so with the logarithm and the pitches in use, and with any library whose logarithm and
powers of two are right to nine digits. -/
theorem names_faithful :
    Note.Faithful Note.frequency? Note.nearest? ∧
      ∀ log2 exp2, NearLibrary log2 exp2 →
        Note.Faithful (ofLibrary log2 exp2).frequency? (ofLibrary log2 exp2).nearest? :=
  ⟨standard_accurate.near.faithful, fun _ _ hlibrary => (ofLibrary_near hlibrary).faithful⟩

/-- The flattened C is the B below it, an octave lower in name; it is lower than the C itself. -/
theorem names_faithful_of_flat :
    ∃ f g, (ofLibrary double.log2 power).frequency? "Cb0".toList = some f ∧
      (ofLibrary double.log2 power).frequency? "c0".toList = some g ∧ f.value < g.value ∧
      (ofLibrary double.log2 power).nearest? f = some "B-1" := by
  obtain ⟨-, hlibrary⟩ := names_faithful
  have hfaithful := hlibrary double.log2 power double_accurate.near
  have hs : Note.Names "Cb0".toList 11 := Note.number?_eq_some_iff.mp (by decide)
  have ht : Note.Names "c0".toList 12 := Note.number?_eq_some_iff.mp (by decide)
  obtain ⟨f, hf⟩ := Option.isSome_iff_exists.mp ((hfaithful.isSome_iff _).mpr ⟨_, hs⟩)
  obtain ⟨g, hg⟩ := Option.isSome_iff_exists.mp ((hfaithful.isSome_iff _).mpr ⟨_, ht⟩)
  obtain ⟨text, hnearest, hunique⟩ := hfaithful.nearest?_eq _ _ _ hs hf
  have hsharp : Note.Sharp "B-1".toList 11 := Note.sharp_iff.mpr (by decide)
  refine ⟨f, g, hf, hg, hfaithful.value_lt _ _ _ _ _ _ hs ht hf hg (by decide), ?_⟩
  rw [hnearest, String.toList_inj.mp ((hunique _).mp hsharp)]

end Tuning

end CarrierLink
