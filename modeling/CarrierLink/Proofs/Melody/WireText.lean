import CarrierLink.Proofs.Melody.RoundTrip
import CarrierLink.Proofs.Wire

/-!
# Melodies as the board stores them

A tone is a numeral, or two with a separator between them
(`CarrierLink.Melody.Step.toList_wireText`). That is one word, which falls apart at the separator
into what it was made from (`CarrierLink.Melody.Step.cut_wireText`), and the words of the text of a
melody are those of its tones (`CarrierLink.Melody.words_wireText`).

`CarrierLink.Melody.ofWire?` is how the board reads such a text: strictly, with a space between
each two entries and nothing but digits for a number. It gives back the tones of the melody
(`CarrierLink.Melody.ofWire?_wireText`), so no tone is lost and no two melodies share a text.
-/

namespace CarrierLink

open Numeral

-- A power is the one of the core library, whatever else is imported.
attribute [local instance (high)] instPowNat

/-- A numeral is read back if it is within the bound. -/
theorem Numeral.unsigned?_decimal {bound n : Nat} (h : n < bound) :
    unsigned? bound (decimal n) = some n := by
  rw [unsigned?_of_isNumeral (isNumeral_decimal n), ofDigits_decimal, if_pos h]

namespace Melody

namespace Step

theorem toList_wireText (step : Step) :
    step.wireText.toList = decimal step.frequency.toNat ++
      if step.hasUnitDuration then [] else separator :: decimal step.duration.toNat := by
  rw [wireText]
  split
  · rw [toList_toString, List.append_nil]
  · change (toString step.frequency.toNat ++ "@" ++ toString step.duration.toNat).toList = _
    rw [String.toList_append, String.toList_append, toList_toString, toList_toString,
      List.append_assoc]
    rfl

theorem cut_wireText (step : Step) : Text.cut separator step.wireText.toList =
    (decimal step.frequency.toNat,
      if step.hasUnitDuration then none else some (decimal step.duration.toNat)) := by
  rw [toList_wireText]
  split
  · rw [List.append_nil, Text.cut_of_notMem (separator_notMem_decimal _)]
  · rw [Text.cut_append_cons (separator_notMem_decimal _)]

theorem isWord_wireText (step : Step) : Text.IsWord step.wireText.toList := by
  rw [toList_wireText]
  refine (isWord_decimal _).append ?_
  cases step.hasUnitDuration with
  | true => exact fun c hc => absurd hc List.not_mem_nil
  | false => exact List.forall_mem_cons.mpr ⟨by decide, (isWord_decimal _).2⟩

end Step

theorem words_wireText (melody : Melody) :
    Text.words melody.wireText.toList = melody.steps.map fun step => step.wireText.toList :=
  Text.words_unwords_map fun step _ => step.isWord_wireText

/-! ### How the board reads -/

/-- A number of board text: digits and nothing else, below `2 ^ 16`. -/
def wireNumber? (s : List Char) : Option UInt16 :=
  if isNumeral s && ofDigits s < 2 ^ 16 then some (UInt16.ofNat (ofDigits s)) else none

/-- An entry of board text: a frequency, and behind a separator the duration if it is not the unit
duration. -/
def Step.ofWire? (entry : List Char) : Option Step := do
  let (frequency, duration) := Text.cut separator entry
  let frequency ← wireNumber? frequency
  let duration ← duration.elim (some (UInt16.ofNat unitDuration)) wireNumber?
  return ⟨frequency, duration⟩

/-- The entries of board text: what stands between its spaces. -/
def wireEntries (text : String) : List (List Char) := Text.pieces (· == ' ') text.toList

/-- **Board text as the board reads it.** -/
def ofWire? (text : String) : Option (List Step) := (wireEntries text).mapM Step.ofWire?

theorem wireNumber?_decimal (n : UInt16) : wireNumber? (decimal n.toNat) = some n := by
  rw [wireNumber?, isNumeral_decimal, ofDigits_decimal, decide_eq_true n.toNat_lt,
    UInt16.ofNat_toNat]
  rfl

/-- **A tone is read back from its entry.** -/
theorem Step.ofWire?_wireText (step : Step) : ofWire? step.wireText.toList = some step := by
  rw [ofWire?, cut_wireText]
  cases hunit : step.hasUnitDuration with
  | true =>
    rw [hasUnitDuration, beq_iff_eq] at hunit
    have hduration : UInt16.ofNat unitDuration = step.duration := by
      rw [← hunit, UInt16.ofNat_toNat]
    simp [wireNumber?_decimal, hduration]
  | false => simp [wireNumber?_decimal]

/-- **There is one entry for each tone**, in order. -/
theorem wireEntries_wireText (melody : Melody) :
    wireEntries melody.wireText = melody.steps.map fun step => step.wireText.toList := by
  have hspace (step : Step) (c : Char) (hc : c ∈ step.wireText.toList) : (c == ' ') = false := by
    have hblank := step.isWord_wireText.2 c hc
    rw [beq_eq_false_iff_ne]
    rintro rfl
    exact absurd hblank (by decide)
  have hne : melody.steps.map Step.wireText ≠ [] := by simpa using melody.ne_nil
  rw [wireEntries, wireText, Text.pieces_unwords (by decide) hne, List.map_map]
  · rfl
  · exact List.forall_mem_map.mpr fun step _ => hspace step

/-- **A melody is read back from its text.** -/
theorem ofWire?_wireText (melody : Melody) : ofWire? melody.wireText = some melody.steps := by
  have hread : (Step.ofWire? ∘ fun step : Step => step.wireText.toList) = fun step => pure step :=
    funext Step.ofWire?_wireText
  rw [ofWire?, wireEntries_wireText, List.mapM_map, hread, List.mapM_pure, List.map_id']
  rfl

theorem eq_of_steps {melody other : Melody} (h : melody.steps = other.steps) : melody = other := by
  cases melody
  cases other
  simpa using h

/-- Melodies with one text are one melody. -/
theorem wireText_inj {melody other : Melody} : other.wireText = melody.wireText ↔ other = melody := by
  refine ⟨fun h => ?_, fun h => h ▸ rfl⟩
  have hread := other.ofWire?_wireText
  rw [h, ofWire?_wireText] at hread
  exact eq_of_steps (Option.some.inj hread).symm

/-! ### Its characters -/

theorem Step.isDigit_or_separator_of_mem_wireText {step : Step} {c : Char}
    (h : c ∈ step.wireText.toList) : c.isDigit = true ∨ c = separator := by
  rw [toList_wireText, List.mem_append] at h
  rcases h with h | h
  · exact .inl (isDigit_of_mem_decimal h)
  · split at h
    · exact absurd h List.not_mem_nil
    · rcases List.mem_cons.mp h with h | h
      · exact .inr h
      · exact .inl (isDigit_of_mem_decimal h)

theorem Step.ofDigits_ne_of_mem_cut {step : Step} {ms : List Char}
    (h : ms ∈ (Text.cut separator step.wireText.toList).2) : ofDigits ms ≠ unitDuration := by
  rw [cut_wireText] at h
  cases hunit : step.hasUnitDuration with
  | true => simp [hunit] at h
  | false =>
    obtain rfl : decimal step.duration.toNat = ms := by simpa [hunit] using h
    rw [ofDigits_decimal]
    simpa [hasUnitDuration] using hunit

/-- The characters of a text are those of its entries, and the spaces between these. -/
theorem mem_wireText {melody : Melody} {c : Char} (h : c ∈ melody.wireText.toList) :
    c.isDigit = true ∨ c = separator ∨ c = ' ' := by
  by_cases hspace : c = ' '
  · exact .inr (.inr hspace)
  · have hkept : c ∈ (wireEntries melody.wireText).flatten := by
      rw [wireEntries, Text.flatten_pieces, List.mem_filter]
      exact ⟨h, by simpa using hspace⟩
    rw [wireEntries_wireText, List.mem_flatten] at hkept
    obtain ⟨entry, hentry, hc⟩ := hkept
    obtain ⟨step, -, rfl⟩ := List.mem_map.mp hentry
    exact (Step.isDigit_or_separator_of_mem_wireText hc).imp_right Or.inl

/-- There are as many bytes as characters, since none of these is beyond ASCII. -/
theorem utf8ByteSize_wireText (melody : Melody) :
    melody.wireText.utf8ByteSize = melody.wireText.length := by
  refine Bytes.utf8ByteSize_eq_length fun c hc => ?_
  rcases mem_wireText hc with hdigit | rfl | rfl
  · have hrange := Char.isDigit_iff_toNat.mp hdigit
    have hnine : '9'.toNat = 57 := rfl
    omega
  · decide
  · decide

/-- **The text of a melody is faithful.** The board reads the tones of the melody from it, so
different melodies have different texts. Its entries, which single spaces separate, are digits
with at most a separator among them, and none of them writes the unit duration out. All of it is
ASCII, so the limit for a text in bytes is one for its characters. -/
theorem wireText_faithful (melody : Melody) :
    ofWire? melody.wireText = some melody.steps ∧
    (∀ other : Melody, other.wireText = melody.wireText ↔ other = melody) ∧
    (∀ entry ∈ wireEntries melody.wireText, entry ≠ [] ∧
      (∀ c ∈ entry, c.isDigit = true ∨ c = '@') ∧
      ∀ ms ∈ (Text.cut '@' entry).2, ofDigits ms ≠ 500) ∧
    melody.wireText.utf8ByteSize = melody.wireText.length ∧
    Wire.text.encode (.text melody.wireText) =
      if melody.wireText.length ≤ 512 then .ok (Bytes.ofText melody.wireText)
      else .error (.textTooLong melody.wireText.length) := by
  refine ⟨melody.ofWire?_wireText, fun other => wireText_inj, fun entry hentry => ?_,
    melody.utf8ByteSize_wireText, ?_⟩
  · rw [wireEntries_wireText] at hentry
    obtain ⟨step, -, rfl⟩ := List.mem_map.mp hentry
    exact ⟨step.isWord_wireText.1, fun c hc => Step.isDigit_or_separator_of_mem_wireText hc,
      fun ms hms => Step.ofDigits_ne_of_mem_cut hms⟩
  · rw [Wire.encode, utf8ByteSize_wireText, Wire.maxTextLength]

/-- The unit duration is left out, and one next to it is not. -/
theorem wireText_faithful_of_two_tones :
    ∃ melody : Melody, melody.steps = [⟨65535, 500⟩, ⟨0, 501⟩] ∧
      melody.wireText = "65535 0@501" ∧
      "0@501".toList ∈ wireEntries melody.wireText ∧
      ofDigits "501".toList ≠ 500 ∧
      ofWire? melody.wireText = some [⟨65535, 500⟩, ⟨0, 501⟩] := by
  let melody : Melody := ⟨[⟨65535, 500⟩, ⟨0, 501⟩], by decide, by decide⟩
  obtain ⟨hread, -, hentries, -⟩ := wireText_faithful melody
  have hmem : "0@501".toList ∈ wireEntries melody.wireText := by decide +kernel
  obtain ⟨-, -, hduration⟩ := hentries _ hmem
  exact ⟨melody, rfl, by decide +kernel, hmem, hduration _ (by decide), hread⟩

end Melody

end CarrierLink
