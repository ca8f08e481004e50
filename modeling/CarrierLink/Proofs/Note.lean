import CarrierLink.Note
import CarrierLink.Proofs.Number.Decimal
import CarrierLink.Proofs.Text.Words

/-!
# Note names that are written and read

A note is read back from its name as long as two digits are enough for its octave
(`CarrierLink.Note.number?_name`). A name is one word without a separator in it, and it is no
number, since no number starts with the letter of a note
(`CarrierLink.Note.finite?_eq_none_of_number?`).
-/

namespace CarrierLink.Note

open Binary Numeral

-- A power is the one of the core library, whatever else is imported.
attribute [local instance (high)] instPowNat

/-! ### Octaves -/

/-- A text that starts with a digit has no sign. -/
theorem octave?_of_isDigit {c : Char} {rest : List Char} (hc : c.isDigit = true) :
    octave? (c :: rest) = if isNumeral (c :: rest) && (c :: rest).length ≤ 2 then
      some (ofDigits (c :: rest) : ℤ) else none := by
  unfold octave?
  split
  · next heq =>
    rw [(List.cons.inj heq).1] at hc
    exact absurd hc (by decide)
  · rfl

/-- **Octaves of one or two digits are read back.** -/
theorem octave?_toString {n : ℤ} (h : n.natAbs ≤ 99) : octave? (toString n).toList = some n := by
  have hshort : (decimal n.natAbs).length ≤ 2 := Nat.toDigits_length 10 _ 2 two_pos (by omega)
  have hread : (isNumeral (decimal n.natAbs) && decide ((decimal n.natAbs).length ≤ 2)) = true := by
    rw [isNumeral_decimal, decide_eq_true hshort, Bool.and_self]
  rw [toList_toString_int]
  split
  · next hneg =>
    simp only [octave?, hread, if_true, ofDigits_decimal, Option.map_some]
    exact congrArg some (by omega)
  · next hnonneg =>
    obtain ⟨c, rest, hdigits, hc⟩ := exists_decimal_eq n.natAbs
    rw [hdigits, octave?_of_isDigit hc, ← hdigits, hread, if_pos rfl, ofDigits_decimal]
    exact congrArg some (by omega)

/-- An octave starts with a digit or a minus sign. -/
theorem exists_toString_eq (n : ℤ) :
    ∃ c rest, (toString n).toList = c :: rest ∧ startsOctave c = true := by
  rw [toList_toString_int]
  split
  · exact ⟨'-', _, rfl, rfl⟩
  · obtain ⟨c, rest, hdigits, hc⟩ := exists_decimal_eq n.natAbs
    exact ⟨c, rest, hdigits, by rw [startsOctave, hc, Bool.true_or]⟩

/-! ### Names -/

/-- **What a text is read as** whose octave starts where it seems to. -/
theorem number?_cons_append {c : Char} {accidental octave : List Char}
    (hkeep : ∀ e ∈ accidental, (!startsOctave e) = true)
    (hoctave : ∃ d digits, octave = d :: digits ∧ startsOctave d = true) :
    number? (c :: (accidental ++ octave)) =
      (letter? c).bind fun letter => (accidental? accidental).bind fun shift =>
        (octave? octave).map fun register => 12 * (register + 1) + letter + shift := by
  obtain ⟨d, digits, rfl, hd⟩ := hoctave
  have htake : (accidental ++ d :: digits).takeWhile (fun e => !startsOctave e) = accidental := by
    rw [List.takeWhile_append_of_pos hkeep]
    simp [hd]
  have hdrop : (accidental ++ d :: digits).dropWhile (fun e => !startsOctave e) = d :: digits := by
    rw [List.dropWhile_append_of_pos hkeep]
    simp [hd]
  rw [number?, htake, hdrop]
  cases octave? (d :: digits) <;> rfl

/-- A note of the scale is a letter, and an accidental in which no octave starts. -/
theorem exists_sharpName_eq {r : Nat} (hr : r < 12) :
    ∃ c letter accidental shift, (sharpNames.getD r "").toList = c :: accidental ∧
      letter? c = some letter ∧ accidental? accidental = some shift ∧ letter + shift = r ∧
      ∀ e ∈ accidental, (!startsOctave e) = true := by
  have hall : ∀ r < 12,
      (((sharpNames.getD r "").toList.head?.bind letter?).bind fun letter =>
        (accidental? (sharpNames.getD r "").toList.tail).map (letter + ·)) = some (r : ℤ) ∧
      ((sharpNames.getD r "").toList.tail.all fun e => !startsOctave e) = true := by
    decide
  obtain ⟨hplace, hkeep⟩ := hall r hr
  obtain ⟨letter, hletter, hplace⟩ := Option.bind_eq_some_iff.mp hplace
  obtain ⟨c, hhead, hletter⟩ := Option.bind_eq_some_iff.mp hletter
  obtain ⟨shift, hshift, hplace⟩ := Option.map_eq_some_iff.mp hplace
  exact ⟨c, letter, _, shift, (List.cons_head?_tail hhead).symm, hletter, hshift, hplace,
    List.all_eq_true.mp hkeep⟩

theorem toList_name (n : ℤ) : (name n).toList =
    (sharpNames.getD (n % 12).toNat "").toList ++ (toString (n / 12 - 1)).toList := by
  rw [name, String.toList_append]

/-- **A note is read back from its name**, as long as its octave has no more than two digits. -/
theorem number?_name {n : ℤ} (h : (n / 12 - 1).natAbs ≤ 99) : number? (name n).toList = some n := by
  obtain ⟨c, letter, accidental, shift, htext, hletter, hshift, hplace, hkeep⟩ :=
    exists_sharpName_eq (by omega : (n % 12).toNat < 12)
  rw [toList_name, htext, List.cons_append, number?_cons_append hkeep (exists_toString_eq _),
    hletter, hshift, octave?_toString h]
  simp only [Option.bind_some, Option.map_some]
  exact congrArg some (by omega)

/-- There is no blank in a name, and no separator. -/
theorem not_isBlank_of_mem_name {n : ℤ} {c : Char} (h : c ∈ (name n).toList) :
    Text.isBlank c = false ∧ c ≠ '@' := by
  have hdigit (c : Char) (hc : c.isDigit = true) : Text.isBlank c = false ∧ c ≠ '@' := by
    refine ⟨Text.isBlank_of_isDigit hc, ?_⟩
    rintro rfl
    exact absurd hc (by decide)
  rw [toList_name, List.mem_append, toList_toString_int] at h
  rcases h with h | h
  · have hall : ∀ r < 12, ((sharpNames.getD r "").toList.all fun c =>
        !Text.isBlank c && c != '@') = true := by
      decide
    simpa using List.all_eq_true.mp (hall (n % 12).toNat (by omega)) c h
  · split at h
    · rcases List.mem_cons.mp h with rfl | h
      · decide
      · exact hdigit c (isDigit_of_mem_decimal h)
    · exact hdigit c (isDigit_of_mem_decimal h)

theorem isWord_name (n : ℤ) : Text.IsWord (name n).toList := by
  refine ⟨?_, fun c hc => (not_isBlank_of_mem_name hc).1⟩
  obtain ⟨c, rest, hoctave, -⟩ := exists_toString_eq (n / 12 - 1)
  rw [toList_name, hoctave]
  exact List.append_ne_nil_of_right_ne_nil _ (List.cons_ne_nil c rest)

theorem separator_notMem_name (n : ℤ) : '@' ∉ (name n).toList := fun hmem =>
  (not_isBlank_of_mem_name hmem).2 rfl

/-! ### Names and numbers -/

theorem mem_letters {c : Char} (h : (letter? c).isSome = true) : c ∈ "CDEFGABcdefgab".toList := by
  unfold letter? at h
  split at h <;> first | decide | exact absurd h Bool.false_ne_true

/-- **No number starts with the letter of a note.** -/
theorem finite?_eq_none {c : Char} {rest : List Char} (h : (letter? c).isSome = true) :
    Decimal.finite? (c :: rest) = none := by
  have hall : ("CDEFGABcdefgab".toList.all fun c => !c.isDigit && c != '-' && c != '+' && c != '.' &&
      c.toLower != 'i' && c.toLower != 'n') = true := by
    decide
  obtain ⟨⟨⟨⟨⟨hdigit, hminus⟩, hplus⟩, hpoint⟩, hi⟩, hn⟩ :
      ((((c.isDigit = false ∧ c ≠ '-') ∧ c ≠ '+') ∧ c ≠ '.') ∧ c.toLower ≠ 'i') ∧ c.toLower ≠ 'n' := by
    simpa using List.all_eq_true.mp hall c (mem_letters h)
  have hmagnitude : Decimal.Literal.magnitude? (c :: rest) = none := by
    simp [Decimal.Literal.magnitude?, hdigit, hpoint]
  have hword (s : String) (hs : s.toList.head? ≠ some c.toLower) :
      String.ofList ((c :: rest).map Char.toLower) ≠ s := by
    rintro rfl
    exact hs (by simp)
  have hunsigned : Decimal.Literal.unsigned? false (c :: rest) = none := by
    have hinf := hword "inf" (by simpa using hi.symm)
    have hinfinity := hword "infinity" (by simpa using hi.symm)
    have hnan := hword "nan" (by simpa using hn.symm)
    rw [Decimal.Literal.unsigned?, hmagnitude]
    simp only [hinf, hinfinity, hnan, decide_false, Bool.or_self, Bool.false_eq_true, if_false]
  have hparse : Decimal.Literal.parse? (c :: rest) = none := by
    rw [← hunsigned]
    unfold Decimal.Literal.parse?
    split
    · next heq => exact absurd (List.cons.inj heq).1 hminus
    · next heq => exact absurd (List.cons.inj heq).1 hplus
    · rfl
  rw [Decimal.finite?, Decimal.number?, hparse]
  rfl

/-- What names a note is not taken for a number. -/
theorem finite?_eq_none_of_number? {s : List Char} {n : ℤ} (h : number? s = some n) :
    Decimal.finite? s = none := by
  cases s with
  | nil => exact absurd h (by simp [number?])
  | cons c rest =>
    obtain ⟨letter, hletter, -⟩ := Option.bind_eq_some_iff.mp h
    exact finite?_eq_none (Option.isSome_of_eq_some hletter)

end CarrierLink.Note
