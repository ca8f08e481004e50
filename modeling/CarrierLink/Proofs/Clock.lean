import CarrierLink.Clock
import CarrierLink.Proofs.Number.Decimal
import CarrierLink.Proofs.Text.Words
import CarrierLink.Proofs.Wire

/-!
# Clock times as they are typed and shown

A time is typed as an hour of one digit or two, a colon and a minute of two digits, with any
blanks around it (`CarrierLink.ClockTime.Typed`). The reader has no such pattern: it cuts what is
left between the blanks at the first colon and looks at the two parts. That comes to the same
(`CarrierLink.ClockTime.typed_iff`), because no digit is a colon. A sign, a second colon, a blank
inside or a digit of another script are all in one of the parts then, which is no numeral for it.

A reader that works on bytes finds the same (`CarrierLink.ClockTime.parse_eq_parseBytes`). There
the length of a part is that of its UTF-8, so that a single character may already be too long, and
its number has to fit in a byte. But a character that is no digit has a byte that no digit has, so
what is let through is the same, and two digits never fail to fit.

What a time is shown as is the longer of the two ways to type it, so it is read back.
-/

namespace CarrierLink.ClockTime

open Numeral

/-! ### What is typed -/

/-- **A time as it is typed**: an hour of one digit or two, a colon, and a minute of two digits. -/
inductive Typed : List Char → Nat → Nat → Prop
  | short (h m n : Fin 10) :
      Typed [Nat.digitChar h, ':', Nat.digitChar m, Nat.digitChar n] h (10 * m + n)
  | long (g h m n : Fin 10) :
      Typed [Nat.digitChar g, Nat.digitChar h, ':', Nat.digitChar m, Nat.digitChar n]
        (10 * g + h) (10 * m + n)

/-- **The two parts of a time**: numerals, the first of up to two digits and the second of two. -/
structure Parts (front back : List Char) : Prop where
  numeral_front : isNumeral front = true
  length_front : front.length ≤ 2
  numeral_back : isNumeral back = true
  length_back : back.length = 2

variable {s : String} {t front back : List Char} {hour minute : Nat} {time : ClockTime}

/-- The check of the parts. -/
theorem parts_iff : Parts front back ↔
    (isNumeral front && decide (front.length ≤ 2) && isNumeral back &&
      back.length == 2) = true := by
  simp only [Bool.and_eq_true, decide_eq_true_eq, beq_iff_eq]
  exact ⟨fun h => ⟨⟨⟨h.numeral_front, h.length_front⟩, h.numeral_back⟩, h.length_back⟩,
    fun h => ⟨h.1.1.1, h.1.1.2, h.1.2, h.2⟩⟩

/-- There is no colon in a numeral. -/
theorem colon_notMem (h : isNumeral front = true) : ':' ∉ front := fun hmem =>
  absurd ((isNumeral_iff.mp h).2 ':' hmem) (by decide)

/-- **A typed time is cut at its colon**, and any text that can be cut like this is one. -/
theorem typed_iff : Typed t hour minute ↔ ∃ front back, Text.cut ':' t = (front, some back) ∧
    Parts front back ∧ ofDigits front = hour ∧ ofDigits back = minute := by
  have hnumeral (d : Fin 10) (ds : List (Fin 10)) :
      isNumeral ((d :: ds).map fun d : Fin 10 => Nat.digitChar d) = true :=
    isNumeral_iff_exists_map.mpr ⟨d :: ds, List.cons_ne_nil d ds, rfl⟩
  constructor
  · intro h
    cases h with
    | short h m n =>
      exact ⟨_, _, Text.cut_append_cons (colon_notMem (hnumeral h [])) _,
        ⟨hnumeral h [], Nat.le_succ 1, hnumeral m [n], rfl⟩, ofDigits_digitChar h,
        ofDigits_two_digitChars m n⟩
    | long g h m n =>
      exact ⟨_, _, Text.cut_append_cons (colon_notMem (hnumeral g [h])) _,
        ⟨hnumeral g [h], Nat.le_refl 2, hnumeral m [n], rfl⟩, ofDigits_two_digitChars g h,
        ofDigits_two_digitChars m n⟩
  · rintro ⟨front, back, hcut, hparts, rfl, rfl⟩
    obtain ⟨-, rfl⟩ := Text.cut_eq_iff.mp hcut
    obtain ⟨hs, hne, rfl⟩ := isNumeral_iff_exists_map.mp hparts.numeral_front
    obtain ⟨ms, -, rfl⟩ := isNumeral_iff_exists_map.mp hparts.numeral_back
    have hback : ms.length = 2 := by simpa using hparts.length_back
    have hfront : hs.length = 1 ∨ hs.length = 2 := by
      have hpos := List.length_pos_iff_ne_nil.mpr hne
      have hshort : hs.length ≤ 2 := by simpa using hparts.length_front
      omega
    obtain ⟨m, n, rfl⟩ := List.length_eq_two.mp hback
    simp only [List.map_cons, List.map_nil, ofDigits_two_digitChars]
    rcases hfront with hone | htwo
    · obtain ⟨h, rfl⟩ := List.length_eq_one_iff.mp hone
      rw [List.map_singleton, ofDigits_digitChar]
      exact .short h m n
    · obtain ⟨g, h, rfl⟩ := List.length_eq_two.mp htwo
      rw [List.map_cons, List.map_singleton, ofDigits_two_digitChars]
      exact .long g h m n

/-! ### What is read -/

theorem ofParts_eq_ok_iff :
    ofParts hour minute = .ok time ↔ (time.hour : Nat) = hour ∧ (time.minute : Nat) = minute := by
  rw [ofParts]
  split
  · next h =>
    rw [Except.ok.injEq]
    constructor
    · rintro rfl
      exact ⟨rfl, rfl⟩
    · rintro ⟨rfl, rfl⟩
      rfl
  · next h =>
    refine iff_of_false (fun h' => by cases h') ?_
    rintro ⟨rfl, rfl⟩
    exact h ⟨time.hour.isLt, time.minute.isLt⟩

theorem ofParts_eq_error_iff {e : TimeError} :
    ofParts hour minute = .error e ↔
      e = .outOfRange hour minute ∧ ¬(hour ≤ 23 ∧ minute ≤ 59) := by
  rw [ofParts]
  split
  · next h => exact iff_of_false (fun h' => by cases h') fun h' => h'.2 (by omega)
  · next h =>
    rw [Except.error.injEq, eq_comm]
    exact (and_iff_left (by omega)).symm

/-- **What is typed is read**, up to the range of its numbers. -/
theorem parse_of_typed (h : Typed (Text.trim s.toList) hour minute) :
    parse s = ofParts hour minute := by
  obtain ⟨front, back, hcut, hparts, rfl, rfl⟩ := typed_iff.mp h
  rw [parse, hcut]
  exact if_pos (parts_iff.mp hparts)

/-- **Nothing else is.** -/
theorem parse_of_not_typed (h : ∀ hour minute, ¬Typed (Text.trim s.toList) hour minute) :
    parse s = .error (.format s) := by
  rw [parse]
  split
  · next front back hcut =>
    refine if_neg fun hcheck => h (ofDigits front) (ofDigits back) ?_
    exact typed_iff.mpr ⟨front, back, hcut, parts_iff.mpr hcheck, rfl, rfl⟩
  · rfl

/-- Every text is typed right or has the wrong format. -/
theorem parse_cases (s : String) :
    (∃ hour minute, Typed (Text.trim s.toList) hour minute ∧ parse s = ofParts hour minute) ∨
      (∀ hour minute, ¬Typed (Text.trim s.toList) hour minute) ∧ parse s = .error (.format s) := by
  by_cases h : ∃ hour minute, Typed (Text.trim s.toList) hour minute
  · obtain ⟨hour, minute, htyped⟩ := h
    exact .inl ⟨hour, minute, htyped, parse_of_typed htyped⟩
  · have hnot (hour minute : Nat) (htyped : Typed (Text.trim s.toList) hour minute) : False :=
      h ⟨hour, minute, htyped⟩
    exact .inr ⟨hnot, parse_of_not_typed hnot⟩

theorem parse_eq_ok_iff :
    parse s = .ok time ↔ Typed (Text.trim s.toList) time.hour time.minute := by
  constructor
  · intro h
    rcases parse_cases s with ⟨hour, minute, htyped, hparse⟩ | ⟨-, hparse⟩
    · rw [hparse, ofParts_eq_ok_iff] at h
      obtain ⟨rfl, rfl⟩ := h
      exact htyped
    · rw [hparse] at h
      cases h
  · intro h
    rw [parse_of_typed h, ofParts_eq_ok_iff]
    exact ⟨rfl, rfl⟩

theorem exists_parse_eq_ok_iff : (∃ time, parse s = .ok time) ↔
    ∃ hour minute, Typed (Text.trim s.toList) hour minute ∧ hour ≤ 23 ∧ minute ≤ 59 := by
  constructor
  · rintro ⟨time, h⟩
    exact ⟨time.hour, time.minute, parse_eq_ok_iff.mp h, Nat.le_of_lt_succ time.hour.isLt,
      Nat.le_of_lt_succ time.minute.isLt⟩
  · rintro ⟨hour, minute, h, hhour, hminute⟩
    exact ⟨⟨⟨hour, Nat.lt_succ_of_le hhour⟩, ⟨minute, Nat.lt_succ_of_le hminute⟩⟩,
      parse_eq_ok_iff.mpr h⟩

theorem parse_eq_outOfRange_iff : parse s = .error (.outOfRange hour minute) ↔
    Typed (Text.trim s.toList) hour minute ∧ ¬(hour ≤ 23 ∧ minute ≤ 59) := by
  constructor
  · intro h
    rcases parse_cases s with ⟨hour', minute', htyped, hparse⟩ | ⟨-, hparse⟩
    · rw [hparse, ofParts_eq_error_iff] at h
      obtain ⟨⟨rfl, rfl⟩, hrange⟩ := And.imp_left TimeError.outOfRange.inj h
      exact ⟨htyped, hrange⟩
    · rw [hparse] at h
      cases h
  · rintro ⟨htyped, hrange⟩
    rw [parse_of_typed htyped, ofParts_eq_error_iff]
    exact ⟨rfl, hrange⟩

theorem parse_eq_format_iff {input : String} : parse s = .error (.format input) ↔
    input = s ∧ ∀ hour minute, ¬Typed (Text.trim s.toList) hour minute := by
  constructor
  · intro h
    rcases parse_cases s with ⟨hour, minute, -, hparse⟩ | ⟨hnot, hparse⟩
    · rw [hparse, ofParts_eq_error_iff] at h
      cases h.1
    · rw [hparse] at h
      cases h
      exact ⟨rfl, hnot⟩
  · rintro ⟨rfl, hnot⟩
    exact parse_of_not_typed hnot

/-! ### Reading bytes -/

/-- Whether a part is `fewest` to `most` bytes long, each of them that of an ASCII digit. -/
def isPart (fewest most : Nat) (part : List Char) : Bool :=
  let data := Bytes.ofText (String.ofList part)
  fewest ≤ data.length && data.length ≤ most && data.all fun b => 48 ≤ b.toNat && b.toNat ≤ 57

/-- **Reads a time by its bytes.** A part that has passed the check is read as a number that fits
in a byte; if there were none, the format would be to blame for it. -/
def parseBytes (input : String) : Except TimeError ClockTime :=
  match Text.cut ':' (Text.trim input.toList) with
  | (front, some back) =>
    if isPart 1 2 front && isPart 2 2 back then
      match unsigned? 256 front, unsigned? 256 back with
      | some hour, some minute => ofParts hour minute
      | _, _ => .error (.format input)
    else .error (.format input)
  | (_, none) => .error (.format input)

/-- The bytes of a part are as many as its characters if the characters are digits. -/
theorem isPart_iff {fewest most : Nat} : isPart fewest most front = true ↔
    (fewest ≤ front.length ∧ front.length ≤ most) ∧ ∀ c ∈ front, c.isDigit = true := by
  have hbytes : (∀ b ∈ Bytes.ofText (String.ofList front), 48 ≤ b.toNat ∧ b.toNat ≤ 57) ↔
      ∀ c ∈ front, c.isDigit = true := by
    rw [Bytes.ofText_eq, String.toList_ofList, List.forall_mem_flatMap]
    exact forall₂_congr fun c _ => Bytes.forall_mem_utf8EncodeChar_iff_isDigit
  have hlength (h : ∀ c ∈ front, c.isDigit = true) :
      (Bytes.ofText (String.ofList front)).length = front.length := by
    rw [Bytes.length_ofText, Bytes.utf8ByteSize_eq_length, String.length_ofList]
    intro c hc
    rw [String.toList_ofList] at hc
    have hrange := Char.isDigit_iff_toNat.mp (h c hc)
    have hnine : '9'.toNat = 57 := rfl
    omega
  simp only [isPart, Bool.and_eq_true, decide_eq_true_eq, List.all_eq_true]
  rw [hbytes]
  exact and_congr_left fun hdigits => by rw [hlength hdigits]

theorem parts_iff_isPart : Parts front back ↔ (isPart 1 2 front && isPart 2 2 back) = true := by
  rw [Bool.and_eq_true, isPart_iff, isPart_iff]
  constructor
  · intro h
    have hfront := isNumeral_iff.mp h.numeral_front
    have hback := isNumeral_iff.mp h.numeral_back
    exact ⟨⟨⟨List.length_pos_iff_ne_nil.mpr hfront.1, h.length_front⟩, hfront.2⟩,
      ⟨h.length_back.ge, h.length_back.le⟩, hback.2⟩
  · rintro ⟨⟨⟨hpos, hlength⟩, hfront⟩, ⟨htwo, hlength'⟩, hback⟩
    exact ⟨isNumeral_iff.mpr ⟨List.length_pos_iff_ne_nil.mp hpos, hfront⟩, hlength,
      isNumeral_iff.mpr ⟨List.length_pos_iff_ne_nil.mp (by omega), hback⟩, by omega⟩

/-- **Two digits are a number that fits in a byte.** -/
theorem unsigned?_of_length_le_two (h : isNumeral front = true) (hlength : front.length ≤ 2) :
    unsigned? 256 front = some (ofDigits front) := by
  have hlt : ofDigits front < 10 ^ front.length := ofDigits_lt (isNumeral_iff.mp h).2
  have hpow : 10 ^ front.length ≤ 10 ^ 2 := Nat.pow_le_pow_right (by decide) hlength
  rw [unsigned?_of_isNumeral h, if_pos (by omega)]

/-- **It does not matter whether bytes or characters are looked at.** -/
theorem parse_eq_parseBytes (s : String) : parse s = parseBytes s := by
  rw [parse, parseBytes]
  obtain ⟨front, back⟩ := Text.cut ':' (Text.trim s.toList)
  cases back with
  | none => rfl
  | some back =>
    by_cases h : Parts front back
    · simp only [parts_iff.mp h, parts_iff_isPart.mp h, if_true,
        unsigned?_of_length_le_two h.numeral_front h.length_front,
        unsigned?_of_length_le_two h.numeral_back h.length_back.le]
    · exact (if_neg (mt parts_iff.mpr h)).trans (if_neg (mt parts_iff_isPart.mpr h)).symm

/-! ### What is shown -/

/-- **A time is shown as it may be typed**, with both digits of its hour. -/
theorem typed_text (time : ClockTime) : Typed time.text.toList time.hour time.minute := by
  have hhour : (time.hour : Nat) < 24 := time.hour.isLt
  have hminute : (time.minute : Nat) < 60 := time.minute.isLt
  have h := Typed.long ⟨time.hour / 10, by omega⟩ ⟨time.hour % 10, by omega⟩
    ⟨time.minute / 10, by omega⟩ ⟨time.minute % 10, by omega⟩
  have htext : time.text.toList = [Nat.digitChar (time.hour / 10), Nat.digitChar (time.hour % 10),
      ':', Nat.digitChar (time.minute / 10), Nat.digitChar (time.minute % 10)] := by
    rw [text, String.toList_append, String.toList_append, toList_twoPlaces (by omega),
      toList_twoPlaces (by omega)]
    rfl
  rw [htext]
  simpa only [Nat.div_add_mod] using h

/-- There is no blank in a typed time. -/
theorem Typed.trim_eq (h : Typed t hour minute) : Text.trim t = t := by
  have hdigit (d : Fin 10) : Text.isBlank (Nat.digitChar d) = false :=
    Text.isBlank_of_isDigit (isDigit_digitChar d)
  have hcolon : Text.isBlank ':' = false := by decide
  apply Text.trim_eq_self
  cases h <;> simp [hdigit, hcolon]

/-- **A time is read back from its text.** -/
theorem parse_text (time : ClockTime) : parse time.text = .ok time := by
  rw [parse_eq_ok_iff, (typed_text time).trim_eq]
  exact typed_text time

/-! ### Every text -/

/-- **What becomes of every text** that is read as a clock time. It is one if what is left between
the blanks around it is typed like one, within the range of a clock; if only the range is wrong
then the numbers are reported, and if anything else is then the text is, with its blanks. Looking
at bytes makes no difference: what has the length and the digits is a number that fits in a byte.

A time is shown as it may be typed, and read back from that; so what was read and is shown will
be read as the same and shown as the same. -/
theorem parse_exact (s : String) :
    ∃ t, Text.Trimmed s.toList t ∧
      (∀ time : ClockTime, parse s = .ok time ↔ Typed t time.hour time.minute) ∧
      ((∃ time, parse s = .ok time) ↔
        ∃ hour minute, Typed t hour minute ∧ hour ≤ 23 ∧ minute ≤ 59) ∧
      (∀ hour minute, parse s = .error (.outOfRange hour minute) ↔
        Typed t hour minute ∧ ¬(hour ≤ 23 ∧ minute ≤ 59)) ∧
      (∀ input, parse s = .error (.format input) ↔
        input = s ∧ ∀ hour minute, ¬Typed t hour minute) ∧
      parse s = parseBytes s ∧
      (∀ time : ClockTime, Typed time.text.toList time.hour time.minute ∧
        parse time.text = .ok time) ∧
      ∀ time, parse s = .ok time →
        ∃ again, parse time.text = .ok again ∧ again = time ∧ again.text = time.text :=
  ⟨Text.trim s.toList, Text.trimmed_trim s.toList, fun _ => parse_eq_ok_iff,
    exists_parse_eq_ok_iff, fun _ _ => parse_eq_outOfRange_iff, fun _ => parse_eq_format_iff,
    parse_eq_parseBytes s, fun time => ⟨typed_text time, parse_text time⟩,
    fun time _ => ⟨time, parse_text time, rfl, rfl⟩⟩

/-- A short hour with an ideographic space and a line feed around it, shown with two digits. -/
theorem parse_exact_of_short_hour :
    parse "\u3000 7:05\n" = .ok ⟨7, 5⟩ ∧ text ⟨7, 5⟩ = "07:05" ∧
      ∃ again, parse "07:05" = .ok again ∧ again = ⟨7, 5⟩ ∧ again.text = "07:05" := by
  obtain ⟨t, htrimmed, hok, -, -, -, -, -, hagain⟩ := parse_exact "\u3000 7:05\n"
  have ht : t = "7:05".toList := (Text.trim_eq_iff.mpr htrimmed).symm.trans (by decide)
  have hparse : parse "\u3000 7:05\n" = .ok ⟨7, 5⟩ := (hok ⟨7, 5⟩).mpr (ht ▸ .short 7 0 5)
  have htext : text ⟨7, 5⟩ = "07:05" := by decide
  have hread := hagain ⟨7, 5⟩ hparse
  rw [htext] at hread
  exact ⟨hparse, htext, hread⟩

end CarrierLink.ClockTime
