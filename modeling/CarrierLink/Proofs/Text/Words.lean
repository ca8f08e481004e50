import CarrierLink.Text.Words
import Mathlib.Data.List.DropRight
import Mathlib.Data.List.TakeWhile

/-!
# Words that are put together and taken apart

What has no blank in it is one word, and words that are written with a space between each two
are the words of the result (`CarrierLink.Text.words_unwords`). Cutting at a separator takes
apart what was put together with one (`CarrierLink.Text.cut_eq_iff`), and trimming finds the one
text that is left when the blanks around it are gone (`CarrierLink.Text.trim_eq_iff`).

A text can be laid out in many ways around the same words, with any blanks before, between and
after them. `CarrierLink.Text.Spaced` is the relation between a text and its words, said
without splitting anything, and splitting decides it (`CarrierLink.Text.words_eq_iff`).
-/

namespace CarrierLink.Text

/-- **One word**: some characters, none of them blank. -/
def IsWord (s : List Char) : Prop := s ≠ [] ∧ ∀ c ∈ s, isBlank c = false

/-- Nothing but blanks, or nothing at all. -/
def IsGap (s : List Char) : Prop := ∀ c ∈ s, isBlank c = true

instance : DecidablePred IsGap := List.decidableBAll fun c => isBlank c = true

/-- A word stays one when it goes on without a blank. -/
theorem IsWord.append {front back : List Char} (h : IsWord front)
    (hback : ∀ c ∈ back, isBlank c = false) : IsWord (front ++ back) := by
  refine ⟨List.append_ne_nil_of_left_ne_nil h.1 back, fun c hc => ?_⟩
  rcases List.mem_append.mp hc with hc | hc
  · exact h.2 c hc
  · exact hback c hc

/-- Digits are not blank. -/
theorem isBlank_of_isDigit {c : Char} (h : c.isDigit = true) : isBlank c = false := by
  have hrange := Char.isDigit_iff_toNat.mp h
  have hzero : '0'.toNat = 48 := rfl
  have hnine : '9'.toNat = 57 := rfl
  simp only [isBlank, Bool.or_eq_false_iff, Bool.and_eq_false_iff, decide_eq_false_iff_not,
    beq_eq_false_iff_ne]
  omega

/-! ### Words -/

theorem pieces_eq_singleton {p : Char → Bool} {s : List Char} (h : ∀ c ∈ s, p c = false) :
    pieces p s = [s] := by
  induction s with
  | nil => rfl
  | cons c rest ih =>
    have hrest := ih fun c' hc' => h c' (List.mem_cons_of_mem c hc')
    simp [pieces, h c List.mem_cons_self, hrest]

/-- A text falls apart at a first character that separates. -/
theorem pieces_append_cons {p : Char → Bool} {s : List Char} (h : ∀ c ∈ s, p c = false) {c : Char}
    (hc : p c = true) (rest : List Char) : pieces p (s ++ c :: rest) = s :: pieces p rest := by
  induction s with
  | nil => simp [pieces, hc]
  | cons d s ih =>
    have hrest := ih fun c' hc' => h c' (List.mem_cons_of_mem d hc')
    simp [pieces, h d List.mem_cons_self, hrest]

/-- No character is lost but those that separate. -/
theorem flatten_pieces (p : Char → Bool) (s : List Char) :
    (pieces p s).flatten = s.filter fun c => !p c := by
  induction s with
  | nil => rfl
  | cons c s ih =>
    rw [pieces]
    split
    · next hc => simpa [hc] using ih
    · next hc =>
      split
      · next hnone => simpa [hnone, hc] using ih
      · next piece others hsome => simpa [hsome, hc] using ih

theorem words_of_isWord {s : List Char} (h : IsWord s) : words s = [s] := by
  have hne : s.isEmpty = false := by simpa using h.1
  simp [words, pieces_eq_singleton h.2, hne]

theorem words_append_cons {s : List Char} (h : IsWord s) {c : Char} (hc : isBlank c = true)
    (rest : List Char) : words (s ++ c :: rest) = s :: words rest := by
  have hne : s.isEmpty = false := by simpa using h.1
  simp [words, pieces_append_cons h.2 hc, hne]

/-- What is written one after the other falls apart at the spaces again. -/
theorem pieces_unwords {p : Char → Bool} (hspace : p ' ' = true) {texts : List String}
    (hne : texts ≠ []) (h : ∀ text ∈ texts, ∀ c ∈ text.toList, p c = false) :
    pieces p (unwords texts).toList = texts.map String.toList := by
  induction texts with
  | nil => exact absurd rfl hne
  | cons text others ih =>
    have htext := h text List.mem_cons_self
    cases others with
    | nil => simpa [unwords] using pieces_eq_singleton htext
    | cons next others =>
      have hsplit : (unwords (text :: next :: others)).toList =
          text.toList ++ ' ' :: (unwords (next :: others)).toList := by
        simp [unwords, String.intercalate_cons_cons]
      have hothers := ih (List.cons_ne_nil next others)
        fun text' htext' => h text' (List.mem_cons_of_mem text htext')
      rw [hsplit, pieces_append_cons htext hspace, hothers]
      rfl

/-- Of texts that are written one after the other, the words are those that are not empty. -/
theorem words_unwords_of_blankless {texts : List String}
    (h : ∀ text ∈ texts, ∀ c ∈ text.toList, isBlank c = false) :
    words (unwords texts).toList = (texts.map String.toList).filter fun piece => !piece.isEmpty := by
  by_cases hne : texts = []
  · subst hne
    rfl
  · rw [words, pieces_unwords (by decide) hne h]

/-- **Words that are written one after the other are the words of the text.** -/
theorem words_unwords {texts : List String} (h : ∀ text ∈ texts, IsWord text.toList) :
    words (unwords texts).toList = texts.map String.toList := by
  rw [words_unwords_of_blankless fun text htext => (h text htext).2, List.filter_eq_self]
  intro piece hpiece
  obtain ⟨text, htext, rfl⟩ := List.mem_map.mp hpiece
  simpa using (h text htext).1

theorem words_unwords_map {α : Type} {f : α → String} {xs : List α}
    (h : ∀ x ∈ xs, IsWord (f x).toList) :
    words (unwords (xs.map f)).toList = xs.map fun x => (f x).toList := by
  rw [words_unwords (List.forall_mem_map.mpr h), List.map_map]
  rfl

/-! ### Layouts -/

/-- **A text with its words**: blanks, then a word that ends where the text does or at a blank,
and so on; what comes last is blank. -/
inductive Spaced : List Char → List (List Char) → Prop
  | blank {s : List Char} (hs : IsGap s) : Spaced s []
  | word {gap w rest : List Char} {ws : List (List Char)} (hgap : IsGap gap) (hw : IsWord w)
      (hend : ∀ c ∈ rest.head?, isBlank c = true) (hrest : Spaced rest ws) :
      Spaced (gap ++ w ++ rest) (w :: ws)

theorem Spaced.isWord_of_mem {s : List Char} {ws : List (List Char)} (h : Spaced s ws)
    {w : List Char} (hw : w ∈ ws) : IsWord w := by
  induction h with
  | blank _ => exact absurd hw List.not_mem_nil
  | word _ hfirst _ _ ih =>
    rcases List.mem_cons.mp hw with rfl | hw
    · exact hfirst
    · exact ih hw

theorem words_cons_of_isBlank {c : Char} (hc : isBlank c = true) (s : List Char) :
    words (c :: s) = words s := by
  simp [words, pieces, hc]

theorem words_append_of_isGap {gap : List Char} (hgap : IsGap gap) (s : List Char) :
    words (gap ++ s) = words s := by
  induction gap with
  | nil => rfl
  | cons c gap ih =>
    rw [List.cons_append, words_cons_of_isBlank (hgap c List.mem_cons_self),
      ih fun c' hc' => hgap c' (List.mem_cons_of_mem c hc')]

theorem Spaced.words_eq {s : List Char} {ws : List (List Char)} (h : Spaced s ws) :
    words s = ws := by
  induction h with
  | blank hs => simpa [words, pieces] using words_append_of_isGap hs []
  | @word gap w rest ws hgap hw hend _ ih =>
    rw [List.append_assoc, words_append_of_isGap hgap]
    cases rest with
    | nil =>
      obtain rfl : [] = ws := by simpa [words, pieces] using ih
      rw [List.append_nil, words_of_isWord hw]
    | cons c rest =>
      have hc : isBlank c = true := hend c rfl
      rw [words_append_cons hw hc, ← ih, words_cons_of_isBlank hc]

/-- Every text is laid out in some way: by induction from its end, where a character starts a
word, makes one longer, or adds to the blanks before it. -/
theorem exists_spaced (s : List Char) : ∃ ws, Spaced s ws := by
  induction s with
  | nil => exact ⟨[], .blank fun c hc => absurd hc List.not_mem_nil⟩
  | cons c s ih =>
    obtain ⟨ws, hs⟩ := ih
    by_cases hc : isBlank c = true
    · cases hs with
      | blank hs => exact ⟨[], .blank (List.forall_mem_cons.mpr ⟨hc, hs⟩)⟩
      | @word gap w rest ws hgap hw hend hrest =>
        have hlonger : IsGap (c :: gap) := List.forall_mem_cons.mpr ⟨hc, hgap⟩
        exact ⟨_, Spaced.word hlonger hw hend hrest⟩
    · rw [Bool.not_eq_true] at hc
      have hnothing : IsGap [] := fun c' hc' => absurd hc' List.not_mem_nil
      have hone : IsWord [c] := ⟨List.cons_ne_nil c [], by simpa using hc⟩
      have hstart (ws : List (List Char)) (hs : Spaced s ws)
          (hend : ∀ c' ∈ s.head?, isBlank c' = true) : Spaced (c :: s) ([c] :: ws) :=
        Spaced.word hnothing hone hend hs
      cases hs with
      | blank hs =>
        exact ⟨_, hstart [] (.blank hs) fun c' hc' => hs c' (List.mem_of_mem_head? hc')⟩
      | @word gap w rest ws hgap hw hend hrest =>
        cases gap with
        | nil =>
          have hlonger : IsWord (c :: w) :=
            ⟨List.cons_ne_nil c w, List.forall_mem_cons.mpr ⟨hc, hw.2⟩⟩
          exact ⟨_, Spaced.word hgap hlonger hend hrest⟩
        | cons c' gap =>
          refine ⟨_, hstart _ (.word hgap hw hend hrest) fun d hd => ?_⟩
          obtain rfl : c' = d := by simpa using hd
          exact hgap c' List.mem_cons_self

/-- **The words of a text are those that it is laid out around.** -/
theorem words_eq_iff {s : List Char} {ws : List (List Char)} : words s = ws ↔ Spaced s ws := by
  refine ⟨fun h => ?_, Spaced.words_eq⟩
  obtain ⟨ws', hs⟩ := exists_spaced s
  rwa [← h, hs.words_eq]

/-! ### Trimming and cutting -/

/-- Nothing is left of a text that has nothing but blanks. -/
theorem trim_eq_nil_iff {s : List Char} : trim s = [] ↔ IsGap s := by
  rw [trim, List.reverse_eq_nil_iff, List.dropWhile_eq_nil_iff]
  constructor
  · intro h c hc
    by_contra hblank
    -- A character that is not blank would be kept from the front, and then from the end.
    have hkept : c ∈ s.dropWhile isBlank := by
      have hsplit : c ∈ s.takeWhile isBlank ++ s.dropWhile isBlank := by
        rwa [List.takeWhile_append_dropWhile]
      exact (List.mem_append.mp hsplit).resolve_left fun hfront =>
        hblank (List.mem_takeWhile_imp hfront)
    exact hblank (h c (List.mem_reverse.mpr hkept))
  · intro h c hc
    exact h c ((List.dropWhile_sublist _).subset (List.mem_reverse.mp hc))

/-- **A text without the blanks around it**: what is left out is blank, and what is left neither
starts nor ends with a blank. -/
structure Trimmed (s t : List Char) : Prop where
  exists_gaps : ∃ before after, IsGap before ∧ IsGap after ∧ s = before ++ t ++ after
  head : ∀ c ∈ t.head?, isBlank c = false
  last : ∀ c ∈ t.getLast?, isBlank c = false

theorem dropWhile_isBlank_eq_self {t : List Char} (h : ∀ c ∈ t.head?, isBlank c = false) :
    t.dropWhile isBlank = t := by
  cases t with
  | nil => rfl
  | cons c t => exact List.dropWhile_cons_of_neg (by simpa using h c rfl)

theorem trimmed_trim (s : List Char) : Trimmed s (trim s) := by
  have hfront : s.takeWhile isBlank ++ s.dropWhile isBlank = s := List.takeWhile_append_dropWhile
  have hback : trim s ++ (s.dropWhile isBlank).rtakeWhile isBlank = s.dropWhile isBlank :=
    List.rdropWhile_append_rtakeWhile
  refine ⟨⟨_, _, fun c hc => List.mem_takeWhile_imp hc, fun c hc => List.mem_rtakeWhile_imp hc,
    by rw [List.append_assoc, hback, hfront]⟩, fun c hc => ?_, fun c hc => ?_⟩
  · -- What is left starts where the text did once the blanks in front were gone.
    have hhead : (s.dropWhile isBlank).head? = some c := by
      rw [← hback, List.head?_append, Option.mem_def.mp hc, Option.some_or]
    simpa [hhead] using List.head?_dropWhile_not isBlank s
  · obtain ⟨hne, rfl⟩ := List.mem_getLast?_eq_getLast hc
    exact eq_false_of_ne_true (List.rdropWhile_last_not isBlank (s.dropWhile isBlank) hne)

/-- **There is one such text**, and trimming finds it. -/
theorem trim_eq_iff {s t : List Char} : trim s = t ↔ Trimmed s t := by
  refine ⟨fun h => h ▸ trimmed_trim s, ?_⟩
  rintro ⟨⟨before, after, hbefore, hafter, rfl⟩, hhead, hlast⟩
  by_cases hnil : t = []
  · subst hnil
    rw [List.append_nil, trim_eq_nil_iff]
    exact List.forall_mem_append.mpr ⟨hbefore, hafter⟩
  · have hkeep : (t ++ after).dropWhile isBlank = t ++ after :=
      dropWhile_isBlank_eq_self fun c hc =>
        hhead c (by rwa [List.head?_append_of_ne_nil _ hnil] at hc)
    have hfront : (before ++ t ++ after).dropWhile isBlank = t ++ after := by
      rw [List.append_assoc, List.dropWhile_append_of_pos hbefore, hkeep]
    have hback : t.reverse.dropWhile isBlank = t.reverse :=
      dropWhile_isBlank_eq_self fun c hc => hlast c (by rwa [List.head?_reverse] at hc)
    rw [trim, hfront, List.reverse_append, List.dropWhile_append_of_pos, hback,
      List.reverse_reverse]
    exact fun c hc => hafter c (List.mem_reverse.mp hc)

/-- A text without a blank in it is not changed. -/
theorem trim_eq_self {s : List Char} (h : ∀ c ∈ s, isBlank c = false) : trim s = s :=
  trim_eq_iff.mpr ⟨⟨[], [], List.forall_mem_nil _, List.forall_mem_nil _, by simp⟩,
    fun c hc => h c (List.mem_of_mem_head? hc), fun c hc => h c (List.mem_of_mem_getLast? hc)⟩

theorem bne_of_notMem {separator : Char} {s : List Char} (h : separator ∉ s) :
    ∀ c ∈ s, (c != separator) = true := by
  intro c hc
  rw [bne_iff_ne]
  rintro rfl
  exact h hc

theorem cut_of_notMem {separator : Char} {s : List Char} (h : separator ∉ s) :
    cut separator s = (s, none) := by
  rw [cut, List.takeWhile_eq_self_iff.mpr (bne_of_notMem h),
    List.dropWhile_eq_nil_iff.mpr (bne_of_notMem h)]
  rfl

theorem cut_append_cons {separator : Char} {front : List Char} (h : separator ∉ front)
    (back : List Char) : cut separator (front ++ separator :: back) = (front, some back) := by
  rw [cut, List.takeWhile_append_of_pos (bne_of_notMem h),
    List.dropWhile_append_of_pos (bne_of_notMem h)]
  simp

/-- **A text is cut into the parts that it is put together from**, none of them with a separator
before the cut. -/
theorem cut_eq_iff {separator : Char} {s front : List Char} {back : Option (List Char)} :
    cut separator s = (front, back) ↔
      separator ∉ front ∧ s = front ++ back.elim [] (separator :: ·) := by
  constructor
  · intro h
    obtain ⟨hfront, hback⟩ := Prod.mk.inj h
    have hsplit := List.takeWhile_append_dropWhile (p := (· != separator)) (l := s)
    refine ⟨fun hmem => ?_, ?_⟩
    · rw [← hfront] at hmem
      exact absurd (List.mem_takeWhile_imp hmem) (by simp)
    · rw [hfront] at hsplit
      cases hrest : s.dropWhile (· != separator) with
      | nil =>
        rw [hrest] at hback hsplit
        rw [← hback, ← hsplit]
        rfl
      | cons c rest =>
        have hc : (c != separator) = false := by
          simpa [hrest] using List.head?_dropWhile_not (· != separator) s
        obtain rfl : c = separator := by simpa using hc
        rw [hrest] at hback hsplit
        rw [← hback, ← hsplit]
        rfl
  · rintro ⟨hfront, rfl⟩
    cases back with
    | none => rw [Option.elim_none, List.append_nil, cut_of_notMem hfront]
    | some back => rw [Option.elim_some, cut_append_cons hfront]

end CarrierLink.Text
