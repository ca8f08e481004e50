/-!
# Blanks, words and cuts

Operator input and board text are read as sequences of characters. This module says
where such text falls apart: which characters are blank (`CarrierLink.Text.isBlank`),
what is left of a text without the blanks around it (`CarrierLink.Text.trim`), which
words it holds (`CarrierLink.Text.words`), and what stands on either side of a first
separator (`CarrierLink.Text.cut`).

Blank is the Unicode property `White_Space`, so a no-break space separates words and
a zero-width space does not.
-/

namespace CarrierLink.Text

/-! ### Blank characters -/

/-- The characters with the Unicode property `White_Space`. -/
def isBlank (c : Char) : Bool :=
  let n := c.toNat
  (0x9 ≤ n && n ≤ 0xD) || n == 0x20 || n == 0x85 || n == 0xA0 || n == 0x1680 ||
    (0x2000 ≤ n && n ≤ 0x200A) || n == 0x2028 || n == 0x2029 || n == 0x202F ||
    n == 0x205F || n == 0x3000

/-- A text without the blanks it starts and ends with. -/
def trim (s : List Char) : List Char :=
  ((s.dropWhile isBlank).reverse.dropWhile isBlank).reverse

/-! ### Words -/

/-- The pieces of a text between the characters that satisfy `p`: one more than there
are such characters, and possibly empty. -/
def pieces (p : Char → Bool) : List Char → List (List Char)
  | [] => [[]]
  | c :: rest =>
    if p c then [] :: pieces p rest
    else
      match pieces p rest with
      | [] => [[c]]
      | piece :: others => (c :: piece) :: others

/-- The words of a text: its longest runs without a blank, in order. -/
def words (s : List Char) : List (List Char) :=
  (pieces isBlank s).filter fun piece => !piece.isEmpty

/-! ### Cutting at a separator -/

/-- The text before the first `separator`, and the text after it if there is one. -/
def cut (separator : Char) (s : List Char) : List Char × Option (List Char) :=
  (s.takeWhile (· != separator), (s.dropWhile (· != separator)).tail?)

/-- Words and other pieces written one after the other, one space between two. -/
def unwords (pieces : List String) : String := String.intercalate " " pieces

end CarrierLink.Text
