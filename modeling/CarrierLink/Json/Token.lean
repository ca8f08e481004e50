import CarrierLink.Number.Digits

/-!
# Tokens of JSON text

JSON text is a sequence of marks, strings and words, blanks allowed between them. This
module cuts a text into its tokens (`CarrierLink.Json.tokens?`).

A string is kept in pieces (`CarrierLink.Json.Piece`), so that it can be checked without
being put together: a `\u` escape gives half of a character outside the Basic Multilingual
Plane, and the two halves only have to match where the string is used
(`CarrierLink.Json.join?`).
-/

namespace CarrierLink.Json

/-! ### Strings -/

/-- A piece of a string: a character, or the code unit of a `\u` escape. -/
inductive Piece where
  | char (c : Char)
  | code (unit : Nat)
  deriving DecidableEq, Repr

/-- The character of a short escape. -/
def shortEscape? : Char → Option Char
  | '"' => some '"'
  | '\\' => some '\\'
  | '/' => some '/'
  | 'b' => some '\x08'
  | 'f' => some '\x0c'
  | 'n' => some '\n'
  | 'r' => some '\r'
  | 't' => some '\t'
  | _ => none

/-- The pieces of what stands between two quotes: every escape is a known one, and control
characters only come as escapes. -/
def pieces? : List Char → Option (List Piece)
  | [] => some []
  | '\\' :: 'u' :: a :: b :: c :: d :: rest => do
    let unit ← Numeral.ofHex? [a, b, c, d]
    return .code unit :: (← pieces? rest)
  | '\\' :: c :: rest => do
    let char ← shortEscape? c
    return .char char :: (← pieces? rest)
  | c :: rest =>
    if c = '\\' || c.toNat < 0x20 then none else (pieces? rest).map (.char c :: ·)

/-- Whether a code unit is the first half of a pair. -/
def isHighHalf (unit : Nat) : Bool := 0xD800 ≤ unit && unit ≤ 0xDBFF

/-- Whether a code unit is the second half of a pair. -/
def isLowHalf (unit : Nat) : Bool := 0xDC00 ≤ unit && unit ≤ 0xDFFF

/-- The character of a pair of halves. -/
def pairedChar (high low : Nat) : Char :=
  Char.ofNat (0x10000 + (high - 0xD800) * 0x400 + (low - 0xDC00))

/-- **The text of a string.** The halves of a pair have to follow each other directly. -/
def join? : List Piece → Option (List Char)
  | [] => some []
  | .char c :: rest => (join? rest).map (c :: ·)
  | .code high :: .code low :: rest =>
    if isHighHalf high then
      if isLowHalf low then (join? rest).map (pairedChar high low :: ·) else none
    else if isLowHalf high then none
    else (join? (.code low :: rest)).map (Char.ofNat high :: ·)
  | .code unit :: rest =>
    if isHighHalf unit || isLowHalf unit then none else (join? rest).map (Char.ofNat unit :: ·)

/-! ### Tokens -/

/-- A unit of JSON text. -/
inductive Token where
  /-- One of the marks of `CarrierLink.Json.marks`. -/
  | mark (c : Char)
  | text (pieces : List Piece)
  /-- A run of other characters: a number or a literal name, if it is anything. -/
  | word (letters : List Char)
  deriving DecidableEq, Repr

/-- The structural characters. -/
def marks : List Char := ['{', '}', '[', ']', ':', ',']

/-- The characters that may stand between tokens. -/
def blanks : List Char := [' ', '\t', '\n', '\r']

/-- What the latest characters are part of. -/
inductive Reading where
  | nothing
  /-- A word, its latest letter first. -/
  | word (letters : List Char)
  /-- A string, its latest character first, and whether that is a backslash which escapes
  the next. -/
  | text (body : List Char) (isEscaping : Bool)

/-- A text read so far: its tokens, the latest first, and what is being read. -/
structure Scan where
  tokens : List Token
  reading : Reading

namespace Scan

/-- A character that stands between tokens, or starts one. -/
def start (tokens : List Token) (c : Char) : Scan :=
  if blanks.contains c then ⟨tokens, .nothing⟩
  else if marks.contains c then ⟨.mark c :: tokens, .nothing⟩
  else if c = '"' then ⟨tokens, .text [] false⟩
  else ⟨tokens, .word [c]⟩

/-- Reads one more character. -/
def next (scan : Scan) (c : Char) : Option Scan :=
  match scan.reading with
  | .nothing => some (start scan.tokens c)
  | .word letters =>
    if blanks.contains c || marks.contains c || c = '"' then
      some (start (.word letters.reverse :: scan.tokens) c)
    else some ⟨scan.tokens, .word (c :: letters)⟩
  | .text body true => some ⟨scan.tokens, .text (c :: body) false⟩
  | .text body false =>
    if c = '"' then
      (pieces? body.reverse).map fun pieces => ⟨.text pieces :: scan.tokens, .nothing⟩
    else some ⟨scan.tokens, .text (c :: body) (c = '\\')⟩

/-- The tokens of a text that ends here; a string must not be left open. -/
def finish? (scan : Scan) : Option (List Token) :=
  match scan.reading with
  | .nothing => some scan.tokens.reverse
  | .word letters => some (.word letters.reverse :: scan.tokens).reverse
  | .text _ _ => none

end Scan

/-- **The tokens of a text**, in order. -/
def tokens? (text : List Char) : Option (List Token) := do
  (← text.foldlM Scan.next ⟨[], .nothing⟩).finish?

end CarrierLink.Json
