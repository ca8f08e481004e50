import CarrierLink.Json.Token
import CarrierLink.Number.Decimal

/-!
# JSON documents

A document is one value with nothing but blanks around it. `CarrierLink.Json.parse?` reads
it token by token, keeping the lists and objects that are still open on a stack, so that
values may nest to any depth.

The reader is strict: no comments, no comma before a closing mark, numbers as the grammar
of JSON has them. Numbers and strings are kept as they are written; a member of an object
may come more than once.
-/

namespace CarrierLink.Json

/-! ### Values -/

/-- A JSON value. -/
inductive Value where
  | null
  | bool (b : Bool)
  | number (literal : List Char)
  | text (pieces : List Piece)
  | list (items : List Value)
  | object (members : List (List Piece × Value))

/-- Whether a word is a number: an optional minus sign, digits without leading zeros, an
optional fraction and an optional exponent. -/
def isNumber (word : List Char) : Bool :=
  let unsigned := match word with
    | '-' :: rest => rest
    | _ => word
  let whole := unsigned.takeWhile Char.isDigit
  let rest := unsigned.dropWhile Char.isDigit
  let (hasFraction, fraction, rest) := match rest with
    | '.' :: after => (true, after.takeWhile Char.isDigit, after.dropWhile Char.isDigit)
    | _ => (false, [], rest)
  (whole == ['0'] || (!whole.isEmpty && whole.head? != some '0')) &&
    (!hasFraction || !fraction.isEmpty) && (Decimal.Literal.exponent? rest).isSome

/-- The value that a word stands for. -/
def ofWord? (word : List Char) : Option Value :=
  if word = "null".toList then some .null
  else if word = "true".toList then some (.bool true)
  else if word = "false".toList then some (.bool false)
  else if isNumber word then some (.number word)
  else none

/-! ### Reading -/

/-- A list or an object that is still open, what it holds with the latest first. -/
inductive Frame where
  | list (items : List Value)
  | object (members : List (List Piece × Value))
  /-- An object whose latest member has its name, but not yet its value. -/
  | member (name : List Piece) (members : List (List Piece × Value))

/-- How far a document has been read, the innermost open frame first. -/
inductive Progress where
  /-- A value has to come. -/
  | value (frames : List Frame)
  /-- A list or an object has just been opened. -/
  | opened (frame : Frame) (outer : List Frame)
  /-- The name of a member has to come. -/
  | another (members : List (List Piece × Value)) (outer : List Frame)
  /-- The colon after the name of a member has to come. -/
  | colon (name : List Piece) (members : List (List Piece × Value)) (outer : List Frame)
  /-- A comma or a closing mark has to come. -/
  | filled (frame : Frame) (outer : List Frame)
  | complete (document : Value)

namespace Progress

/-- A value has been read. -/
def close (value : Value) : List Frame → Progress
  | [] => complete value
  | .list items :: outer => filled (.list (value :: items)) outer
  | .member name members :: outer => filled (.object ((name, value) :: members)) outer
  | .object members :: outer => filled (.object members) outer

/-- A value starts with this token. -/
def begin? (frames : List Frame) : Token → Option Progress
  | .mark '[' => some (opened (.list []) frames)
  | .mark '{' => some (opened (.object []) frames)
  | .text pieces => some (close (.text pieces) frames)
  | .word letters => (ofWord? letters).map (close · frames)
  | .mark _ => none

/-- Reads one more token. -/
def next : Progress → Token → Option Progress
  | value frames, token => begin? frames token
  | opened (.list _) outer, .mark ']' => some (close (.list []) outer)
  | opened (.list items) outer, token => begin? (.list items :: outer) token
  | opened (.object _) outer, .mark '}' => some (close (.object []) outer)
  | opened (.object members) outer, .text pieces => some (colon pieces members outer)
  | another members outer, .text pieces => some (colon pieces members outer)
  | colon pieces members outer, .mark ':' => some (value (.member pieces members :: outer))
  | filled (.list items) outer, .mark ',' => some (value (.list items :: outer))
  | filled (.list items) outer, .mark ']' => some (close (.list items.reverse) outer)
  | filled (.object members) outer, .mark ',' => some (another members outer)
  | filled (.object members) outer, .mark '}' => some (close (.object members.reverse) outer)
  | _, _ => none

end Progress

/-- **Reads a document.** -/
def parse? (text : List Char) : Option Value := do
  match ← (← tokens? text).foldlM Progress.next (.value []) with
  | .complete document => some document
  | _ => none

end CarrierLink.Json
