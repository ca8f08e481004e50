import CarrierLink.Number.Digits
import CarrierLink.Text.Printable

/-!
# Quoted text

A text that a message repeats is put between double quotes, and everything in it that
would be mistaken or not be seen is written as an escape: `\0`, `\t`, `\r`, `\n`, `\\`, `\"`,
and the code of the character, as in `\u` followed by `1b` in braces, for a character that
does not print as itself.
-/

namespace CarrierLink.Text

/-- A character as it stands between quotes. -/
def escape (c : Char) : String :=
  if c = '\x00' then "\\0"
  else if c = '\t' then "\\t"
  else if c = '\r' then "\\r"
  else if c = '\n' then "\\n"
  else if c = '\\' then "\\\\"
  else if c = '"' then "\\\""
  else if isPrintable c then c.toString
  else "\\u\x7b" ++ Numeral.hex 1 c.toNat ++ "\x7d"

/-- A text between double quotes. -/
def quoted (text : String) : String :=
  "\"" ++ String.join (text.toList.map escape) ++ "\""

end CarrierLink.Text
