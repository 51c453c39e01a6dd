import Gamebook.Text.Digit
import Gamebook.Text.Printable

/-! Quoted text inside messages: single quotes by default, with escapes for what does not print. -/

namespace Gamebook.Text

/-- The quote that surrounds a text: a double one when that spares escaping a single one. -/
def quoteFor (text : List Char) : Char :=
  if text.contains '\'' && !text.contains '"' then '"' else '\''

/-- One character between quotes. -/
def quotedChar (quote : Char) (c : Char) : String :=
  if c == quote || c == '\\' then String.ofList ['\\', c]
  else if c == '\n' then "\\n"
  else if c == '\r' then "\\r"
  else if c == '\t' then "\\t"
  else if isPrintable c then String.ofList [c]
  else if c.toNat < 0x100 then "\\x" ++ hex 2 c.toNat
  else if c.toNat < 0x10000 then "\\u" ++ hex 4 c.toNat
  else "\\U" ++ hex 8 c.toNat

/-- A text between quotes. -/
def quoted (text : String) : String :=
  let chars := text.toList
  let quote := quoteFor chars
  let inner := chars.map (quotedChar quote)
  String.ofList [quote] ++ String.join inner ++ String.ofList [quote]

end Gamebook.Text
