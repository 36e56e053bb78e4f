import StoreSchema.Text.Decimal
import StoreSchema.Text.Printable

/-! # Quoted text

How messages quote a text, and lists of texts, so that no control character reaches the reader.
-/

namespace StoreSchema.Text

/-- One character inside quotes: escaped when it would end the quotes or has no glyph. -/
def quotedChar (c : Char) : List Char :=
  if c == '"' then ['\\', '"']
  else if c == '\\' then ['\\', '\\']
  else if c == '\n' then ['\\', 'n']
  else if c == '\r' then ['\\', 'r']
  else if c == '\t' then ['\\', 't']
  else if c.toNat == 0 then ['\\', '0']
  else if isPrintable c then [c]
  else ['\\', 'u', '{'] ++ hexDigits c.toNat ++ ['}']

def quoted (text : String) : String :=
  String.ofList ('"' :: text.toList.flatMap quotedChar ++ ['"'])

/-- A list of texts, each in double quotes. -/
def quotedList (texts : List String) : String :=
  "[" ++ ", ".intercalate (texts.map quoted) ++ "]"

end StoreSchema.Text
