import SoloScript.Text.Hex
import SoloScript.Text.Visible

/-!
# Quoted text in messages

A text is quoted so that every character of it can be seen: between double quotes, with an escape
for the quote, the backslash, the common controls, and, by its number, for every other character
without a visible form.
-/

namespace SoloScript.Text

/-- How one character is written inside quotes. -/
def quoteChar (c : Char) : List Char :=
  if c = '"' then ['\\', '"']
  else if c = '\\' then ['\\', '\\']
  else if c = '\x00' then ['\\', '0']
  else if c = '\t' then ['\\', 't']
  else if c = '\n' then ['\\', 'n']
  else if c = '\r' then ['\\', 'r']
  else if isVisible c then [c]
  else ['\\', 'u', '\x7b'] ++ hexDigits c.toNat ++ ['\x7d']

def quote (text : String) : String :=
  String.ofList ('"' :: text.toList.flatMap quoteChar ++ ['"'])

end SoloScript.Text
