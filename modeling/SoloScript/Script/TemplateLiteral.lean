import SoloScript.Text.Substring

/-!
# Text as a template literal

A text is put between backticks after four replacements, in this order: backslashes, backticks,
the opening of a substitution, carriage returns.  Backslashes go first, so that no later
replacement is escaped again; carriage returns are written as an escape, because a raw one would be
read as a line feed.
-/

namespace SoloScript.Script.TemplateLiteral

open SoloScript.Text

/-- The replacements, in the order in which they are made. -/
def escapes : List (String × String) :=
  [("\\", "\\\\"), ("`", "\\`"), ("$\x7b", "\\$\x7b"), ("\r", "\\r")]

def escape (text : List Char) : List Char :=
  escapes.foldl (fun text (old, new) ↦ replaceAll old.toList new.toList text) text

def encode (text : String) : String := "`" ++ String.ofList (escape text.toList) ++ "`"

end SoloScript.Script.TemplateLiteral
