import SoloScript.Script.Base64
import SoloScript.Text.Substring

/-!
# Bytes as a script expression

A byte sequence is written as an expression that rebuilds it from its base64 form when the script
runs.  Reading the expression back accepts only text of exactly this form, from its first
character to its last.
-/

namespace SoloScript.Script.BinaryLiteral

open SoloScript.Text

/-- What stands before the base64 form. -/
def opening : String := "Uint8Array.from(atob(`"

/-- What stands after the base64 form. -/
def closing : String := "`), c => c.charCodeAt(0))"

def encode (bytes : List UInt8) : String :=
  opening ++ String.ofList (Base64.encode bytes) ++ closing

/-- Whether a text is made of base64 digits with at most two signs of padding behind them. -/
def isPayload (text : List Char) : Bool :=
  let padding := text.dropWhile fun c ↦ (Base64.value? c).isSome
  padding.length ≤ 2 && padding.all (· = '=')

/-- The bytes of a text of the form that `encode` writes. -/
def decode? (text : String) : Option (List UInt8) := do
  let rest ← dropStart? opening.toList text.toList
  let payload ← dropEnd? closing.toList rest
  if isPayload payload then Base64.decode? payload else none

end SoloScript.Script.BinaryLiteral
