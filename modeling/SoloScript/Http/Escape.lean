import SoloScript.Text.Hex
import SoloScript.Text.Utf8

/-!
# Escapes

In a location, the bytes of a character can be written as `%` and two hexadecimal digits each.
Which characters have to be written so depends on the place where they stand.
-/

namespace SoloScript.Http

/-- Places with rules of their own. -/
inductive Place where
  /-- Only what cannot be shown is escaped. -/
  | controls
  | user
  | path
  | query
  /-- The query of a location whose parts are known. -/
  | knownQuery
  | fragment
deriving DecidableEq, Repr

/-- The characters that are escaped in a place, besides controls and all that is not ASCII. -/
def Place.special : Place → String
  | controls => ""
  | user => " \"<>`#?\x7b\x7d/:;=@[\\]^|"
  | path => " \"<>`#?\x7b\x7d"
  | query => " \"#<>"
  | knownQuery => " \"#<>'"
  | fragment => " \"<>`"

def escapeChar (c : Char) : List Char :=
  (String.utf8EncodeChar c).flatMap fun b ↦
    ['%', (Nat.digitChar (b.toNat / 16)).toUpper, (Nat.digitChar (b.toNat % 16)).toUpper]

def escape (place : Place) (text : List Char) : List Char :=
  text.flatMap fun c ↦
    if c.toNat < 0x20 ∨ 0x7e < c.toNat ∨ c ∈ place.special.toList then escapeChar c else [c]

/-- Replaces every escape by the byte that it stands for. -/
def unescapeBytes : List UInt8 → List UInt8
  | b :: p :: q :: rest =>
    match Text.hexValue? (Char.ofNat p.toNat), Text.hexValue? (Char.ofNat q.toNat) with
    | some x, some y =>
      if b = 0x25 then UInt8.ofNat (x * 16 + y) :: unescapeBytes rest
      else b :: unescapeBytes (p :: q :: rest)
    | _, _ => b :: unescapeBytes (p :: q :: rest)
  | bytes => bytes

/-- The text without escapes, if the bytes make one. -/
def unescape? (text : List Char) : Option (List Char) :=
  (Text.Utf8.decode? (unescapeBytes (Text.Utf8.encode (String.ofList text)))).map String.toList

end SoloScript.Http
