/-!
# Occurrences of a piece of text

Everything here works from left to right and never looks at a character twice as part of two
occurrences.
-/

namespace SoloScript.Text

/-- Splits `text` at the first occurrence of `needle`: what precedes it, and the rest, which
starts with `needle`. -/
def splitFirst (needle : List Char) : List Char → Option (List Char × List Char)
  | [] => if needle = [] then some ([], []) else none
  | c :: cs =>
    if needle.isPrefixOf (c :: cs) then some ([], c :: cs)
    else (splitFirst needle cs).map fun parts ↦ (c :: parts.1, parts.2)

/-- Replaces every occurrence of `old`, leftmost first; an empty `old` occurs nowhere. -/
def replaceAll (old new : List Char) (text : List Char) : List Char :=
  match text with
  | [] => []
  | c :: cs =>
    if old ≠ [] ∧ old.isPrefixOf (c :: cs) then
      new ++ replaceAll old new ((c :: cs).drop old.length)
    else c :: replaceAll old new cs
termination_by text.length
decreasing_by
  · have : 0 < old.length := List.length_pos_iff.2 (by simp_all)
    simp only [List.length_drop, List.length_cons]
    omega
  · simp

/-- What is left of `text` after `start`, if `text` starts with it. -/
def dropStart? (start text : List Char) : Option (List Char) :=
  if start.isPrefixOf text then some (text.drop start.length) else none

/-- What is left of `text` before `stop`, if `text` ends with it. -/
def dropEnd? (stop text : List Char) : Option (List Char) :=
  (dropStart? stop.reverse text.reverse).map List.reverse

/-- Cuts `text` at every `sep`, keeping empty pieces. -/
def pieces (sep : Char) : List Char → List (List Char)
  | [] => [[]]
  | c :: cs =>
    if c = sep then [] :: pieces sep cs
    else match pieces sep cs with
      | [] => [[c]]
      | p :: ps => (c :: p) :: ps

/-- Drops every `c` from the front of a text. -/
def trimStart (c : Char) (text : String) : String :=
  String.ofList (text.toList.dropWhile (· = c))

/-- Drops every `c` from the end of a text. -/
def trimEnd (c : Char) (text : String) : String :=
  String.ofList (text.toList.reverse.dropWhile (· = c)).reverse

end SoloScript.Text
