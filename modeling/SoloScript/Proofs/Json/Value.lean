import SoloScript.Json.Value
import SoloScript.Proofs.Json.StringLiteral

/-!
# Colons and texts

What is read off a text as a token, with blanks in front of it.  A text is written as a literal, and
any literal of it will do.
-/

namespace SoloScript.Json.Value

open Outcome

variable {blanks literal rest value : List Char}

theorem reads_colon (blank : Blank blanks) : Reads colon (blanks ++ [':']) rest () := by
  intro c ahead
  obtain ⟨token, found, same, next⟩ := Cursor.exists_token?
    (ahead.trans (List.append_assoc ..)) blank (by decide : Cursor.isBlank ':' = false)
  rw [colon, found]
  exact ⟨token.map fun _ ↦ (), if_pos same, rfl, next⟩

theorem reads_text_of_literal (expected : String) (blank : Blank blanks)
    (quoted : Reads StringLiteral.read literal rest value) :
    Reads (text expected) (blanks ++ '"' :: literal) rest (String.ofList value) := by
  intro c ahead
  obtain ⟨token, found, same, next⟩ := Cursor.exists_token?
    (ahead.trans (List.append_assoc ..)) blank (by decide : Cursor.isBlank '"' = false)
  obtain ⟨read, taken, rfl, left⟩ := quoted token.next next
  rw [text, found]
  simp only [if_pos same]
  exact ⟨_, bind_eq_ok_iff.2 ⟨read, taken, rfl⟩, rfl, left⟩

/-- The literal that is written for a text is read as that text, and nothing behind it is read. -/
theorem reads_text (expected : String) (blank : Blank blanks) (value : String) :
    Reads (text expected) (blanks ++ (StringLiteral.encode value).toList) rest value := by
  have literal := reads_text_of_literal expected blank (StringLiteral.reads_write value.toList rest)
  rw [String.ofList_toList] at literal
  rw [StringLiteral.encode, String.toList_ofList]
  exact literal

end SoloScript.Json.Value
