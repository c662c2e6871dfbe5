import SoloScript.Proofs.Script.Base64
import SoloScript.Proofs.Text.Substring
import SoloScript.Script.BinaryLiteral

/-!
# Reading a binary literal back

The texts that `decode?` accepts are exactly those that `encode` writes, so each byte sequence has
one literal and every other text is refused.
-/

namespace SoloScript.Script.BinaryLiteral

open SoloScript.Text

/-- What base64 writes passes for a payload. -/
theorem isPayload_encode (bytes : List UInt8) : isPayload (Base64.encode bytes) := by
  obtain ⟨digits, h, all⟩ := Base64.encode_eq_digits_append bytes
  have padding (n : Nat) : (List.replicate n '=').dropWhile (fun c ↦ (Base64.value? c).isSome) =
      List.replicate n '=' := by
    cases n with
    | zero => rfl
    | succ n => rw [List.replicate_succ, List.dropWhile_cons_of_neg (by decide)]
  simp only [isPayload, h, List.dropWhile_append_of_pos all, padding, Bool.and_eq_true,
    decide_eq_true_eq, List.length_replicate]
  exact ⟨by omega, by simp⟩

theorem toList_encode (bytes : List UInt8) :
    (encode bytes).toList = opening.toList ++ (Base64.encode bytes ++ closing.toList) := by
  simp [encode]

/-- A literal reads as the bytes that it was written for. -/
theorem decode?_encode (bytes : List UInt8) : decode? (encode bytes) = some bytes := by
  simp only [decode?, Option.bind_eq_bind, Option.bind_eq_some_iff, dropStart?_eq_some_iff,
    dropEnd?_eq_some_iff]
  refine ⟨_, toList_encode bytes, _, rfl, ?_⟩
  rw [if_pos (isPayload_encode bytes), Base64.decode?_encode]

/-- A text reads as some bytes exactly if it is the literal of those bytes. -/
theorem decode?_eq_some_iff_eq_encode (text : String) (bytes : List UInt8) :
    decode? text = some bytes ↔ text = encode bytes := by
  simp only [decode?, Option.bind_eq_bind, Option.bind_eq_some_iff, dropStart?_eq_some_iff,
    dropEnd?_eq_some_iff]
  constructor
  · rintro ⟨rest, wrapped, payload, rfl, h⟩
    split at h
    · rw [Base64.decode?_eq_some_iff.1 h, ← toList_encode] at wrapped
      exact String.toList_inj.1 wrapped
    · simp at h
  · rintro rfl
    refine ⟨_, toList_encode bytes, _, rfl, ?_⟩
    rw [if_pos (isPayload_encode bytes), Base64.decode?_encode]

end SoloScript.Script.BinaryLiteral
