import Mathlib.Tactic.SplitIfs
import SoloScript.Json.StringLiteral
import SoloScript.Proofs.Json.Cursor

/-!
# Written string literals

A literal is on one line: each control character is written as an escape, which has none.  It is
read back as the text that it was written for, and ends at its own closing quote, whatever follows.
-/

namespace SoloScript.Json.StringLiteral

variable {c letter : Char}

/-- A short escape is read as the character that it is written for. -/
theorem ofLetter?_of_shortEscape? (h : shortEscape? c = some letter) :
    ofLetter? letter = some c := by
  rw [shortEscape?] at h
  split_ifs at h with quote backslash backspace feed newline carriage tab
  · rw [← Option.some.inj h, quote]; decide
  · rw [← Option.some.inj h, backslash]; decide
  · rw [← Option.some.inj h, backspace]; decide
  · rw [← Option.some.inj h, feed]; decide
  · rw [← Option.some.inj h, newline]; decide
  · rw [← Option.some.inj h, carriage]; decide
  · rw [← Option.some.inj h, tab]; decide

/-- The letters of escapes are no control characters. -/
theorem le_toNat_of_ofLetter? (h : ofLetter? letter = some c) : 0x20 ≤ letter.toNat := by
  rw [ofLetter?] at h
  split_ifs at h with same b f n r t
  · rcases same with rfl | rfl | rfl <;> decide
  · rw [b]; decide
  · rw [f]; decide
  · rw [n]; decide
  · rw [r]; decide
  · rw [t]; decide

theorem le_toNat_of_mem_writeChar {d : Char} (mem : d ∈ writeChar c) : 0x20 ≤ d.toNat := by
  have digit : ∀ n < 16, 0x20 ≤ (Nat.digitChar n).toNat := by decide
  rw [writeChar] at mem
  split at mem
  · rename_i letter short
    have plain := le_toNat_of_ofLetter? (ofLetter?_of_shortEscape? short)
    simp only [List.mem_cons, List.not_mem_nil, or_false] at mem
    rcases mem with rfl | rfl
    · decide
    · exact plain
  · split at mem
    · rename_i control
      simp only [List.mem_cons, List.not_mem_nil, or_false] at mem
      rcases mem with rfl | rfl | rfl | rfl | rfl | rfl
      · decide
      · decide
      · decide
      · decide
      · exact digit _ (by omega)
      · exact digit _ (Nat.mod_lt _ (by decide))
    · rename_i other
      rw [List.mem_singleton.1 mem]
      omega

theorem le_toNat_of_mem_write {text : List Char} {d : Char} (mem : d ∈ write text) :
    0x20 ≤ d.toNat := by
  simp only [write, List.cons_append, List.mem_cons, List.mem_append, List.mem_flatMap,
    List.not_mem_nil, or_false] at mem
  rcases mem with rfl | ⟨c, -, mem⟩ | rfl
  · decide
  · exact le_toNat_of_mem_writeChar mem
  · decide

/-! ## Reading back -/

section Reading

open Outcome

variable {text rest value : List Char}

/-- A short escape. -/
theorem reads_letter {α : Type} (short : Char → α)
    (number : (c : Cursor) → Except Fault (Read α c)) (h : ofLetter? letter = some c) :
    Reads (escape short number) [letter] rest (short c) := by
  have plain : letter ≠ 'u' := by
    rintro rfl
    exact absurd h (by simp [ofLetter?])
  rintro ⟨_, here⟩ rfl
  rw [escape]
  simp only [List.cons_append, if_neg plain, h]
  exact ⟨_, rfl, rfl, rfl⟩

/-- A numbered escape. -/
theorem reads_numbered {α : Type} {n : α} (short : Char → α)
    {number : (c : Cursor) → Except Fault (Read α c)} (h : Reads number text rest n) :
    Reads (escape short number) ('u' :: text) rest n := by
  rintro ⟨_, here⟩ rfl
  obtain ⟨read, found, same, next⟩ := h (Cursor.past _ 'u' _) rfl
  rw [escape]
  exact ⟨_, map_eq_ok_iff.2 ⟨read, found, rfl⟩, same, next⟩

theorem reads_unit {p q r s : Char} {n : Nat} (h : hexUnit? p q r s = some n) :
    Reads unit [p, q, r, s] rest n := by
  rintro ⟨_, here⟩ rfl
  rw [unit]
  simp only [List.cons_append, List.nil_append, h]
  exact ⟨_, rfl, rfl, rfl⟩

/-- The number of a character that is no surrogate. -/
theorem reads_scalar {p q r s : Char} {n : Nat} (h : hexUnit? p q r s = some n)
    (scalar : n < 0xD800 ∨ 0xDFFF < n) : Reads numbered [p, q, r, s] rest (Char.ofNat n) := by
  intro c ahead
  obtain ⟨first, found, rfl, next⟩ := reads_unit h c ahead
  refine ⟨first.map Char.ofNat, ?_, rfl, next⟩
  rw [numbered, found, ok_bind, if_neg (by omega), if_pos (by omega)]
  rfl

theorem reads_quote (rest : List Char) : Reads read ['"'] rest [] := by
  rintro ⟨_, here⟩ rfl
  rw [read]
  exact ⟨_, rfl, rfl, rfl⟩

theorem reads_plain (quote : c ≠ '"') (backslash : c ≠ '\\') (printable : 0x20 ≤ c.toNat)
    (others : Reads read text rest value) : Reads read (c :: text) rest (c :: value) := by
  rintro ⟨_, here⟩ rfl
  obtain ⟨read, found, same, next⟩ := others (Cursor.past _ c _) rfl
  rw [StringLiteral.read]
  simp only [List.cons_append, if_neg quote, if_neg backslash, if_neg (Nat.not_lt.2 printable)]
  exact ⟨_, bind_eq_ok_iff.2 ⟨read, found, rfl⟩, congrArg (c :: ·) same, next⟩

theorem reads_escape {escaped : List Char}
    (here : Reads (escape id numbered) escaped (text ++ rest) c)
    (others : Reads read text rest value) :
    Reads read ('\\' :: (escaped ++ text)) rest (c :: value) := by
  rintro ⟨_, position⟩ rfl
  obtain ⟨first, found, same, next⟩ :=
    here (Cursor.past _ '\\' (escaped ++ text ++ rest)) (List.append_assoc ..)
  obtain ⟨read, found', same', next'⟩ := others first.next next
  rw [StringLiteral.read]
  exact ⟨_, bind_eq_ok_iff.2 ⟨first, found, bind_eq_ok_iff.2 ⟨read, found', rfl⟩⟩,
    by rw [← same, ← same'], next'⟩

/-- A written character is read back, and reading goes on behind it. -/
theorem reads_writeChar (c : Char) (others : Reads read text rest value) :
    Reads read (writeChar c ++ text) rest (c :: value) := by
  rw [writeChar]
  split
  · rename_i letter short
    have back := ofLetter?_of_shortEscape? short
    exact reads_escape (reads_letter id numbered back) others
  · rename_i unescaped
    split
    · rename_i control
      have digits : ∀ n < 0x20,
          hexUnit? '0' '0' (Nat.digitChar (n / 16)) (Nat.digitChar (n % 16)) = some n := by decide
      have number : Reads (escape id numbered)
          ['u', '0', '0', Nat.digitChar (c.toNat / 16), Nat.digitChar (c.toNat % 16)]
          (text ++ rest) (Char.ofNat c.toNat) :=
        reads_numbered id (reads_scalar (digits c.toNat control) (by omega))
      rw [Char.ofNat_toNat] at number
      exact reads_escape number others
    · rename_i printable
      have quote : c ≠ '"' := by
        rintro rfl
        exact absurd unescaped (by decide)
      have backslash : c ≠ '\\' := by
        rintro rfl
        exact absurd unescaped (by decide)
      exact reads_plain quote backslash (Nat.not_lt.1 printable) others

/-- A written literal is read back behind its opening quote. -/
theorem reads_write (text rest : List Char) :
    Reads read (text.flatMap writeChar ++ ['"']) rest text := by
  induction text with
  | nil => exact reads_quote rest
  | cons c text ih =>
    rw [List.flatMap_cons, List.append_assoc]
    exact reads_writeChar c ih

end Reading

end SoloScript.Json.StringLiteral
