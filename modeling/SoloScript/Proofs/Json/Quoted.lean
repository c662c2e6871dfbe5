import SoloScript.Proofs.Json.Grammar
import SoloScript.Proofs.Json.StringLiteral

/-!
# Reading any string

Every string is read past.  It is read as the text that it stands for, and refused if there is none,
which is where a surrogate is on its own.
-/

namespace SoloScript.Json

open Outcome StringLiteral

variable {c letter : Char} {text rest value : List Char} {n : Nat}

theorem ofLetter?_of_mem_shortEscapes (h : (letter, c) ∈ shortEscapes) :
    ofLetter? letter = some c := by
  have all : ∀ pair ∈ shortEscapes, ofLetter? pair.1 = some pair.2 := by decide
  exact all _ h

theorem ne_u_of_mem_shortEscapes (h : (letter, c) ∈ shortEscapes) : letter ≠ 'u' := by
  have all : ∀ pair ∈ shortEscapes, pair.1 ≠ 'u' := by decide
  exact all _ h

/-! ## Reading past a string -/

namespace StringLiteral

theorem skips_plain (plain : IsPlain c) (others : Reads skip text rest ()) :
    Reads skip (c :: text) rest () := by
  obtain ⟨quote, backslash, printable⟩ := plain
  rintro ⟨_, here⟩ rfl
  obtain ⟨read, found, same, next⟩ := others (Cursor.past _ c _) rfl
  rw [skip]
  simp only [List.cons_append, if_neg quote, if_neg backslash, if_neg (Nat.not_lt.2 printable)]
  exact ⟨_, bind_eq_ok_iff.2 ⟨read, found, rfl⟩, trivial, next⟩

theorem skips_escape {escaped : List Char}
    (here : Reads (escape (fun _ ↦ ()) fun c ↦ (unit c).map (Read.map fun _ ↦ ())) escaped
      (text ++ rest) ())
    (others : Reads skip text rest ()) : Reads skip ('\\' :: (escaped ++ text)) rest () := by
  rintro ⟨_, position⟩ rfl
  obtain ⟨first, found, -, next⟩ :=
    here (Cursor.past _ '\\' (escaped ++ text ++ rest)) (List.append_assoc ..)
  obtain ⟨read, found', -, next'⟩ := others first.next next
  rw [skip]
  exact ⟨_, bind_eq_ok_iff.2 ⟨first, found, bind_eq_ok_iff.2 ⟨read, found', rfl⟩⟩, rfl, next'⟩

end StringLiteral

/-- Every string is read past, whether or not it stands for a text. -/
theorem Quoted.skips (h : Quoted text) (rest : List Char) : Reads skip text rest () := by
  induction h with
  | close =>
    rintro ⟨_, here⟩ rfl
    rw [skip]
    exact ⟨_, rfl, rfl, rfl⟩
  | plain plain others ih => exact skips_plain plain ih
  | short escape others ih =>
    exact skips_escape (reads_letter (fun _ ↦ ()) _ (ofLetter?_of_mem_shortEscapes escape)) ih
  | numbered number others ih =>
    exact skips_escape (reads_numbered (fun _ ↦ ()) ((reads_unit number).map fun _ ↦ ())) ih

/-! ## Reading a string -/

namespace StringLiteral

theorem reads_expect (c : Char) (rest : List Char) : Reads (expect c) [c] rest () := by
  rintro ⟨_, here⟩ rfl
  rw [expect]
  exact ⟨_, if_pos rfl, rfl, rfl⟩

theorem eq_cons_of_expect {d : Char} {c : Cursor} {read : Read Unit c} (h : expect d c = .ok read) :
    c.rest = d :: read.next.rest := by
  rw [expect] at h
  split at h
  · cases h
  · rename_i e rest ahead
    split at h
    · rename_i same
      obtain rfl := Except.ok.inj h
      exact ahead.trans (congrArg (· :: rest) same)
    · cases h

theorem exists_digits_of_unit {c : Cursor} {read : Read Nat c} (h : unit c = .ok read) :
    ∃ p q r s, c.rest = p :: q :: r :: s :: read.next.rest ∧
      hexUnit? p q r s = some read.value := by
  rw [unit] at h
  split at h
  · rename_i p q r s rest ahead
    split at h
    · rename_i number
      obtain rfl := Except.ok.inj h
      exact ⟨p, q, r, s, ahead, number⟩
    · cases h
  · cases h

section Surrogates

variable {p q r s p' q' r' s' : Char} {n' : Nat}

/-- The numbers of two surrogates that make a pair. -/
theorem reads_pair (high : hexUnit? p q r s = some n) (leads : 0xD800 ≤ n ∧ n ≤ 0xDBFF)
    (low : hexUnit? p' q' r' s' = some n') (trails : 0xDC00 ≤ n' ∧ n' ≤ 0xDFFF) :
    Reads numbered [p, q, r, s, '\\', 'u', p', q', r', s'] rest
      (Char.ofNat (0x10000 + (n - 0xD800) * 0x400 + (n' - 0xDC00))) := by
  intro c ahead
  obtain ⟨first, found, rfl, next⟩ := reads_unit high c ahead
  obtain ⟨slash, slashFound, -, next⟩ := reads_expect '\\' _ first.next next
  obtain ⟨letter, letterFound, -, next⟩ := reads_expect 'u' _ slash.next next
  obtain ⟨second, secondFound, rfl, next⟩ := reads_unit low letter.next next
  rw [numbered, found, ok_bind, if_neg (by omega), if_neg (by omega), slashFound, ok_bind,
    letterFound, ok_bind, secondFound, ok_bind, if_neg (by omega)]
  refine ⟨_, pure_eq_ok _, ?_, next⟩
  dsimp only

/-- The second of two surrogates comes first. -/
theorem refuses_trailing (number : hexUnit? p q r s = some n) (trails : 0xDC00 ≤ n ∧ n ≤ 0xDFFF) :
    Refuses numbered [p, q, r, s] rest := by
  intro c ahead
  obtain ⟨first, found, rfl, -⟩ := reads_unit number c ahead
  rw [numbered, found, ok_bind, if_pos trails]
  exact ⟨_, rfl⟩

/-- The first of two surrogates, and no escape of the second behind it. -/
theorem refuses_leading (number : hexUnit? p q r s = some n) (leads : 0xD800 ≤ n ∧ n ≤ 0xDBFF)
    (alone : ∀ p' q' r' s' n' tail, rest = '\\' :: 'u' :: p' :: q' :: r' :: s' :: tail →
      hexUnit? p' q' r' s' = some n' → ¬(0xDC00 ≤ n' ∧ n' ≤ 0xDFFF)) :
    Refuses numbered [p, q, r, s] rest := by
  intro c ahead
  obtain ⟨first, found, rfl, next⟩ := reads_unit number c ahead
  rw [numbered, found, ok_bind, if_neg (by omega), if_neg (by omega)]
  cases slashFound : expect '\\' first.next with
  | error fault => exact ⟨fault, rfl⟩
  | ok slash =>
    rw [ok_bind]
    cases letterFound : expect 'u' slash.next with
    | error fault => exact ⟨fault, rfl⟩
    | ok letter =>
      rw [ok_bind]
      cases secondFound : unit letter.next with
      | error fault => exact ⟨fault, rfl⟩
      | ok second =>
        obtain ⟨p', q', r', s', digits, low⟩ := exists_digits_of_unit secondFound
        rw [eq_cons_of_expect slashFound, eq_cons_of_expect letterFound, digits] at next
        have other := alone p' q' r' s' _ _ next.symm low
        rw [ok_bind, if_pos (by omega)]
        exact ⟨_, rfl⟩

end Surrogates

end StringLiteral

/-- A string is read as the text that it stands for. -/
theorem Denotes.reads (h : Denotes text value) (rest : List Char) : Reads read text rest value := by
  induction h with
  | close => exact reads_quote rest
  | plain plain others ih => exact reads_plain plain.1 plain.2.1 plain.2.2 ih
  | short escape others ih =>
    exact reads_escape (reads_letter id _ (ofLetter?_of_mem_shortEscapes escape)) ih
  | numbered number scalar others ih =>
    exact reads_escape (reads_numbered id (reads_scalar number scalar)) ih
  | pair high leads low trails others ih =>
    exact reads_escape (reads_numbered id (reads_pair high leads low trails)) ih

/-! ## Strings that stand for no text -/

namespace StringLiteral

theorem refuses_plain (plain : IsPlain c) (others : Refuses read text rest) :
    Refuses read (c :: text) rest := by
  obtain ⟨quote, backslash, printable⟩ := plain
  rintro ⟨_, here⟩ rfl
  obtain ⟨fault, found⟩ := others (Cursor.past _ c _) rfl
  rw [StringLiteral.read]
  simp only [List.cons_append, if_neg quote, if_neg backslash, if_neg (Nat.not_lt.2 printable)]
  exact ⟨fault, bind_eq_error_iff.2 (.inl found)⟩

theorem refuses_escape {escaped : List Char}
    (here : Refuses (escape id numbered) escaped (text ++ rest)) :
    Refuses read ('\\' :: (escaped ++ text)) rest := by
  rintro ⟨_, position⟩ rfl
  obtain ⟨fault, found⟩ :=
    here (Cursor.past _ '\\' (escaped ++ text ++ rest)) (List.append_assoc ..)
  rw [StringLiteral.read]
  exact ⟨fault, bind_eq_error_iff.2 (.inl found)⟩

theorem refuses_behind_escape {escaped : List Char}
    (here : Reads (escape id numbered) escaped (text ++ rest) c)
    (others : Refuses read text rest) : Refuses read ('\\' :: (escaped ++ text)) rest := by
  rintro ⟨_, position⟩ rfl
  obtain ⟨first, found, -, next⟩ :=
    here (Cursor.past _ '\\' (escaped ++ text ++ rest)) (List.append_assoc ..)
  obtain ⟨fault, found'⟩ := others first.next next
  rw [StringLiteral.read]
  exact ⟨fault, bind_eq_error_iff.2 (.inr ⟨first, found, bind_eq_error_iff.2 (.inl found')⟩)⟩

theorem refuses_numbered {α : Type} (short : Char → α)
    {number : (c : Cursor) → Except Fault (Read α c)} (h : Refuses number text rest) :
    Refuses (escape short number) ('u' :: text) rest := by
  rintro ⟨_, here⟩ rfl
  obtain ⟨fault, found⟩ := h (Cursor.past _ 'u' _) rfl
  rw [escape]
  exact ⟨fault, map_eq_error_iff.2 found⟩

end StringLiteral

/-- A string goes on with an escape of the second of two surrogates or with something else. -/
theorem Quoted.trails_or_not (h : Quoted text) :
    (∃ p q r s n others, text = '\\' :: 'u' :: p :: q :: r :: s :: others ∧ Quoted others ∧
      hexUnit? p q r s = some n ∧ 0xDC00 ≤ n ∧ n ≤ 0xDFFF) ∨
    ∀ rest p q r s n tail, text ++ rest = '\\' :: 'u' :: p :: q :: r :: s :: tail →
      hexUnit? p q r s = some n → ¬(0xDC00 ≤ n ∧ n ≤ 0xDFFF) := by
  cases h with
  | close => exact .inr fun rest p q r s n tail same ↦ absurd (List.cons.inj same).1 (by decide)
  | plain plain others =>
    exact .inr fun rest p q r s n tail same ↦ absurd (List.cons.inj same).1 plain.2.1
  | short escape others =>
    refine .inr fun rest p q r s n tail same ↦ absurd ?_ (ne_u_of_mem_shortEscapes escape)
    exact (List.cons.inj (List.cons.inj same).2).1
  | @numbered p q r s n others number quoted =>
    by_cases trails : 0xDC00 ≤ n ∧ n ≤ 0xDFFF
    · exact .inl ⟨p, q, r, s, n, others, rfl, quoted, number, trails⟩
    · refine .inr fun rest p' q' r' s' n' tail same number' ↦ ?_
      simp only [List.cons_append, List.cons.injEq, true_and] at same
      obtain ⟨rfl, rfl, rfl, rfl, -⟩ := same
      rw [number, Option.some.injEq] at number'
      exact number' ▸ trails

/-- A string stands for a text or is refused, whatever follows. -/
theorem Quoted.denotes_or_refuses (h : Quoted text) :
    (∃ value, Denotes text value) ∨ ∀ rest, Refuses read text rest := by
  -- The escapes of a pair are two escapes of the string, so the induction is on the length.
  induction length : text.length using Nat.strongRecOn generalizing text with
  | ind length ih =>
    subst length
    cases h with
    | close => exact .inl ⟨[], .close⟩
    | plain plain others =>
      rcases ih _ (by simp) others rfl with ⟨value, denotes⟩ | refuses
      · exact .inl ⟨_, .plain plain denotes⟩
      · exact .inr fun rest ↦ refuses_plain plain (refuses rest)
    | short escape others =>
      rcases ih _ (by simp only [List.length_cons]; omega) others rfl with ⟨value, denotes⟩ | refuses
      · exact .inl ⟨_, .short escape denotes⟩
      · have letter := ofLetter?_of_mem_shortEscapes escape
        exact .inr fun rest ↦ refuses_behind_escape (reads_letter id _ letter) (refuses rest)
    | @numbered p q r s n text number others =>
      have kinds : (n < 0xD800 ∨ 0xDFFF < n) ∨ (0xDC00 ≤ n ∧ n ≤ 0xDFFF) ∨
          0xD800 ≤ n ∧ n ≤ 0xDBFF := by omega
      rcases kinds with scalar | trails | leads
      · rcases ih _ (by simp only [List.length_cons]; omega) others rfl with ⟨value, denotes⟩ | refuses
        · exact .inl ⟨_, .numbered number scalar denotes⟩
        · exact .inr fun rest ↦
            refuses_behind_escape (reads_numbered id (reads_scalar number scalar)) (refuses rest)
      · exact .inr fun rest ↦ refuses_escape (refuses_numbered id (refuses_trailing number trails))
      · rcases others.trails_or_not with ⟨_, _, _, _, _, tail, rfl, others, low, trails⟩ | alone
        · rcases ih _ (by simp only [List.length_cons]; omega) others rfl with ⟨value, denotes⟩ | refuses
          · exact .inl ⟨_, .pair number leads low trails denotes⟩
          · exact .inr fun rest ↦ refuses_behind_escape
              (reads_numbered id (reads_pair number leads low trails)) (refuses rest)
        · exact .inr fun rest ↦
            refuses_escape (refuses_numbered id (refuses_leading number leads (alone rest)))

end SoloScript.Json
