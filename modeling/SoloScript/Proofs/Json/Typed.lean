import SoloScript.Proofs.Json.Skip

/-!
# Values of a known type

Where a text is wanted, a string is read as the text that it stands for, and where a whole number is
wanted, plain digits are read as their value.  Every other value is refused, whatever is around it.
-/

namespace SoloScript.Json

open Outcome

variable {text rest blanks : List Char} {d : Char} {literal : NumberLiteral} {n : Nat}

/-! ## Texts -/

/-- A string and the text that it stands for. -/
inductive IsText : List Char → String → Prop
  | intro {text value : List Char} (denotes : Denotes text value) :
      IsText ('"' :: text) (String.ofList value)

theorem IsText.takes (expected : String) {value : String} (h : IsText text value) :
    Takes (Value.text expected) text value := by
  obtain ⟨denotes⟩ := h
  intro blanks rest blank _
  exact Value.reads_text_of_literal expected blank (denotes.reads rest)

namespace Value

/-- A string that stands for no text is refused. -/
theorem takesNot_quoted (expected : String)
    (refuses : ∀ rest, Refuses StringLiteral.read text rest) :
    TakesNot (Value.text expected) ('"' :: text) := by
  intro blanks rest blank _ c ahead
  obtain ⟨token, found, same, next⟩ := Cursor.exists_token?
    (ahead.trans (List.append_assoc ..)) blank (by decide : Cursor.isBlank '"' = false)
  obtain ⟨fault, refused⟩ := refuses rest token.next next
  rw [Value.text, found]
  simp only [if_pos same]
  exact ⟨fault, bind_eq_error_iff.2 (.inl refused)⟩

theorem takesNot_of_ne_quote (expected : String) (solid : Cursor.isBlank d = false)
    (other : d ≠ '"') : TakesNot (Value.text expected) (d :: text) := by
  intro blanks rest blank _ c ahead
  obtain ⟨token, found, rfl, -⟩ := Cursor.exists_token?
    (ahead.trans (List.append_assoc ..)) blank solid
  rw [Value.text, found]
  exact ⟨_, if_neg other⟩

theorem takesNot_of_not_startsNumber (expected : String) (solid : Cursor.isBlank d = false)
    (other : Value.startsNumber d = false) : TakesNot (Value.natural expected) (d :: text) := by
  intro blanks rest blank _ c ahead
  obtain ⟨token, found, rfl, -⟩ := Cursor.exists_token?
    (ahead.trans (List.append_assoc ..)) blank solid
  rw [Value.natural, found]
  exact ⟨_, if_neg (Bool.eq_false_iff.1 other)⟩

end Value

theorem Valid.isText_or_takesNot (expected : String) (h : Valid .value text) :
    (∃ value, IsText text value) ∨ TakesNot (Value.text expected) text := by
  cases h with
  | keyword known =>
    obtain ⟨d, letters, rfl, named⟩ := exists_letters_of_mem_keywords known
    exact .inr (Value.takesNot_of_ne_quote expected (isBlank_of_keyword? named)
      (ne_of_keyword? named (by decide)))
  | string quoted =>
    rcases quoted.denotes_or_refuses with ⟨value, denotes⟩ | refuses
    · exact .inl ⟨_, .intro denotes⟩
    · exact .inr (Value.takesNot_quoted expected refuses)
  | number numeral =>
    obtain ⟨d, others, rfl, starts⟩ := numeral.starts
    exact .inr (Value.takesNot_of_ne_quote expected (isBlank_of_startsNumber starts)
      (ne_of_startsNumber starts (by decide)))
  | emptyArray | array | emptyObject | object =>
    exact .inr (Value.takesNot_of_ne_quote expected (by decide) (by decide))

/-! ## Whole numbers -/

/-- The digits of a number below `2 ^ 64`, and the number. -/
structure IsNatural (text : List Char) (n : Nat) : Prop where
  whole : Whole text
  value : Nat.ofDigitChars 10 text 0 = n
  fits : n < Nat.pow 2 64

theorem foldl_digitValue (digits : List Char) (n : Nat) :
    digits.foldl (fun n d ↦ n * 10 + NumberLiteral.digitValue d) n =
      Nat.ofDigitChars 10 digits n := by
  rw [Nat.ofDigitChars_eq_foldl]
  congr 1
  funext n d
  rw [NumberLiteral.digitValue, Nat.mul_comm]
  rfl

theorem Whole.isDigit_of_mem (h : Whole text) (mem : d ∈ text) : d.isDigit = true := h.1.2 d mem

/-- The literals of whole numbers that are not negative and fit a word are those of plain digits. -/
theorem Numeral.integer?_eq_some_ofNat_iff (h : Numeral text literal) :
    literal.integer? = some (.ofNat n) ↔ IsNatural text n := by
  cases h with
  | positive whole' fraction' exponent' =>
    simp only [NumberLiteral.integer?, foldl_digitValue]
    cases fraction' with
    | present digits' =>
      rw [if_pos (.inl digits'.1)]
      refine ⟨nofun, fun natural ↦ absurd (natural.whole.isDigit_of_mem (d := '.') ?_) (by decide)⟩
      simp
    | absent =>
      cases exponent' with
      | present marks =>
        rw [if_pos (.inr rfl)]
        refine ⟨nofun, fun natural ↦ ?_⟩
        have digit := natural.whole.isDigit_of_mem (List.mem_append_right _ List.mem_cons_self)
        rcases marks with rfl | rfl <;> exact absurd digit (by decide)
      | absent =>
        rw [List.nil_append, List.append_nil]
        have plain : ¬(([] : List Char) ≠ [] ∨
          (none : Option (Bool × List Char)).isSome = true) := by decide
        rw [if_neg plain, if_neg Bool.false_ne_true]
        constructor
        · intro found
          split at found
          · rename_i fits
            obtain rfl := Int.ofNat.inj (Option.some.inj found)
            exact ⟨whole', rfl, fits⟩
          · cases found
        · rintro ⟨-, rfl, fits⟩
          exact if_pos fits
  | negative whole' fraction' exponent' =>
    refine ⟨fun found ↦ ?_, fun natural ↦ ?_⟩
    · simp only [NumberLiteral.integer?, if_true] at found
      split at found
      · cases found
      · split at found
        · rename_i bounds
          have negated : _ = (n : Int) := Option.some.inj found
          omega
        · cases found
    · exact absurd (natural.whole.isDigit_of_mem List.mem_cons_self) (by decide)

theorem IsNatural.numeral (h : IsNatural text n) : Numeral text ⟨false, text, [], none⟩ := by
  have plain := Numeral.positive h.whole .absent .absent
  rwa [List.nil_append, List.append_nil] at plain

namespace Value

theorem takes_of_integer? (expected : String) (numeral : Numeral text literal)
    (fits : literal.integer? = some (.ofNat n)) : Takes (Value.natural expected) text n := by
  intro blanks rest blank stops c ahead
  obtain ⟨first, read, found, starts, taken, rfl, left⟩ :=
    exists_literal .endInValue blank numeral stops ahead
  have value : read.value.value read.next.here = .ok (.integer (.ofNat n)) := by
    rw [NumberLiteral.value, fits]
  rw [Value.natural, found]
  simp only [if_pos starts, taken, ok_bind, value]
  exact ⟨_, rfl, rfl, left⟩

theorem takesNot_of_integer? (expected : String) (numeral : Numeral text literal)
    (other : ∀ n, literal.integer? ≠ some (.ofNat n)) : TakesNot (Value.natural expected) text := by
  intro blanks rest blank stops c ahead
  obtain ⟨first, read, found, starts, taken, rfl, -⟩ :=
    exists_literal .endInValue blank numeral stops ahead
  rw [Value.natural, found]
  simp only [if_pos starts, taken, ok_bind]
  cases met : read.value.value read.next.here with
  | error fault => exact ⟨fault, rfl⟩
  | ok number =>
    rw [ok_bind]
    rcases number with (n | n) | x
    · rw [NumberLiteral.value] at met
      split at met
      · rename_i m integer
        obtain rfl : m = .ofNat n := by simpa using met
        exact absurd integer (other n)
      · split at met
        · cases met
        · cases met
    · exact ⟨_, rfl⟩
    · exact ⟨_, rfl⟩

end Value

theorem IsNatural.takes (expected : String) (h : IsNatural text n) :
    Takes (Value.natural expected) text n :=
  Value.takes_of_integer? expected h.numeral (h.numeral.integer?_eq_some_ofNat_iff.2 h)

/-- What has been read as a whole number is written in plain digits. -/
theorem isNatural_of_natural {expected : String} {c : Cursor} {read : Read Nat c}
    (h : Value.natural expected c = .ok read) :
    ∃ text, c.skipBlanks.rest = text ++ read.next.rest ∧ IsNatural text read.value := by
  rw [Value.natural] at h
  split at h
  · cases h
  · split at h
    · obtain ⟨literal, taken, h⟩ := bind_eq_ok_iff.1 h
      obtain ⟨number, value, h⟩ := bind_eq_ok_iff.1 h
      obtain ⟨text, split, numeral⟩ := numeral_of_read taken
      split at h
      · rename_i n
        cases h
        have integer : literal.value.integer? = some (.ofNat n) := by
          rw [NumberLiteral.value] at value
          split at value
          · rename_i m found
            rw [found, Number.integer.inj (Except.ok.inj value)]
          · split at value <;> cases value
        exact ⟨text, split, numeral.integer?_eq_some_ofNat_iff.1 integer⟩
      · cases h
      · cases h
    · cases h

theorem Valid.isNatural_or_takesNot (expected : String) (h : Valid .value text) :
    (∃ n, IsNatural text n) ∨ TakesNot (Value.natural expected) text := by
  cases h with
  | keyword known =>
    obtain ⟨d, letters, rfl, named⟩ := exists_letters_of_mem_keywords known
    have other : Value.startsNumber d = false := Bool.eq_false_iff.2 fun starts ↦
      absurd (named.symm.trans (keyword?_of_startsNumber starts)) (by simp)
    exact .inr (Value.takesNot_of_not_startsNumber expected (isBlank_of_keyword? named) other)
  | @number _ literal numeral =>
    by_cases fits : ∃ n, literal.integer? = some (.ofNat n)
    · obtain ⟨n, fits⟩ := fits
      exact .inl ⟨n, numeral.integer?_eq_some_ofNat_iff.1 fits⟩
    · exact .inr (Value.takesNot_of_integer? expected numeral (not_exists.1 fits))
  | string | emptyArray | array | emptyObject | object =>
    exact .inr (Value.takesNot_of_not_startsNumber expected (by decide) (by decide))

end SoloScript.Json
