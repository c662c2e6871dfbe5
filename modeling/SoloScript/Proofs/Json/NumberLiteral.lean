import SoloScript.Proofs.Json.Grammar

/-!
# Reading numbers

Any number is read in its parts, as long as what follows cannot be taken for one more part of it.
And what has been read is a number: it is of the grammar, and no other text is read.
-/

namespace SoloScript.Json

open Outcome

variable {text rest whole fraction exponent digits : List Char} {power : Option (Bool × List Char)}
  {c : Cursor}

/-! ## The end of a number -/

def NoDigit (rest : List Char) : Prop := ∀ d ∈ rest.head?, d.isDigit = false

/-- What follows is no part of a number in front of it. -/
def Stops (rest : List Char) : Prop :=
  NoDigit rest ∧ ∀ d ∈ rest.head?, d ≠ '.' ∧ d ≠ 'e' ∧ d ≠ 'E'

theorem stops_cons {d : Char} (digit : d.isDigit = false) (others : d ≠ '.' ∧ d ≠ 'e' ∧ d ≠ 'E') :
    Stops (d :: rest) := by
  refine ⟨fun e here ↦ ?_, fun e here ↦ ?_⟩
  · exact Option.some.inj here ▸ digit
  · exact Option.some.inj here ▸ others

theorem stops_nil : Stops [] := ⟨by simp [NoDigit], by simp⟩

/-- Blanks are no part of a number. -/
theorem Stops.behind_blanks {blanks : List Char} (h : Stops rest) (blank : Blank blanks) :
    Stops (blanks ++ rest) := by
  cases blanks with
  | nil => exact h
  | cons b blanks =>
    have first : Cursor.isBlank b = true := blank b List.mem_cons_self
    rcases Cursor.eq_of_isBlank first with rfl | rfl | rfl | rfl <;>
      exact stops_cons (by decide) (by decide)

/-- What ends a value within an array or object. -/
def separators : List Char := [',', ']', '}']

theorem isBlank_of_mem_separators {d : Char} (h : d ∈ separators) : Cursor.isBlank d = false := by
  simp only [separators, List.mem_cons, List.not_mem_nil, or_false] at h
  rcases h with rfl | rfl | rfl <;> decide

theorem stops_of_mem_separators {blanks : List Char} {d : Char} (h : d ∈ separators)
    (blank : Blank blanks) : Stops (blanks ++ d :: rest) := by
  refine Stops.behind_blanks ?_ blank
  simp only [separators, List.mem_cons, List.not_mem_nil, or_false] at h
  rcases h with rfl | rfl | rfl <;> exact stops_cons (by decide) (by decide)

theorem Fraction.noDigit (h : Fraction fraction digits) (stops : NoDigit rest) :
    NoDigit (fraction ++ rest) := by
  cases h with
  | absent => exact stops
  | present => exact fun d here ↦ Option.some.inj here ▸ (by decide)

theorem Exponent.noDigit (h : Exponent exponent power) (stops : NoDigit rest) :
    NoDigit (exponent ++ rest) := by
  cases h with
  | absent => exact stops
  | present marks =>
    intro d here
    obtain rfl := Option.some.inj here
    rcases marks with rfl | rfl <;> decide

namespace NumberLiteral

/-! ## Digits -/

theorem digits_append (inside : ∀ d ∈ text, d.isDigit = true) (stops : NoDigit rest)
    (here : Position) :
    (NumberLiteral.digits (text ++ rest) here).1 = text ∧
      (NumberLiteral.digits (text ++ rest) here).2.rest = rest := by
  induction text generalizing here with
  | nil =>
    cases rest with
    | nil => exact ⟨rfl, rfl⟩
    | cons d rest => simp [NumberLiteral.digits, stops d rfl]
  | cons d text ih =>
    obtain ⟨first, others⟩ := List.forall_mem_cons.1 inside
    obtain ⟨taken, left⟩ := ih others (here.past d)
    simp [NumberLiteral.digits, first, taken, left]

theorem reads_someDigits (atEnd : Reason) (h : Digits text) (stops : NoDigit rest) :
    Reads (someDigits atEnd) text rest text := by
  obtain ⟨some, inside⟩ := h
  rintro ⟨_, here⟩ rfl
  cases text with
  | nil => contradiction
  | cons d text =>
    obtain ⟨first, others⟩ := List.forall_mem_cons.1 inside
    obtain ⟨taken, left⟩ := digits_append others stops (here.past d)
    rw [someDigits]
    simp only [List.cons_append, if_pos first]
    exact ⟨_, rfl, congrArg (d :: ·) taken, left⟩

theorem reads_readWhole (atEnd : Reason) (h : Whole text) (stops : NoDigit rest) :
    Reads (readWhole atEnd) text rest text := by
  obtain ⟨digits, alone⟩ := h
  intro c ahead
  rw [readWhole]
  split
  · rename_i others zero
    obtain rfl : text = ['0'] := by
      cases text with
      | nil => exact absurd rfl digits.1
      | cons d text =>
        obtain ⟨rfl, -⟩ := List.cons.inj (ahead.symm.trans zero)
        rw [alone text rfl]
    obtain rfl : rest = others := (List.cons.inj (ahead.symm.trans zero)).2
    have ends : (rest.head?.map Char.isDigit).getD false = false := by
      cases rest with
      | nil => rfl
      | cons d rest => exact stops d rfl
    simp only [ends, Bool.false_eq_true, if_false]
    exact ⟨_, rfl, rfl, rfl⟩
  · exact reads_someDigits atEnd digits stops c ahead

/-! ## Parts that may be absent -/

theorem exists_readFraction (atEnd : Reason) (h : Fraction text digits) (stops : NoDigit rest)
    (point : ∀ d ∈ rest.head?, d ≠ '.') (ahead : c.rest = text ++ rest) :
    ∃ read, readFraction atEnd c = .ok read ∧ read.1 = digits ∧ read.2.1.rest = rest := by
  rw [readFraction]
  split
  · rename_i others found
    cases h with
    | absent => exact absurd rfl (point '.' (congrArg List.head? (ahead.symm.trans found)))
    | present digits' =>
      obtain ⟨-, rfl⟩ := List.cons.inj (ahead.symm.trans found)
      obtain ⟨read, taken, same, left⟩ := reads_someDigits atEnd digits' stops (c.past '.' _) rfl
      exact ⟨_, bind_eq_ok_iff.2 ⟨read, taken, rfl⟩, same, left⟩
  · rename_i other
    cases h with
    | absent => exact ⟨_, rfl, rfl, ahead⟩
    | present => exact absurd ahead (other _)

theorem readSign_append {sign : List Char} {negative : Bool} (h : Sign sign negative)
    (digits' : Digits digits) (ahead : c.rest = sign ++ (digits ++ rest)) :
    (readSign c).1 = negative ∧ (readSign c).2.1.rest = digits ++ rest := by
  obtain ⟨_, here⟩ := c
  obtain rfl := ahead
  cases h with
  | plus => exact ⟨rfl, rfl⟩
  | minus => exact ⟨rfl, rfl⟩
  | absent =>
    obtain ⟨some, inside⟩ := digits'
    cases digits with
    | nil => contradiction
    | cons d digits =>
      have first : d.isDigit = true := inside d List.mem_cons_self
      rw [readSign]
      split
      · rename_i found
        exact absurd ((List.cons.inj found).1 ▸ first) (by decide)
      · rename_i found
        exact absurd ((List.cons.inj found).1 ▸ first) (by decide)
      · exact ⟨rfl, rfl⟩

theorem exists_readExponent (atEnd : Reason) (h : Exponent text power) (stops : Stops rest)
    (ahead : c.rest = text ++ rest) :
    ∃ read, readExponent atEnd c = .ok read ∧ read.1 = power ∧ read.2.1.rest = rest := by
  rw [readExponent]
  split
  · rename_i d others found
    cases h with
    | absent =>
      have other := (stops.2 d (congrArg List.head? (ahead.symm.trans found))).2
      rw [if_neg (not_or.2 other)]
      exact ⟨_, rfl, rfl, ahead⟩
    | @present mark sign digits negative marks signed digits' =>
      obtain ⟨rfl, rfl⟩ := List.cons.inj (found.symm.trans ahead)
      obtain ⟨signs, left⟩ := readSign_append (c := c.past d _) signed digits'
        (List.append_assoc sign digits rest)
      obtain ⟨read, taken, same, next⟩ := reads_someDigits atEnd digits' stops.1 _ left
      rw [if_pos marks]
      exact ⟨_, bind_eq_ok_iff.2 ⟨read, taken, rfl⟩, congrArg some (Prod.ext signs same), next⟩
  · rename_i found
    cases h with
    | absent => exact ⟨_, rfl, rfl, ahead⟩
    | present => exact absurd (found.symm.trans ahead) (List.cons_ne_nil _ _).symm

/-! ## Numbers -/

theorem reads_readUnsigned (negative : Bool) (atEnd : Reason) (whole' : Whole whole)
    (fraction' : Fraction fraction digits) (exponent' : Exponent exponent power)
    (stops : Stops rest) :
    Reads (readUnsigned negative atEnd) (whole ++ (fraction ++ exponent)) rest
      ⟨negative, whole, digits, power⟩ := by
  intro c ahead
  have behindFraction := exponent'.noDigit stops.1
  have point : ∀ d ∈ (exponent ++ rest).head?, d ≠ '.' := by
    cases exponent' with
    | absent => exact fun d here ↦ (stops.2 d here).1
    | present marks =>
      intro d here
      obtain rfl := Option.some.inj here
      rcases marks with rfl | rfl <;> decide
  obtain ⟨first, wholeRead, rfl, next⟩ := reads_readWhole atEnd whole'
    (fraction'.noDigit behindFraction) c (by simp only [ahead, List.append_assoc])
  obtain ⟨second, fractionRead, rfl, next⟩ :=
    exists_readFraction atEnd fraction' behindFraction point next
  obtain ⟨third, exponentRead, rfl, next⟩ := exists_readExponent atEnd exponent' stops next
  refine ⟨_, bind_eq_ok_iff.2 ⟨first, wholeRead, bind_eq_ok_iff.2 ⟨second, fractionRead,
    bind_eq_ok_iff.2 ⟨third, exponentRead, rfl⟩⟩⟩, rfl, next⟩

end NumberLiteral

/-! ## The first character -/

section First

variable {d e : Char}

theorem ne_of_startsNumber (h : Value.startsNumber d = true)
    (other : Value.startsNumber e = false) : d ≠ e := by
  rintro rfl
  exact absurd (h.symm.trans other) (by decide)

theorem isBlank_of_startsNumber (h : Value.startsNumber d = true) : Cursor.isBlank d = false := by
  refine Bool.eq_false_iff.2 fun blank ↦ ?_
  rcases Cursor.eq_of_isBlank blank with rfl | rfl | rfl | rfl <;> exact absurd h (by decide)

theorem keyword?_of_startsNumber (h : Value.startsNumber d = true) : Value.keyword? d = none := by
  have other (e : Char) (plain : Value.startsNumber e = false) : d ≠ e := ne_of_startsNumber h plain
  simp [Value.keyword?, other 'n' (by decide), other 't' (by decide), other 'f' (by decide)]

end First

theorem Numeral.starts {literal : NumberLiteral} (h : Numeral text literal) :
    ∃ d others, text = d :: others ∧ Value.startsNumber d = true := by
  cases h with
  | positive whole' =>
    obtain ⟨⟨some, inside⟩, -⟩ := whole'
    obtain ⟨d, others, rfl⟩ := List.exists_cons_of_ne_nil some
    have digit : d.isDigit = true := inside d List.mem_cons_self
    exact ⟨d, _, rfl, by simp [Value.startsNumber, digit]⟩
  | negative => exact ⟨'-', _, rfl, by decide⟩

/-- A number is read as its parts, and nothing behind it is read. -/
theorem Numeral.reads {literal : NumberLiteral} (atEnd : Reason) (h : Numeral text literal)
    (stops : Stops rest) : Reads (NumberLiteral.read atEnd) text rest literal := by
  intro c ahead
  rw [NumberLiteral.read]
  cases h with
  | positive whole' fraction' exponent' =>
    split
    · rename_i minus
      obtain ⟨⟨some, inside⟩, -⟩ := whole'
      obtain ⟨d, others, rfl⟩ := List.exists_cons_of_ne_nil some
      have same : d = '-' := (List.cons.inj (ahead.symm.trans minus)).1
      exact absurd (inside d List.mem_cons_self) (by rw [same]; decide)
    · exact NumberLiteral.reads_readUnsigned false atEnd whole' fraction' exponent' stops c ahead
  | negative whole' fraction' exponent' =>
    split
    · rename_i others minus
      obtain ⟨-, rfl⟩ := List.cons.inj (ahead.symm.trans minus)
      obtain ⟨read, taken, same, left⟩ := NumberLiteral.reads_readUnsigned true atEnd whole'
        fraction' exponent' stops (c.past '-' _) rfl
      exact ⟨_, map_eq_ok_iff.2 ⟨read, taken, rfl⟩, same, left⟩
    · rename_i other
      exact absurd ahead (other _)

/-! ## What has been read -/

namespace NumberLiteral

theorem digits_eq (rest : List Char) (here : Position) :
    rest = (NumberLiteral.digits rest here).1 ++ (NumberLiteral.digits rest here).2.rest ∧
      ∀ d ∈ (NumberLiteral.digits rest here).1, d.isDigit = true := by
  induction rest generalizing here with
  | nil => exact ⟨rfl, by simp [NumberLiteral.digits]⟩
  | cons d rest ih =>
    rw [NumberLiteral.digits]
    split
    · rename_i digit
      obtain ⟨split, inside⟩ := ih (here.past d)
      exact ⟨congrArg (d :: ·) split, List.forall_mem_cons.2 ⟨digit, inside⟩⟩
    · exact ⟨rfl, by simp⟩

theorem digits_of_someDigits {atEnd : Reason} {read : Read (List Char) c}
    (h : someDigits atEnd c = .ok read) :
    c.rest = read.value ++ read.next.rest ∧ Digits read.value := by
  rw [someDigits] at h
  split at h
  · cases h
  · rename_i d rest ahead
    split at h
    · rename_i digit
      obtain ⟨split, inside⟩ := digits_eq rest (c.here.past d)
      cases h
      exact ⟨ahead.trans (congrArg (d :: ·) split), List.cons_ne_nil _ _,
        List.forall_mem_cons.2 ⟨digit, inside⟩⟩
    · cases h

theorem whole_of_readWhole {atEnd : Reason} {read : Read (List Char) c}
    (h : readWhole atEnd c = .ok read) :
    c.rest = read.value ++ read.next.rest ∧ Whole read.value := by
  rw [readWhole] at h
  split at h
  · rename_i rest ahead
    dsimp only at h
    split at h
    · cases h
    · cases h
      refine ⟨ahead, ⟨List.cons_ne_nil _ _, by simp⟩, fun others same ↦ ?_⟩
      exact (List.cons.inj same).2.symm
  · rename_i other
    obtain ⟨split, digits⟩ := digits_of_someDigits h
    refine ⟨split, digits, fun others zero ↦ ?_⟩
    rw [zero] at split
    exact absurd split (other _)

theorem fraction_of_readFraction {atEnd : Reason}
    {read : List Char × { d : Cursor // d.length ≤ c.length }}
    (h : readFraction atEnd c = .ok read) :
    ∃ text, c.rest = text ++ read.2.1.rest ∧ Fraction text read.1 := by
  rw [readFraction] at h
  split at h
  · rename_i rest ahead
    obtain ⟨digits, taken, done⟩ := bind_eq_ok_iff.1 h
    obtain ⟨split, some⟩ := digits_of_someDigits taken
    cases done
    exact ⟨'.' :: digits.value, ahead.trans (congrArg (List.cons '.') split), .present some⟩
  · cases h
    exact ⟨[], rfl, .absent⟩

theorem exists_sign (c : Cursor) :
    ∃ text, c.rest = text ++ (readSign c).2.1.rest ∧ Sign text (readSign c).1 := by
  rw [readSign]
  split
  · rename_i rest ahead
    exact ⟨['+'], ahead, .plus⟩
  · rename_i rest ahead
    exact ⟨['-'], ahead, .minus⟩
  · exact ⟨[], rfl, .absent⟩

theorem exponent_of_readExponent {atEnd : Reason}
    {read : Option (Bool × List Char) × { d : Cursor // d.length ≤ c.length }}
    (h : readExponent atEnd c = .ok read) :
    ∃ text, c.rest = text ++ read.2.1.rest ∧ Exponent text read.1 := by
  rw [readExponent] at h
  split at h
  · rename_i d rest ahead
    split at h
    · rename_i marks
      obtain ⟨sign, signed, signs⟩ := exists_sign (c.past d rest)
      generalize readSign (c.past d rest) = step at h signed signs
      obtain ⟨negative, next⟩ := step
      obtain ⟨digits, taken, done⟩ := bind_eq_ok_iff.1 h
      obtain ⟨split, some⟩ := digits_of_someDigits taken
      cases done
      refine ⟨d :: (sign ++ digits.value), ?_, .present marks signs some⟩
      calc c.rest = d :: rest := ahead
        _ = d :: (sign ++ next.1.rest) := congrArg (List.cons d) signed
        _ = d :: (sign ++ digits.value) ++ digits.next.rest := by
          rw [split, List.cons_append, List.append_assoc]
    · cases h
      exact ⟨[], rfl, .absent⟩
  · cases h
    exact ⟨[], rfl, .absent⟩

theorem parts_of_readUnsigned {negative : Bool} {atEnd : Reason} {read : Read NumberLiteral c}
    (h : readUnsigned negative atEnd c = .ok read) :
    ∃ whole fraction exponent digits power,
      c.rest = (whole ++ (fraction ++ exponent)) ++ read.next.rest ∧ Whole whole ∧
        Fraction fraction digits ∧ Exponent exponent power ∧
        read.value = ⟨negative, whole, digits, power⟩ := by
  obtain ⟨first, wholeRead, h⟩ := bind_eq_ok_iff.1 h
  obtain ⟨second, fractionRead, h⟩ := bind_eq_ok_iff.1 h
  obtain ⟨third, exponentRead, done⟩ := bind_eq_ok_iff.1 h
  obtain ⟨split, whole'⟩ := whole_of_readWhole wholeRead
  obtain ⟨fraction, split', fraction'⟩ := fraction_of_readFraction fractionRead
  obtain ⟨exponent, split'', exponent'⟩ := exponent_of_readExponent exponentRead
  cases done
  refine ⟨first.value, fraction, exponent, _, _, ?_, whole', fraction', exponent', rfl⟩
  rw [split, split', split'', List.append_assoc, List.append_assoc]

end NumberLiteral

/-- What has been read as a number is one, with the parts that have been read. -/
theorem numeral_of_read {atEnd : Reason} {read : Read NumberLiteral c}
    (h : NumberLiteral.read atEnd c = .ok read) :
    ∃ text, c.rest = text ++ read.next.rest ∧ Numeral text read.value := by
  rw [NumberLiteral.read] at h
  split at h
  · rename_i rest ahead
    obtain ⟨inner, taken, rfl⟩ := map_eq_ok_iff.1 h
    obtain ⟨whole, fraction, exponent, digits, power, split, whole', fraction', exponent', same⟩ :=
      NumberLiteral.parts_of_readUnsigned taken
    refine ⟨'-' :: (whole ++ (fraction ++ exponent)), ahead.trans (congrArg ('-' :: ·) split), ?_⟩
    exact same ▸ .negative whole' fraction' exponent'
  · obtain ⟨whole, fraction, exponent, digits, power, split, whole', fraction', exponent', same⟩ :=
      NumberLiteral.parts_of_readUnsigned h
    exact ⟨_, split, same ▸ .positive whole' fraction' exponent'⟩

end SoloScript.Json
