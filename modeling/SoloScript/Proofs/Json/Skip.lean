import SoloScript.Proofs.Json.NumberLiteral
import SoloScript.Proofs.Json.Quoted
import SoloScript.Proofs.Json.Value

/-!
# Reading past any value

A value is read past to its very end, however deep the arrays and objects in it are nested.  What
follows must not be taken for a part of a number, as is the case behind every value of a text.
-/

namespace SoloScript.Json

open Outcome

variable {α β : Type} {text rest blanks blanks' : List Char} {d : Char} {c : Cursor}

/-! ## What a value is taken for -/

/-- A value is taken for `value`, whatever blanks are in front of it and whatever follows. -/
def Takes (reader : (c : Cursor) → Except Fault (Read α c)) (text : List Char) (value : α) : Prop :=
  ∀ blanks rest, Blank blanks → Stops rest → Reads reader (blanks ++ text) rest value

theorem Takes.unique {reader : (c : Cursor) → Except Fault (Read α c)} {value value' : α}
    (h : Takes reader text value) (h' : Takes reader text value') : value = value' :=
  (h [] [] blank_nil stops_nil).unique (h' [] [] blank_nil stops_nil)

theorem Takes.map {reader : (c : Cursor) → Except Fault (Read α c)} {value : α}
    (h : Takes reader text value) (f : α → β) :
    Takes (fun c ↦ (reader c).map (Read.map f)) text (f value) :=
  fun blanks rest blank stops ↦ (h blanks rest blank stops).map f

/-- A value is taken for nothing. -/
def TakesNot (reader : (c : Cursor) → Except Fault (Read α c)) (text : List Char) : Prop :=
  ∀ blanks rest, Blank blanks → Stops rest → Refuses reader (blanks ++ text) rest

theorem TakesNot.map {reader : (c : Cursor) → Except Fault (Read α c)} (h : TakesNot reader text)
    (f : α → β) : TakesNot (fun c ↦ (reader c).map (Read.map f)) text :=
  fun blanks rest blank stops ↦ (h blanks rest blank stops).map f

theorem Takes.not_takesNot {reader : (c : Cursor) → Except Fault (Read α c)} {value : α}
    (h : Takes reader text value) : ¬TakesNot reader text := by
  intro refused
  obtain ⟨read, taken, -⟩ := h [] [] blank_nil stops_nil ⟨[] ++ text ++ [], .origin⟩ rfl
  obtain ⟨fault, met⟩ := refused [] [] blank_nil stops_nil ⟨[] ++ text ++ [], .origin⟩ rfl
  cases taken.symm.trans met

/-! ## Where values start -/

theorem exists_letters_of_mem_keywords (h : text ∈ keywords) :
    ∃ d letters, text = d :: letters ∧ Value.keyword? d = some letters := by
  simp only [keywords, List.mem_cons, List.not_mem_nil, or_false] at h
  rcases h with rfl | rfl | rfl <;> exact ⟨_, _, rfl, by decide⟩

theorem ne_of_keyword? {letters : List Char} {e : Char} (h : Value.keyword? d = some letters)
    (other : Value.keyword? e = none) : d ≠ e := by
  rintro rfl
  exact absurd (h.symm.trans other) (by simp)

theorem isBlank_of_keyword? {letters : List Char} (h : Value.keyword? d = some letters) :
    Cursor.isBlank d = false := by
  refine Bool.eq_false_iff.2 fun blank ↦ ?_
  rcases Cursor.eq_of_isBlank blank with rfl | rfl | rfl | rfl <;>
    exact absurd h (by simp [Value.keyword?])

theorem Valid.exists_first (h : Valid .value text) :
    ∃ d others, text = d :: others ∧ Cursor.isBlank d = false ∧ d ≠ ']' := by
  cases h with
  | keyword known =>
    obtain ⟨d, letters, rfl, named⟩ := exists_letters_of_mem_keywords known
    exact ⟨d, letters, rfl, isBlank_of_keyword? named, ne_of_keyword? named (by decide)⟩
  | string | emptyArray | array | emptyObject | object =>
    exact ⟨_, _, rfl, by decide, by decide⟩
  | number numeral =>
    obtain ⟨d, others, rfl, starts⟩ := numeral.starts
    exact ⟨d, others, rfl, isBlank_of_startsNumber starts, ne_of_startsNumber starts (by decide)⟩

theorem Valid.exists_element (h : Valid .elements text) :
    ∃ blanks d others, text = blanks ++ d :: others ∧ Blank blanks ∧
      Cursor.isBlank d = false ∧ d ≠ ']' := by
  cases h with
  | lastElement blank value | element blank value =>
    obtain ⟨d, others, rfl, solid, bracket⟩ := value.exists_first
    exact ⟨_, d, _, rfl, blank, solid, bracket⟩

theorem Valid.exists_quote (h : Valid .members text) :
    ∃ blanks others, text = blanks ++ '"' :: others ∧ Blank blanks := by
  cases h with
  | lastMember blank | member blank => exact ⟨_, _, rfl, blank⟩

namespace Value

/-! ## Values with no others in them -/

theorem exists_keyword (letters : List Char) (ahead : c.rest = letters ++ rest) :
    ∃ last, keyword letters c = .ok last ∧ last.1.rest = rest := by
  induction letters generalizing c with
  | nil => exact ⟨⟨c, Nat.le_refl _⟩, rfl, ahead⟩
  | cons e letters ih =>
    obtain ⟨_, here⟩ := c
    obtain rfl := ahead
    obtain ⟨last, found, left⟩ := ih (c := Cursor.past _ e _) rfl
    exact ⟨_, (if_pos rfl).trans (bind_eq_ok_iff.2 ⟨last, found, rfl⟩), left⟩

theorem skipAtom_keyword {letters : List Char} (blank : Blank blanks)
    (named : keyword? d = some letters) :
    Reads skipAtom (blanks ++ d :: letters) rest () := by
  intro c ahead
  obtain ⟨first, found, rfl, next⟩ := Cursor.exists_token?
    (ahead.trans (List.append_assoc ..)) blank (isBlank_of_keyword? named)
  obtain ⟨last, taken, left⟩ := exists_keyword letters next
  rw [skipAtom, found]
  simp only [named]
  exact ⟨_, bind_eq_ok_iff.2 ⟨last, taken, rfl⟩, trivial, left⟩

theorem skipAtom_string (blank : Blank blanks) (quoted : Quoted text) :
    Reads skipAtom (blanks ++ '"' :: text) rest () := by
  intro c ahead
  obtain ⟨first, found, same, next⟩ := Cursor.exists_token?
    (ahead.trans (List.append_assoc ..)) blank (by decide : Cursor.isBlank '"' = false)
  obtain ⟨read, taken, -, left⟩ := quoted.skips rest first.next next
  have unnamed : keyword? first.value = none := by
    rw [same]
    decide
  rw [skipAtom, found]
  simp only [unnamed, if_pos same]
  exact ⟨_, map_eq_ok_iff.2 ⟨read, taken, rfl⟩, trivial, left⟩

/-- A number comes next, and can be read. -/
theorem exists_literal {literal : NumberLiteral} (atEnd : Reason) (blank : Blank blanks)
    (numeral : Numeral text literal) (stops : Stops rest)
    (ahead : c.rest = blanks ++ text ++ rest) :
    ∃ (first : Read Char c) (read : Read NumberLiteral c.skipBlanks), c.token? = some first ∧
      startsNumber first.value = true ∧ NumberLiteral.read atEnd c.skipBlanks = .ok read ∧
      read.value = literal ∧ read.next.rest = rest := by
  obtain ⟨d, others, rfl, starts⟩ := numeral.starts
  have solid := isBlank_of_startsNumber starts
  have ahead := ahead.trans (List.append_assoc ..)
  obtain ⟨first, found, rfl, -⟩ := Cursor.exists_token? ahead blank solid
  have skipped := Cursor.rest_skipBlanks ahead blank (by simpa using solid)
  obtain ⟨read, taken, same, left⟩ := numeral.reads atEnd stops _ skipped
  exact ⟨first, read, found, starts, taken, same, left⟩

theorem skipAtom_number {literal : NumberLiteral} (blank : Blank blanks)
    (numeral : Numeral text literal) (stops : Stops rest) :
    Reads skipAtom (blanks ++ text) rest () := by
  intro c ahead
  obtain ⟨first, read, found, starts, taken, -, left⟩ :=
    exists_literal .badNumber blank numeral stops ahead
  rw [skipAtom, found]
  simp only [keyword?_of_startsNumber starts, if_pos starts,
    if_neg (ne_of_startsNumber starts (by decide : startsNumber '"' = false))]
  exact ⟨_, bind_eq_ok_iff.2 ⟨read, taken, rfl⟩, trivial, left⟩

theorem skip_atom (blank : Blank blanks) (solid : Cursor.isBlank d = false) (bracket : d ≠ '[')
    (brace : d ≠ '{') (atom : Reads skipAtom (blanks ++ d :: text) rest ()) :
    Reads skip (blanks ++ d :: text) rest () := by
  intro c ahead
  obtain ⟨first, found, rfl, -⟩ := Cursor.exists_token?
    (ahead.trans (List.append_assoc ..)) blank solid
  rw [skip, found]
  simpa only [if_neg bracket, if_neg brace] using atom c ahead

/-! ## Arrays and objects -/

theorem skip_emptyArray (blank : Blank blanks) (blank' : Blank blanks') :
    Reads skip (blanks ++ '[' :: (blanks' ++ [']'])) rest () := by
  intro c ahead
  obtain ⟨first, found, opens, next⟩ := Cursor.exists_token?
    (ahead.trans (List.append_assoc ..)) blank (by decide : Cursor.isBlank '[' = false)
  obtain ⟨last, found', closes, left⟩ := Cursor.exists_token?
    (next.trans (List.append_assoc ..)) blank' (by decide : Cursor.isBlank ']' = false)
  rw [skip, found]
  simp only [if_pos opens, found', if_pos closes]
  exact ⟨_, rfl, trivial, left⟩

theorem skip_array (blank : Blank blanks) (elements : Valid .elements text)
    (skipped : Reads skipElements text rest ()) : Reads skip (blanks ++ '[' :: text) rest () := by
  intro c ahead
  obtain ⟨first, found, opens, next⟩ := Cursor.exists_token?
    (ahead.trans (List.append_assoc ..)) blank (by decide : Cursor.isBlank '[' = false)
  obtain ⟨read, taken, -, left⟩ := skipped first.next next
  obtain ⟨blanks', d, others, rfl, blank', solid, other⟩ := elements.exists_element
  obtain ⟨token, found', rfl, -⟩ := Cursor.exists_token?
    (next.trans (List.append_assoc ..)) blank' solid
  rw [skip, found]
  simp only [if_pos opens, found', if_neg other]
  exact ⟨_, map_eq_ok_iff.2 ⟨read, taken, rfl⟩, trivial, left⟩

theorem skip_emptyObject (blank : Blank blanks) (blank' : Blank blanks') :
    Reads skip (blanks ++ '{' :: (blanks' ++ ['}'])) rest () := by
  intro c ahead
  obtain ⟨first, found, opens, next⟩ := Cursor.exists_token?
    (ahead.trans (List.append_assoc ..)) blank (by decide : Cursor.isBlank '{' = false)
  obtain ⟨last, found', closes, left⟩ := Cursor.exists_token?
    (next.trans (List.append_assoc ..)) blank' (by decide : Cursor.isBlank '}' = false)
  have bracket : first.value ≠ '[' := by
    rw [opens]
    decide
  rw [skip, found]
  simp only [if_neg bracket, if_pos opens, found', if_pos closes]
  exact ⟨_, rfl, trivial, left⟩

theorem skip_object (blank : Blank blanks) (members : Valid .members text)
    (skipped : Reads skipMembers text rest ()) : Reads skip (blanks ++ '{' :: text) rest () := by
  intro c ahead
  obtain ⟨first, found, opens, next⟩ := Cursor.exists_token?
    (ahead.trans (List.append_assoc ..)) blank (by decide : Cursor.isBlank '{' = false)
  obtain ⟨read, taken, -, left⟩ := skipped first.next next
  obtain ⟨blanks', others, rfl, blank'⟩ := members.exists_quote
  obtain ⟨quote, found', same, -⟩ := Cursor.exists_token?
    (next.trans (List.append_assoc ..)) blank' (by decide : Cursor.isBlank '"' = false)
  have bracket : first.value ≠ '[' := by
    rw [opens]
    decide
  have more : quote.value ≠ '}' := by
    rw [same]
    decide
  rw [skip, found]
  simp only [if_neg bracket, if_pos opens, found', if_neg more]
  exact ⟨_, map_eq_ok_iff.2 ⟨read, taken, rfl⟩, trivial, left⟩

/-- What reading past elements does with the first one: the character behind it tells how it goes
on. -/
theorem exists_next_element (value : ∀ rest, Stops rest → Reads skip text rest ())
    (blank : Blank blanks) (separates : d ∈ separators)
    (ahead : c.rest = text ++ (blanks ++ d :: rest)) :
    ∃ (next : Cursor) (shorter : next.length < c.length) (fault : Fault), next.rest = rest ∧
      skipElements c =
        if d = ']' then .ok ⟨(), next, shorter⟩
        else if d = ',' then (skipElements next).map (Read.since · (Nat.le_of_lt shorter))
        else .error fault := by
  obtain ⟨element, taken, -, next⟩ := value _ (stops_of_mem_separators separates blank) c ahead
  obtain ⟨token, found, rfl, left⟩ :=
    Cursor.exists_token? next blank (isBlank_of_mem_separators separates)
  refine ⟨token.next, Nat.lt_trans token.progress element.progress,
    element.next.faultAtToken .noArrayComma, left, ?_⟩
  rw [skipElements, taken, ok_bind]
  simp only [found]
  rfl

/-- What reading past members does with the first one. -/
theorem exists_next_member {key blanks'' : List Char} (blank : Blank blanks) (quoted : Quoted key)
    (blank' : Blank blanks') (value : ∀ rest, Stops rest → Reads skip text rest ())
    (blank'' : Blank blanks'') (separates : d ∈ separators)
    (ahead : c.rest =
      blanks ++ '"' :: (key ++ (blanks' ++ ':' :: (text ++ (blanks'' ++ d :: rest))))) :
    ∃ (next : Cursor) (shorter : next.length < c.length) (fault : Fault), next.rest = rest ∧
      skipMembers c =
        if d = '}' then .ok ⟨(), next, shorter⟩
        else if d = ',' then (skipMembers next).map (Read.since · (Nat.le_of_lt shorter))
        else .error fault := by
  obtain ⟨quote, opened, opens, next⟩ := Cursor.exists_token? ahead blank
    (by decide : Cursor.isBlank '"' = false)
  obtain ⟨key, keyRead, -, next⟩ := quoted.skips _ quote.next next
  obtain ⟨colon, colonRead, -, next⟩ := reads_colon blank' key.next
    (next.trans (by rw [List.append_assoc]; rfl))
  obtain ⟨member, taken, -, next⟩ :=
    value _ (stops_of_mem_separators separates blank'') colon.next next
  obtain ⟨token, found, rfl, left⟩ :=
    Cursor.exists_token? next blank'' (isBlank_of_mem_separators separates)
  have shorter : token.next.length < c.length := by
    have := token.progress
    have := member.progress
    have := colon.progress
    have := key.progress
    have := quote.progress
    omega
  refine ⟨token.next, shorter, member.next.faultAtToken .noObjectComma, left, ?_⟩
  rw [skipMembers, opened]
  simp only [opens, ne_eq, not_true_eq_false, if_false, keyRead, colonRead, ok_bind, taken, found]
  rfl

end Value

/-- What it is to read past a part of a text.  Blanks in front of a value are skipped; elements and
members have their own. -/
def Part.Skips : Part → List Char → Prop
  | .value, text => Takes Value.skip text ()
  | .elements, text => ∀ rest, Reads Value.skipElements text rest ()
  | .members, text => ∀ rest, Reads Value.skipMembers text rest ()

/-- Every value is read past, of any depth. -/
theorem Valid.skips {part : Part} (h : Valid part text) : part.Skips text := by
  induction h with
  | keyword known =>
    intro blanks rest blank stops
    obtain ⟨d, letters, rfl, named⟩ := exists_letters_of_mem_keywords known
    exact Value.skip_atom blank (isBlank_of_keyword? named) (ne_of_keyword? named (by decide))
      (ne_of_keyword? named (by decide)) (Value.skipAtom_keyword blank named)
  | string quoted =>
    intro blanks rest blank stops
    exact Value.skip_atom blank (by decide) (by decide) (by decide)
      (Value.skipAtom_string blank quoted)
  | number numeral =>
    intro blanks rest blank stops
    have atom := Value.skipAtom_number blank numeral stops
    obtain ⟨d, others, rfl, starts⟩ := numeral.starts
    exact Value.skip_atom blank (isBlank_of_startsNumber starts)
      (ne_of_startsNumber starts (by decide)) (ne_of_startsNumber starts (by decide)) atom
  | emptyArray blank' => exact fun blanks rest blank _ ↦ Value.skip_emptyArray blank blank'
  | array elements ih => exact fun blanks rest blank _ ↦ Value.skip_array blank elements (ih rest)
  | emptyObject blank' => exact fun blanks rest blank _ ↦ Value.skip_emptyObject blank blank'
  | object members ih => exact fun blanks rest blank _ ↦ Value.skip_object blank members (ih rest)
  | lastElement blank value blank' ih =>
    intro rest c ahead
    obtain ⟨next, shorter, fault, left, met⟩ := Value.exists_next_element (d := ']')
      (ih _ · blank) blank' (by decide)
      (ahead.trans (by simp only [List.append_assoc, List.cons_append]; rfl))
    rw [met, if_pos rfl]
    exact ⟨_, rfl, rfl, left⟩
  | element blank value blank' others ih ih' =>
    intro rest c ahead
    obtain ⟨next, shorter, fault, left, met⟩ := Value.exists_next_element (d := ',')
      (ih _ · blank) blank' (by decide)
      (ahead.trans (by simp only [List.append_assoc, List.cons_append]; rfl))
    obtain ⟨read, taken, -, left⟩ := ih' rest next left
    rw [met, if_neg (by decide), if_pos rfl]
    exact ⟨_, map_eq_ok_iff.2 ⟨read, taken, rfl⟩, rfl, left⟩
  | lastMember blank key blank' blank'' value trails ih =>
    intro rest c ahead
    obtain ⟨next, shorter, fault, left, met⟩ := Value.exists_next_member (d := '}') blank key blank'
      (ih _ · blank'') trails (by decide)
      (ahead.trans (by simp only [List.append_assoc, List.cons_append]; rfl))
    rw [met, if_pos rfl]
    exact ⟨_, rfl, rfl, left⟩
  | member blank key blank' blank'' value trails others ih ih' =>
    intro rest c ahead
    obtain ⟨next, shorter, fault, left, met⟩ := Value.exists_next_member (d := ',') blank key blank'
      (ih _ · blank'') trails (by decide)
      (ahead.trans (by simp only [List.append_assoc, List.cons_append]; rfl))
    obtain ⟨read, taken, -, left⟩ := ih' rest next left
    rw [met, if_neg (by decide), if_pos rfl]
    exact ⟨_, map_eq_ok_iff.2 ⟨read, taken, rfl⟩, rfl, left⟩

end SoloScript.Json
