import SoloScript.Json.Fault
import SoloScript.Proofs.Outcome

/-!
# What readers take off a text

What a reader comes to, and what it leaves, is told by the characters in front of it: its position
only matters where it finds a fault.  Spaces, tabs and line ends in front of a token make no
difference.
-/

namespace SoloScript.Json

variable {α β : Type} {text rest blanks : List Char} {c : Cursor} {d : Char}

/-- A reader takes `text` off the front, wherever it stands and as `rest` follows, and comes to
`value`. -/
def Reads (reader : (c : Cursor) → Except Fault (Read α c)) (text rest : List Char) (value : α) :
    Prop :=
  ∀ c : Cursor, c.rest = text ++ rest →
    ∃ read, reader c = .ok read ∧ read.value = value ∧ read.next.rest = rest

/-- What is read can be changed afterwards. -/
theorem Reads.map {reader : (c : Cursor) → Except Fault (Read α c)} {value : α}
    (h : Reads reader text rest value) (f : α → β) :
    Reads (fun c ↦ (reader c).map (Read.map f)) text rest (f value) := by
  intro c ahead
  obtain ⟨read, found, same, next⟩ := h c ahead
  exact ⟨read.map f, Outcome.map_eq_ok_iff.2 ⟨read, found, rfl⟩, congrArg f same, next⟩

/-- A text is read in one way. -/
theorem Reads.unique {reader : (c : Cursor) → Except Fault (Read α c)} {value value' : α}
    (h : Reads reader text rest value) (h' : Reads reader text rest value') : value = value' := by
  obtain ⟨read, found, rfl, -⟩ := h ⟨text ++ rest, .origin⟩ rfl
  obtain ⟨read', found', rfl, -⟩ := h' ⟨text ++ rest, .origin⟩ rfl
  rw [Except.ok.inj (found.symm.trans found')]

/-- A reader finds a fault where `text` and then `rest` are ahead, wherever it stands. -/
def Refuses (reader : (c : Cursor) → Except Fault (Read α c)) (text rest : List Char) : Prop :=
  ∀ c : Cursor, c.rest = text ++ rest → ∃ fault, reader c = .error fault

theorem Refuses.map {reader : (c : Cursor) → Except Fault (Read α c)} (h : Refuses reader text rest)
    (f : α → β) : Refuses (fun c ↦ (reader c).map (Read.map f)) text rest := by
  intro c ahead
  obtain ⟨fault, found⟩ := h c ahead
  exact ⟨fault, Outcome.map_eq_error_iff.2 found⟩

/-! ## Tokens -/

/-- Nothing but what is skipped. -/
def Blank (blanks : List Char) : Prop := ∀ b ∈ blanks, Cursor.isBlank b = true

instance (blanks : List Char) : Decidable (Blank blanks) := List.decidableBAll _ blanks

theorem blank_nil : Blank [] := by simp [Blank]

theorem blank_space : Blank [' '] := by simp [Blank, Cursor.isBlank]

namespace Cursor

theorem eq_of_isBlank (h : isBlank d = true) : d = ' ' ∨ d = '\n' ∨ d = '\t' ∨ d = '\r' := by
  simpa [isBlank, or_assoc] using h

theorem rest_skipBlanks (ahead : c.rest = blanks ++ rest) (blank : Blank blanks)
    (solid : ∀ d ∈ rest.head?, isBlank d = false) : c.skipBlanks.rest = rest := by
  obtain ⟨_, here⟩ := c
  obtain rfl := ahead
  rw [skipBlanks]
  induction blanks generalizing here with
  | nil =>
    cases rest with
    | nil => rfl
    | cons d rest =>
      have stops : isBlank d = false := solid d rfl
      rw [List.nil_append, skipBlanks.go, stops]
      rfl
  | cons b blanks ih =>
    obtain ⟨first, others⟩ := List.forall_mem_cons.1 blank
    rw [List.cons_append, skipBlanks.go, if_pos first]
    exact ih others _

/-- The next token is the first character that is not blank. -/
theorem exists_token? (ahead : c.rest = blanks ++ d :: rest) (blank : Blank blanks)
    (solid : isBlank d = false) :
    ∃ token, c.token? = some token ∧ token.value = d ∧ token.next.rest = rest := by
  have skipped : c.skipBlanks.rest = d :: rest := rest_skipBlanks ahead blank (by simp [solid])
  rw [token?]
  split
  · rename_i ended
    rw [ended] at skipped
    cases skipped
  · rename_i first tail found
    rw [skipped] at found
    obtain ⟨rfl, rfl⟩ := List.cons.inj found
    exact ⟨_, rfl, rfl, rfl⟩

/-- There is no token at the end of a text. -/
theorem token?_eq_none (blank : Blank c.rest) : c.token? = none := by
  have skipped : c.skipBlanks.rest = [] :=
    rest_skipBlanks (List.append_nil _).symm blank (by simp)
  rw [token?]
  split
  · rfl
  · rename_i found
    rw [skipped] at found
    cases found

end Cursor

end SoloScript.Json
