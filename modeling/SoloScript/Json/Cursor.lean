/-!
# Places in a JSON text

A `Cursor` is what is left of a text together with the position reached.  Positions count lines
from one and, within a line, the bytes read so far, so the column of the first character is zero
until it has been read.
-/

namespace SoloScript.Json

/-! ## Positions -/

structure Position where
  line : Nat
  column : Nat
deriving DecidableEq, Repr

namespace Position

def origin : Position := ⟨1, 0⟩

/-- The position behind one more character. -/
def past (here : Position) (c : Char) : Position :=
  if c = '\n' then ⟨here.line + 1, 0⟩ else ⟨here.line, here.column + c.utf8Size⟩

/-- The position `n` bytes on, or at the end of the text if it comes first. -/
def ahead (here : Position) : Nat → List Char → Position
  | 0, _ | _, [] => here
  | n, c :: rest =>
    if c.utf8Size ≤ n then (here.past c).ahead (n - c.utf8Size) rest
    else ⟨here.line, here.column + n⟩

end Position

/-! ## Cursors -/

structure Cursor where
  rest : List Char
  here : Position
deriving DecidableEq, Repr

namespace Cursor

def ofText (text : String) : Cursor := ⟨text.toList, .origin⟩

def length (c : Cursor) : Nat := c.rest.length

/-- The position `n` bytes on. -/
def ahead (c : Cursor) (n : Nat) : Position := c.here.ahead n c.rest

/-- The cursor behind `d`, with `rest` left. -/
def past (c : Cursor) (d : Char) (rest : List Char) : Cursor := ⟨rest, c.here.past d⟩

@[simp] theorem rest_past (c : Cursor) (d : Char) (rest : List Char) : (c.past d rest).rest = rest :=
  rfl

def isBlank (d : Char) : Bool := d = ' ' || d = '\n' || d = '\t' || d = '\r'

/-- Skips spaces, tabs and line ends. -/
def skipBlanks (c : Cursor) : Cursor := go c.rest c.here
where
  go : List Char → Position → Cursor
    | [], here => ⟨[], here⟩
    | d :: rest, here => if isBlank d then go rest (here.past d) else ⟨d :: rest, here⟩

theorem length_skipBlanks_le (c : Cursor) : c.skipBlanks.length ≤ c.length := by
  obtain ⟨rest, here⟩ := c
  simp only [skipBlanks, length]
  induction rest generalizing here with
  | nil => simp [skipBlanks.go]
  | cons d rest ih =>
    simp only [skipBlanks.go]
    split
    · exact Nat.le_succ_of_le (ih _)
    · simp

end Cursor

/-- A value read from the front of `c`, and the cursor behind it. -/
structure Read (α : Type) (c : Cursor) where
  value : α
  next : Cursor
  progress : next.length < c.length

namespace Read

variable {α β : Type} {c d : Cursor}

def map (f : α → β) (read : Read α c) : Read β c := ⟨f read.value, read.next, read.progress⟩

theorem le (read : Read α c) : read.next.length ≤ c.length := Nat.le_of_lt read.progress

/-- What is read further on counts as read from here. -/
def since (read : Read α d) (le : d.length ≤ c.length) : Read α c :=
  ⟨read.value, read.next, Nat.lt_of_lt_of_le read.progress le⟩

end Read

namespace Cursor

/-- The first character that is not blank. -/
def token? (c : Cursor) : Option (Read Char c) :=
  match h : c.skipBlanks.rest with
  | [] => none
  | d :: rest => some ⟨d, c.skipBlanks.past d rest, by
      have := c.length_skipBlanks_le
      simp only [length, h, List.length_cons, rest_past] at this ⊢
      omega⟩

end Cursor

end SoloScript.Json
