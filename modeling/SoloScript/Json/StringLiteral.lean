import SoloScript.Json.Fault
import SoloScript.Text.Hex
import SoloScript.Text.Utf8

/-!
# String literals of JSON

A text is written with the short escapes where there are some, `\u00xx` for the other controls, and
every other character as it is.  Reading also accepts the escapes that writing does not use; a
character beyond `U+FFFF` may come as the escapes of its two surrogates.
-/

namespace SoloScript.Json.StringLiteral

open SoloScript.Text

/-! ## Writing -/

/-- The letter of the short escape of a character. -/
def shortEscape? (c : Char) : Option Char :=
  if c = '"' then some '"'
  else if c = '\\' then some '\\'
  else if c = '\x08' then some 'b'
  else if c = '\x0c' then some 'f'
  else if c = '\n' then some 'n'
  else if c = '\r' then some 'r'
  else if c = '\t' then some 't'
  else none

def writeChar (c : Char) : List Char :=
  match shortEscape? c with
  | some letter => ['\\', letter]
  | none =>
    if c.toNat < 0x20 then
      ['\\', 'u', '0', '0', Nat.digitChar (c.toNat / 16), Nat.digitChar (c.toNat % 16)]
    else [c]

def write (text : List Char) : List Char := '"' :: text.flatMap writeChar ++ ['"']

def encode (text : String) : String := String.ofList (write text.toList)

/-! ## Escapes -/

/-- The character that a short escape stands for. -/
def ofLetter? (letter : Char) : Option Char :=
  if letter = '"' ∨ letter = '\\' ∨ letter = '/' then some letter
  else if letter = 'b' then some '\x08'
  else if letter = 'f' then some '\x0c'
  else if letter = 'n' then some '\n'
  else if letter = 'r' then some '\r'
  else if letter = 't' then some '\t'
  else none

/-- The number that four hexadecimal digits stand for. -/
def hexUnit? (p q r s : Char) : Option Nat := do
  let x ← hexValue? p
  let y ← hexValue? q
  let z ← hexValue? r
  let w ← hexValue? s
  some (((x * 16 + y) * 16 + z) * 16 + w)

/-- Reads the four digits of a numbered escape.  Four bytes are taken before any of them is looked
at. -/
def unit (c : Cursor) : Except Fault (Read Nat c) :=
  let fault : Fault :=
    ⟨if Utf8.size c.rest < 4 then .endInString else .badEscape, c.ahead 4⟩
  match h : c.rest with
  | p :: q :: r :: s :: rest =>
    match hexUnit? p q r s with
    | some n => .ok ⟨n, ⟨rest, ⟨c.here.line, c.here.column + 4⟩⟩, by simp [Cursor.length, h]; omega⟩
    | none => .error fault
  | _ => .error fault

/-- Reads what must come next in the escape of a second surrogate. -/
def expect (d : Char) (c : Cursor) : Except Fault (Read Unit c) :=
  match h : c.rest with
  | [] => .error (c.fault .endInString)
  | e :: rest =>
    if e = d then .ok ⟨(), c.past e rest, by simp [Cursor.length, h]⟩
    else .error (c.faultAhead .halfSurrogatePair)

/-- Reads a numbered escape behind its `\u`. -/
def numbered (c : Cursor) : Except Fault (Read Char c) := do
  let first ← unit c
  if 0xDC00 ≤ first.value ∧ first.value ≤ 0xDFFF then throw (first.next.fault .loneSurrogate)
  else if first.value < 0xD800 ∨ 0xDBFF < first.value then return first.map Char.ofNat
  else
    let slash ← expect '\\' first.next
    let letter ← expect 'u' slash.next
    let second ← unit letter.next
    if second.value < 0xDC00 ∨ 0xDFFF < second.value then
      throw (second.next.fault .loneSurrogate)
    else
      let n := 0x10000 + (first.value - 0xD800) * 0x400 + (second.value - 0xDC00)
      return ⟨Char.ofNat n, second.next, by
        have := first.progress
        have := slash.progress
        have := letter.progress
        have := second.progress
        omega⟩

/-- Reads an escape behind its backslash; `number` reads the numbered ones. -/
def escape {α : Type} (short : Char → α) (number : (c : Cursor) → Except Fault (Read α c))
    (c : Cursor) : Except Fault (Read α c) :=
  match h : c.rest with
  | [] => .error (c.fault .endInString)
  | d :: rest =>
    have here : (c.past d rest).length < c.length := by simp [Cursor.length, h]
    if d = 'u' then (number (c.past d rest)).map (Read.since · (Nat.le_of_lt here))
    else match ofLetter? d with
      | some e => .ok ⟨short e, c.past d rest, here⟩
      | none => .error (c.faultAhead .badEscape)

/-! ## Literals -/

/-- Reads a string literal behind its opening quote. -/
def read (c : Cursor) : Except Fault (Read (List Char) c) :=
  match h : c.rest with
  | [] => .error (c.fault .endInString)
  | d :: rest =>
    have here : (c.past d rest).length < c.length := by simp [Cursor.length, h]
    if d = '"' then .ok ⟨[], c.past d rest, here⟩
    else if d = '\\' then do
      let first ← escape id numbered (c.past d rest)
      have : first.next.length < c.length := Nat.lt_trans first.progress here
      let others ← read first.next
      return ⟨first.value :: others.value, others.next, Nat.lt_trans others.progress this⟩
    else if d.toNat < 0x20 then .error (c.faultAhead .controlCharacter)
    else do
      let others ← read (c.past d rest)
      return ⟨d :: others.value, others.next, Nat.lt_trans others.progress here⟩
termination_by c.length

/-- Reads past a string literal, behind its opening quote.  Surrogates need not be paired. -/
def skip (c : Cursor) : Except Fault (Read Unit c) :=
  match h : c.rest with
  | [] => .error (c.fault .endInString)
  | d :: rest =>
    have here : (c.past d rest).length < c.length := by simp [Cursor.length, h]
    if d = '"' then .ok ⟨(), c.past d rest, here⟩
    else if d = '\\' then do
      let first ← escape (fun _ ↦ ()) (fun c ↦ (unit c).map (Read.map fun _ ↦ ())) (c.past d rest)
      have : first.next.length < c.length := Nat.lt_trans first.progress here
      let others ← skip first.next
      return ⟨(), others.next, Nat.lt_trans others.progress this⟩
    else if d.toNat < 0x20 then .error (c.fault .controlCharacter)
    else do
      let others ← skip (c.past d rest)
      return ⟨(), others.next, Nat.lt_trans others.progress here⟩
termination_by c.length

end SoloScript.Json.StringLiteral
