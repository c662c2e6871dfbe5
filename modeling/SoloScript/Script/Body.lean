import SoloScript.Text.Substring
import SoloScript.Text.Utf8

/-!
# Bodies between braces

A body is found by an *anchor*: from the first occurrence of the anchor on, the first `{` opens the
body and the `}` that balances it closes it.  Only the two braces count; quotes and comments mean
nothing here.  At most `bound` bytes from the start of the anchor are looked at, so a brace past
them is not seen.
-/

namespace SoloScript.Script

open SoloScript.Text

/-- A text cut at the two ends of a body: `before` ends with the opening brace, `after` starts with
the closing one. -/
structure Body where
  before : List Char
  inner : List Char
  after : List Char
deriving DecidableEq, Repr

/-- Why there is no body. -/
inductive Body.Missing where
  | noAnchor
  /-- The braces do not balance within the bytes that were looked at. -/
  | unbalanced (scanned : Nat)
deriving DecidableEq, Repr

namespace Body

/-- The bound that applies where none is given: 64 MiB. -/
def defaultBound : Nat := 67108864

/-! ## Scanning -/

/-- Looks for the first `{` among the next `room` bytes: the text up to and including it, what
follows, and the room left. -/
def seek : Nat → List Char → Option (List Char × List Char × Nat)
  | 0, _ => none
  | _ + 1, [] => none
  | room + 1, c :: cs =>
    if c = '{' then some ([c], cs, room)
    else (seek (room + 1 - c.utf8Size) cs).map fun (skipped, rest, left) ↦ (c :: skipped, rest, left)
termination_by _ text => text.length

/-- Looks for the `}` that closes a body of which `depth` inner braces are open, among the next
`room` bytes: the text before it, and the rest, which starts with it. -/
def close (depth : Nat) : Nat → List Char → Option (List Char × List Char)
  | 0, _ => none
  | _ + 1, [] => none
  | room + 1, c :: cs =>
    if c = '}' ∧ depth = 0 then some ([], c :: cs)
    else
      let depth := if c = '{' then depth + 1 else if c = '}' then depth - 1 else depth
      (close depth (room + 1 - c.utf8Size) cs).map fun (inner, rest) ↦ (c :: inner, rest)
termination_by _ text => text.length

/-- The body that opens in `text`, which starts with the anchor. -/
def scan (bound : Nat) (text : List Char) : Option Body := do
  let (skipped, rest, room) ← seek bound text
  let (inner, after) ← close 0 room rest
  some ⟨skipped, inner, after⟩

/-! ## Locating and replacing -/

def find (source anchor : String) (bound : Nat) : Except Missing Body :=
  match splitFirst anchor.toList source.toList with
  | none => .error .noAnchor
  | some (before, text) =>
    match scan bound text with
    | none => .error (.unbalanced (min bound (Utf8.size text)))
    | some body => .ok { body with before := before ++ body.before }

/-- The offset just past the opening brace. -/
def start (body : Body) : Nat := Utf8.size body.before

/-- The offset of the closing brace. -/
def stop (body : Body) : Nat := Utf8.size body.before + Utf8.size body.inner

def text (body : Body) : String := String.ofList body.inner

/-- The text with another body in the place of this one. -/
def splice (body : Body) (replacement : String) : String :=
  String.ofList (body.before ++ replacement.toList ++ body.after)

def replace (source anchor replacement : String) (bound : Nat) : Except Missing String :=
  (find source anchor bound).map (splice · replacement)

end Body

end SoloScript.Script
