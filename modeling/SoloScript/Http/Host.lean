import SoloScript.Http.Escape
import SoloScript.Http.Name
import SoloScript.Text.Hex
import SoloScript.Text.Substring
import SoloScript.Text.Utf8

/-!
# Hosts

The host of a location is a name, an address of four numbers, or an address of eight groups in
brackets.  Reading a host also brings it into its canonical form.  What a host means that is none of
the Internet's is not known: it may be any text, and only its groups are read.
-/

namespace SoloScript.Http

namespace Host

inductive Fault where
  | empty
  | badName
  | badNumbers
  | badGroups
  | badCharacter
deriving DecidableEq, Repr

/-! ## Addresses of four numbers -/

def digits? (base : Nat) (text : List Char) : Option Nat :=
  text.foldlM (fun n c ↦ do
    let d ← Text.hexValue? c
    if d < base then some (n * base + d) else none) 0

/-- A number in an address: hexadecimal behind `0x`, octal behind `0`, else decimal. -/
def number? (text : List Char) : Option Nat :=
  match text with
  | [] => none
  | '0' :: 'x' :: rest | '0' :: 'X' :: rest => digits? 16 rest
  | '0' :: rest => digits? 8 rest
  | _ => digits? 10 text

/-- The parts between dots; one dot may stand at the end. -/
def parts (text : List Char) : List (List Char) :=
  let parts := Text.pieces '.' text
  if 1 < parts.length ∧ parts.getLast? = some [] then parts.dropLast else parts

/-- Whether a host is an address rather than a name, by its last part. -/
def endsInNumber (text : List Char) : Bool :=
  match (parts text).getLast? with
  | none => false
  | some last => (last ≠ [] && last.all Char.isDigit) || (number? last).isSome

/-- The value of an address: its last number fills all that the others leave. -/
def address? (text : List Char) : Option Nat := do
  let numbers ← (parts text).mapM number?
  let last ← numbers.getLast?
  let others := numbers.dropLast
  if 4 < numbers.length ∨ others.any (255 < ·) ∨ Nat.pow 256 (5 - numbers.length) ≤ last then none
  else some ((others.zipIdx.map fun (n, i) ↦ n * Nat.pow 256 (3 - i)).foldl (· + ·) last)

def renderAddress (n : Nat) : String :=
  ".".intercalate ([n / Nat.pow 256 3, n / Nat.pow 256 2 % 256, n / 256 % 256, n % 256].map toString)

/-! ## Addresses of eight groups -/

/-- Four decimal numbers as two groups. -/
def tail? (text : List Char) : Option (List Nat) := do
  let numbers ← (Text.pieces '.' text).mapM fun part ↦
    if part = [] ∨ (part.head? = some '0' ∧ part ≠ ['0']) ∨ 3 < part.length then none
    else do
      let n ← digits? 10 part
      if n < 256 then some n else none
  match numbers with
  | [a, b, c, d] => some [a * 256 + b, c * 256 + d]
  | _ => none

/-- Groups between colons; the last may be four numbers. -/
def groups? (text : List Char) : Option (List Nat) :=
  if text = [] then some []
  else do
    let pieces := Text.pieces ':' text
    let last ← pieces.getLast?
    let group? (piece : List Char) : Option (List Nat) :=
      if piece = [] ∨ 4 < piece.length then none else (digits? 16 piece).map ([·])
    let front ← pieces.dropLast.mapM group?
    let back ← if '.' ∈ last then tail? last else group? last
    some (front.flatten ++ back)

/-- The eight groups; two colons stand for one zero group or more. -/
def eightGroups? (text : List Char) : Option (List Nat) := do
  match Text.splitFirst [':', ':'] text with
  | none =>
    let groups ← groups? text
    if groups.length = 8 then some groups else none
  | some (front, rest) =>
    if '.' ∈ front then none
    else
      let front ← groups? front
      let back ← groups? (rest.drop 2)
      let zeros := 8 - (front.length + back.length)
      if zeros = 0 then none else some (front ++ List.replicate zeros 0 ++ back)

/-- The length of the zeros at the front. -/
def zeros (groups : List Nat) : Nat := (groups.takeWhile (· = 0)).length

/-- The first longest run of two zero groups or more is left out. -/
def renderGroups (groups : List Nat) : String :=
  let text (groups : List Nat) : String :=
    ":".intercalate (groups.map fun n ↦ String.ofList (Text.hexDigits n))
  let runs := (List.range 8).map fun i ↦ zeros (groups.drop i)
  let longest := runs.foldl max 0
  match runs.findIdx? (· = longest) with
  | some i =>
    if longest < 2 then text groups
    else text (groups.take i) ++ "::" ++ text (groups.drop (i + longest))
  | none => text groups

/-- The canonical form of what follows an opening bracket. -/
def bracketed? (text : List Char) : Except Fault String :=
  match text.getLast?, eightGroups? text.dropLast with
  | some ']', some groups => .ok ("[" ++ renderGroups groups ++ "]")
  | _, _ => .error .badGroups

/-! ## Hosts -/

/-- The canonical form of a host of the Internet. -/
def ofText? (text : List Char) : Except Fault String :=
  match text with
  | [] => .error .empty
  | '[' :: rest => bracketed? rest
  | _ =>
    match (unescape? text).bind Name.canonical? with
    | none => .error .badName
    | some [] => .error .empty
    | some name =>
      if endsInNumber name then
        match address? name with
        | some n => .ok (renderAddress n)
        | none => .error .badNumbers
      else .ok (String.ofList name)

/-- Characters that no host may hold. -/
def isForbidden (c : Char) : Bool := "\x00\t\n\x0d #/:<>?@[\\]^|".toList.contains c

/-- The canonical form of a host of unknown meaning, which may be empty. -/
def ofOpaqueText? (text : List Char) : Except Fault String :=
  match text with
  | '[' :: rest => bracketed? rest
  | _ => if text.any isForbidden then .error .badCharacter
    else .ok (String.ofList (escape .controls text))

end Host

end SoloScript.Http
