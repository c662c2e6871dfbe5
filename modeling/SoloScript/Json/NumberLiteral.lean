import SoloScript.Json.Fault

/-!
# Number literals of JSON

A literal is read in two steps: its parts first, then its value.  Integers that fit a 64-bit word
are exact; every other literal is a binary64 number, made from the leading digits that fit an
unsigned word and one power of ten.
-/

namespace SoloScript.Json

/-- The parts of a number literal; an absent fraction has no digits. -/
structure NumberLiteral where
  negative : Bool
  whole : List Char
  fraction : List Char
  exponent : Option (Bool × List Char)
deriving DecidableEq, Repr

inductive Number where
  | integer (value : Int)
  | real (value : Float)
deriving Repr

def Number.found : Number → Found
  | .integer value => .integer value
  | .real value => .real value

namespace NumberLiteral

/-! ## Parts -/

/-- Reads as many digits as there are. -/
def digits (rest : List Char) (here : Position) : List Char × Cursor :=
  match rest with
  | [] => ([], ⟨[], here⟩)
  | d :: rest =>
    if d.isDigit then
      let more := digits rest (here.past d)
      (d :: more.1, more.2)
    else ([], ⟨d :: rest, here⟩)

theorem length_digits_le (rest : List Char) (here : Position) :
    (digits rest here).2.length ≤ rest.length := by
  induction rest generalizing here with
  | nil => simp [digits, Cursor.length]
  | cons d rest ih =>
    simp only [digits]
    split
    · exact Nat.le_succ_of_le (ih _)
    · simp [Cursor.length]

theorem length_digits_lt {c : Cursor} {d : Char} {rest : List Char} (h : c.rest = d :: rest) :
    (digits rest (c.here.past d)).2.length < c.length := by
  have := length_digits_le rest (c.here.past d)
  simp only [Cursor.length, h, List.length_cons] at this ⊢
  omega

/-- Reads one digit or more; `atEnd` is the reason given where the text ends instead. -/
def someDigits (atEnd : Reason) (c : Cursor) : Except Fault (Read (List Char) c) :=
  match h : c.rest with
  | [] => .error (c.fault atEnd)
  | d :: rest =>
    if d.isDigit then
      let more := digits rest (c.here.past d)
      .ok ⟨d :: more.1, more.2, length_digits_lt h⟩
    else .error (c.faultAhead .badNumber)

/-- Reads the digits before the point: a zero stands alone. -/
def readWhole (atEnd : Reason) (c : Cursor) : Except Fault (Read (List Char) c) :=
  match h : c.rest with
  | '0' :: rest =>
    let next := c.past '0' rest
    if (rest.head?.map Char.isDigit).getD false then .error (next.faultAhead .badNumber)
    else .ok ⟨['0'], next, by simp [next, Cursor.length, h]⟩
  | _ => someDigits atEnd c

/-- Reads a point and the digits behind it, if a point comes next. -/
def readFraction (atEnd : Reason) (c : Cursor) :
    Except Fault (List Char × { d : Cursor // d.length ≤ c.length }) :=
  match h : c.rest with
  | '.' :: rest => do
    let digits ← someDigits atEnd (c.past '.' rest)
    return (digits.value, ⟨digits.next, by
      have := digits.progress
      simp [Cursor.length, h] at this ⊢
      omega⟩)
  | _ => .ok ([], ⟨c, Nat.le_refl _⟩)

/-- The sign of an exponent; `true` stands for a minus. -/
def readSign (c : Cursor) : Bool × { d : Cursor // d.length ≤ c.length } :=
  match h : c.rest with
  | '+' :: rest => (false, ⟨c.past '+' rest, by simp [Cursor.length, h]⟩)
  | '-' :: rest => (true, ⟨c.past '-' rest, by simp [Cursor.length, h]⟩)
  | _ => (false, ⟨c, Nat.le_refl _⟩)

/-- Reads an exponent, if one comes next. -/
def readExponent (atEnd : Reason) (c : Cursor) :
    Except Fault (Option (Bool × List Char) × { d : Cursor // d.length ≤ c.length }) :=
  match h : c.rest with
  | d :: rest =>
    if d = 'e' ∨ d = 'E' then do
      let (negative, next) := readSign (c.past d rest)
      let digits ← someDigits atEnd next
      return (some (negative, digits.value), ⟨digits.next, by
        have := digits.progress
        have := next.2
        simp [Cursor.length, h] at this ⊢
        simp [Cursor.length] at *
        omega⟩)
    else .ok (none, ⟨c, Nat.le_refl _⟩)
  | [] => .ok (none, ⟨c, Nat.le_refl _⟩)

/-- Reads a literal without its sign. -/
def readUnsigned (negative : Bool) (atEnd : Reason) (c : Cursor) :
    Except Fault (Read NumberLiteral c) := do
  let whole ← readWhole atEnd c
  let (fraction, next) ← readFraction atEnd whole.next
  let (exponent, last) ← readExponent atEnd next
  return ⟨⟨negative, whole.value, fraction, exponent⟩, last, by
    have := whole.progress
    have := next.2
    have := last.2
    omega⟩

/-- Reads a literal; `atEnd` is the reason given where the text ends before a digit that must
come. -/
def read (atEnd : Reason) (c : Cursor) : Except Fault (Read NumberLiteral c) :=
  match h : c.rest with
  | '-' :: rest =>
    (readUnsigned true atEnd (c.past '-' rest)).map (Read.since · (by simp [Cursor.length, h]))
  | _ => readUnsigned false atEnd c

/-! ## Value -/

def digitValue (d : Char) : Nat := d.toNat - 48

/-- Adds digits to a significand as long as it fits a word: the significand and the number of digits
left over. -/
def absorb (significand : Nat) : List Char → Nat × Nat
  | [] => (significand, 0)
  | d :: ds =>
    let larger := significand * 10 + digitValue d
    if larger < 2 ^ 64 then absorb larger ds else (significand, ds.length + 1)

/-- The value of an exponent below `2 ^ 31`, or else the number of digits that follow the one at
which it is too large. -/
def magnitude (value : Nat) : List Char → Except Nat Nat
  | [] => .ok value
  | d :: ds =>
    let larger := value * 10 + digitValue d
    if larger < 2 ^ 31 then magnitude larger ds else .error ds.length

/-- Ten to a power up to 308. -/
def powerOfTen (n : Nat) : Float := Float.ofScientific 1 false n

/-- Divides by a power of ten. -/
def scaleDown (x : Float) (n : Nat) : Float :=
  if n ≤ 308 then x / powerOfTen n
  else if x == 0 then x
  else scaleDown (x / powerOfTen 308) (n - 308)
termination_by n
decreasing_by omega

/-- The significand times a power of ten, unless it is too large. -/
def scale? (significand : Nat) (exponent : Int) : Option Float :=
  let x := (UInt64.ofNat significand).toFloat
  if exponent < 0 then some (scaleDown x exponent.natAbs)
  else if exponent ≤ 308 then
    let y := x * powerOfTen exponent.natAbs
    if y.isInf then none else some y
  else if x == 0 then some x else none

/-- The size of a literal, or the number of bytes read after it was found to be too large. -/
def size (literal : NumberLiteral) : Except Nat Float :=
  let (significand, excess) := absorb 0 literal.whole
  let (significand, left) := absorb significand literal.fraction
  let unit : Int := excess - (literal.fraction.length - left : Nat)
  let (down, digits) := literal.exponent.getD (false, [])
  match magnitude 0 digits with
  | .error after => if significand = 0 ∨ down then .ok 0 else .error after
  | .ok n =>
    match scale? significand (if down then unit - n else unit + n) with
    | some x => .ok x
    | none => .error 0

/-- The whole number that a literal without fraction and exponent stands for, if it fits a word;
there is no negative zero among them. -/
def integer? (literal : NumberLiteral) : Option Int :=
  let n := literal.whole.foldl (fun n d ↦ n * 10 + digitValue d) 0
  if literal.fraction ≠ [] ∨ literal.exponent.isSome then none
  else if literal.negative then if 0 < n ∧ n ≤ Nat.pow 2 63 then some (-n) else none
  else if n < Nat.pow 2 64 then some n
  else none

/-- The value of a literal, read up to `here`. -/
def value (literal : NumberLiteral) (here : Position) : Except Fault Number :=
  match literal.integer? with
  | some n => .ok (.integer n)
  | none =>
    match literal.size with
    | .ok x => .ok (.real (if literal.negative then -x else x))
    | .error after => .error ⟨.hugeNumber, here.line, here.column - after⟩

end NumberLiteral

end SoloScript.Json
