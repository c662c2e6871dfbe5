import SoloScript.Json.NumberLiteral
import SoloScript.Json.StringLiteral

/-!
# JSON values

Values that are not wanted are read past: `skip` accepts every value, of any depth, and tells where
a text stops being one.
-/

namespace SoloScript.Json.Value

/-- Reads the rest of `null`, `true` or `false`. -/
def keyword (letters : List Char) (c : Cursor) : Except Fault { d : Cursor // d.length ≤ c.length } :=
  match letters with
  | [] => .ok ⟨c, Nat.le_refl _⟩
  | e :: letters =>
    match h : c.rest with
    | [] => .error (c.fault .endInValue)
    | d :: rest =>
      if d = e then do
        let last ← keyword letters (c.past d rest)
        return ⟨last.1, by
          have := last.2
          simp only [Cursor.length, h, Cursor.rest_past, List.length_cons] at this ⊢
          omega⟩
      else .error (c.faultAhead .noIdentifier)

/-- The letters that follow the first one of a keyword. -/
def keyword? (first : Char) : Option (List Char) :=
  if first = 'n' then some ['u', 'l', 'l']
  else if first = 't' then some ['r', 'u', 'e']
  else if first = 'f' then some ['a', 'l', 's', 'e']
  else none

def startsNumber (first : Char) : Bool := first = '-' || first.isDigit

/-- Reads past the colon behind a key. -/
def colon (c : Cursor) : Except Fault (Read Unit c) :=
  match c.token? with
  | none => .error (c.faultAtToken .endInObject)
  | some token =>
    if token.value = ':' then .ok (token.map fun _ ↦ ())
    else .error (c.faultAtToken .noColon)

/-- Reads past a value that is neither an array nor an object. -/
def skipAtom (c : Cursor) : Except Fault (Read Unit c) :=
  match c.token? with
  | none => .error (c.faultAtToken .endInValue)
  | some first =>
    match keyword? first.value with
    | some letters => do
      let last ← keyword letters first.next
      return ⟨(), last.1, Nat.lt_of_le_of_lt last.2 first.progress⟩
    | none =>
      if first.value = '"' then
        (StringLiteral.skip first.next).map (Read.since · first.le)
      else if startsNumber first.value then do
        let literal ← NumberLiteral.read .badNumber c.skipBlanks
        return (literal.map fun _ ↦ ()).since c.length_skipBlanks_le
      else .error (c.faultAtToken .noValue)

mutual

/-- Reads past a value. -/
def skip (c : Cursor) : Except Fault (Read Unit c) :=
  match c.token? with
  | none => .error (c.faultAtToken .endInValue)
  | some first =>
    have := first.progress
    if first.value = '[' then
      match first.next.token? with
      | none => .error (first.next.faultAtToken .endInArray)
      | some token =>
        if token.value = ']' then
          .ok ⟨(), token.next, Nat.lt_trans token.progress first.progress⟩
        else (skipElements first.next).map (Read.since · first.le)
    else if first.value = '{' then
      match first.next.token? with
      | none => .error (first.next.faultAtToken .endInObject)
      | some token =>
        if token.value = '}' then
          .ok ⟨(), token.next, Nat.lt_trans token.progress first.progress⟩
        else (skipMembers first.next).map (Read.since · first.le)
    else skipAtom c
termination_by (c.length, 0)

/-- Reads past one element or more, and the bracket behind them. -/
def skipElements (c : Cursor) : Except Fault (Read Unit c) := do
  let element ← skip c
  have := element.progress
  match element.next.token? with
  | none => throw (element.next.faultAtToken .endInArray)
  | some token =>
    have : token.next.length < c.length := Nat.lt_trans token.progress element.progress
    if token.value = ']' then return ⟨(), token.next, this⟩
    else if token.value = ',' then
      let others ← skipElements token.next
      return others.since (Nat.le_of_lt this)
    else throw (element.next.faultAtToken .noArrayComma)
termination_by (c.length, 1)

/-- Reads past one member or more, and the brace behind them. -/
def skipMembers (c : Cursor) : Except Fault (Read Unit c) :=
  match c.token? with
  | none => .error (c.faultAtToken .endInObject)
  | some quote => do
    if quote.value ≠ '"' then throw (c.faultAtToken .keyNotString)
    let key ← StringLiteral.skip quote.next
    let colon ← colon key.next
    have : colon.next.length < c.length :=
      Nat.lt_trans colon.progress (Nat.lt_trans key.progress quote.progress)
    let value ← skip colon.next
    have : value.next.length < c.length := Nat.lt_trans value.progress this
    match value.next.token? with
    | none => throw (value.next.faultAtToken .endInObject)
    | some token =>
      have : token.next.length < c.length := Nat.lt_trans token.progress this
      if token.value = '}' then return ⟨(), token.next, this⟩
      else if token.value = ',' then
        let others ← skipMembers token.next
        return others.since (Nat.le_of_lt this)
      else throw (value.next.faultAtToken .noObjectComma)
termination_by (c.length, 0)

end

/-! ## Values of a known type -/

/-- The fault of a value that is not `expected`. -/
def mismatch (expected : String) (c : Cursor) : Fault :=
  match c.token? with
  | none => c.faultAtToken .endInValue
  | some first =>
    let found (what : Found) (next : Cursor) := next.fault (.invalidType what expected)
    match keyword? first.value with
    | some letters =>
      match keyword letters first.next with
      | .ok last =>
        found (if first.value = 'n' then .null else .boolean (first.value = 't')) last.1
      | .error fault => fault
    | none =>
      if first.value = '"' then
        match StringLiteral.read first.next with
        | .ok text => found (.text (String.ofList text.value)) text.next
        | .error fault => fault
      else if startsNumber first.value then
        match NumberLiteral.read .endInValue c.skipBlanks with
        | .ok literal =>
          match literal.value.value literal.next.here with
          | .ok number => found number.found literal.next
          | .error fault => fault
        | .error fault => fault
      else if first.value = '[' then found .array c.skipBlanks
      else if first.value = '{' then found .object c.skipBlanks
      else c.faultAtToken .noValue

/-- Reads a text. -/
def text (expected : String) (c : Cursor) : Except Fault (Read String c) :=
  match c.token? with
  | none => .error (c.faultAtToken .endInValue)
  | some first =>
    if first.value = '"' then do
      let text ← StringLiteral.read first.next
      return (text.map String.ofList).since first.le
    else .error (mismatch expected c)

/-- Reads a whole number from zero to below `2 ^ 64`. -/
def natural (expected : String) (c : Cursor) : Except Fault (Read Nat c) :=
  match c.token? with
  | none => .error (c.faultAtToken .endInValue)
  | some first =>
    if startsNumber first.value then do
      let literal ← NumberLiteral.read .endInValue c.skipBlanks
      match ← literal.value.value literal.next.here with
      | .integer (.ofNat n) => return (literal.map fun _ ↦ n).since c.length_skipBlanks_le
      | .integer n => throw (literal.next.fault (.invalidValue (.integer n) expected))
      | .real x => throw (literal.next.fault (.invalidType (.real x) expected))
    else .error (mismatch expected c)

end SoloScript.Json.Value
