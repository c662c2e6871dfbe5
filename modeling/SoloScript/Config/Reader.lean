import SoloScript.Config.Field

/-!
# Reading a configuration

A configuration is a JSON object of overrides: what it does not mention keeps its default, keys
that name no field are read past, and no field comes twice.  An array gives the fields in their
order and may leave out the last ones.
-/

namespace SoloScript.Config

open Json

/-! ## Objects -/

/-- The fault of a key that has come before: it is seen where the next token, if it closes the
object, ends. -/
def duplicate (key : String) (c : Cursor) : Fault :=
  match c.token? with
  | some token =>
    if token.value = '\x7d' then token.next.fault (.duplicateField key)
    else c.skipBlanks.fault (.duplicateField key)
  | none => c.skipBlanks.fault (.duplicateField key)

/-- Reads the key of a member. -/
def readKey (c : Cursor) : Except Fault (Read String c) :=
  match c.token? with
  | none => .error (c.faultAtToken .endInValue)
  | some quote =>
    if quote.value = '"' then do
      let key ← StringLiteral.read quote.next
      return (key.map String.ofList).since quote.le
    else if quote.value = '\x7d' then .error (c.faultAtToken .trailingComma)
    else .error (c.faultAtToken .keyNotString)

/-- Reads one member or more, and the brace behind them; `seen` are the fields that have come. -/
def readMembers (seen : List Field) (config : Config) (c : Cursor) :
    Except Fault (Read Config c) := do
  let key ← readKey c
  let field := Field.ofKey? key.value
  if field.any seen.contains then throw (duplicate key.value key.next)
  let colon ← Value.colon key.next
  let value ← match field with
    | some field => field.read config colon.next
    | none => (Value.skip colon.next).map (Read.map fun _ ↦ config)
  have : value.next.length < c.length :=
    Nat.lt_trans value.progress (Nat.lt_trans colon.progress key.progress)
  match value.next.token? with
  | none => throw (value.next.faultAtToken .endInObject)
  | some token =>
    have : token.next.length < c.length := Nat.lt_trans token.progress this
    if token.value = '\x7d' then return ⟨value.value, token.next, this⟩
    else if token.value = ',' then
      let others ← readMembers (field.toList ++ seen) value.value token.next
      return others.since (Nat.le_of_lt this)
    else throw (value.next.faultAtToken .noObjectComma)
termination_by c.length

/-- Reads an object behind its opening brace. -/
def readObject (c : Cursor) : Except Fault (Read Config c) :=
  match c.token? with
  | none => .error (c.faultAtToken .endInObject)
  | some token =>
    if token.value = '\x7d' then .ok (token.map fun _ ↦ default)
    else readMembers [] default c

/-! ## Arrays -/

/-- The fault of an array with more elements than there are fields. -/
def surplus (c : Cursor) : Fault :=
  match c.token? with
  | none => c.faultAtToken .endInArray
  | some token =>
    if token.value = ',' then
      match token.next.token? with
      | some next =>
        token.next.faultAtToken (if next.value = ']' then .trailingComma else .trailingText)
      | none => token.next.faultAtToken .trailingText
    else c.faultAtToken .trailingText

/-- Reads elements for the given fields, and the bracket behind them. -/
def readElements (config : Config) (c : Cursor) : List Field → Except Fault (Read Config c)
  | [] => .error (surplus c)
  | field :: fields => do
    let value ← field.read config c
    match value.next.token? with
    | none => throw (value.next.faultAtToken .endInArray)
    | some token =>
      have : token.next.length < c.length := Nat.lt_trans token.progress value.progress
      if token.value = ']' then return ⟨value.value, token.next, this⟩
      else if fields = [] then throw (surplus value.next)
      else if token.value = ',' then
        match token.next.token? with
        | none => throw (token.next.faultAtToken .endInValue)
        | some next =>
          if next.value = ']' then throw (token.next.faultAtToken .trailingComma)
          let others ← readElements value.value token.next fields
          return others.since (Nat.le_of_lt this)
      else throw (value.next.faultAtToken .noArrayComma)

/-- Reads an array behind its opening bracket. -/
def readArray (c : Cursor) : Except Fault (Read Config c) :=
  match c.token? with
  | none => .error (c.faultAtToken .endInArray)
  | some token =>
    if token.value = ']' then .ok (token.map fun _ ↦ default)
    else readElements default c Field.all

/-! ## Texts -/

/-- Reads a configuration from the front of a text. -/
def read (c : Cursor) : Except Fault (Read Config c) :=
  match c.token? with
  | none => .error (c.faultAtToken .endInValue)
  | some first =>
    if first.value = '[' then
      (readArray first.next).map (Read.since · first.le)
    else if first.value = '\x7b' then
      (readObject first.next).map (Read.since · first.le)
    else .error (Value.mismatch "struct BundleConfig" c)

def ofText? (text : String) : Except Fault Config := do
  let config ← read (.ofText text)
  match config.next.token? with
  | none => return config.value
  | some _ => throw (config.next.faultAtToken .trailingText)

end SoloScript.Config
