import SoloScript.Json.Cursor
import SoloScript.Number.Shortest
import SoloScript.Text.Quoted

/-!
# What can be wrong with a JSON text

A fault is a reason and the position at which reading stopped.
-/

namespace SoloScript.Json

/-- What was found where something else was expected. -/
inductive Found where
  | null
  | boolean (value : Bool)
  | integer (value : Int)
  | real (value : Float)
  | text (value : String)
  | array
  | object
deriving Repr

namespace Found

def describe : Found → String
  | null => "null"
  | boolean true => "boolean `true`"
  | boolean false => "boolean `false`"
  | integer value => "integer `" ++ toString value ++ "`"
  | real value => "floating point `" ++ Number.render value ++ "`"
  | text value => "string " ++ Text.quote value
  | array => "sequence"
  | object => "map"

end Found

inductive Reason where
  | endInArray
  | endInObject
  | endInString
  | endInValue
  | noColon
  | noArrayComma
  | noObjectComma
  | noIdentifier
  | noValue
  | badEscape
  | badNumber
  | hugeNumber
  | loneSurrogate
  | halfSurrogatePair
  | keyNotString
  | controlCharacter
  | trailingComma
  | trailingText
  | invalidType (found : Found) (expected : String)
  | invalidValue (found : Found) (expected : String)
  | duplicateField (key : String)
deriving Repr

namespace Reason

def message : Reason → String
  | endInArray => "EOF while parsing a list"
  | endInObject => "EOF while parsing an object"
  | endInString => "EOF while parsing a string"
  | endInValue => "EOF while parsing a value"
  | noColon => "expected `:`"
  | noArrayComma => "expected `,` or `]`"
  | noObjectComma => "expected `,` or `\x7d`"
  | noIdentifier => "expected ident"
  | noValue => "expected value"
  | badEscape => "invalid escape"
  | badNumber => "invalid number"
  | hugeNumber => "number out of range"
  | loneSurrogate => "lone leading surrogate in hex escape"
  | halfSurrogatePair => "unexpected end of hex escape"
  | keyNotString => "key must be a string"
  | controlCharacter => "control character (\\u0000-\\u001F) found while parsing a string"
  | trailingComma => "trailing comma"
  | trailingText => "trailing characters"
  | invalidType found expected => "invalid type: " ++ found.describe ++ ", expected " ++ expected
  | invalidValue found expected => "invalid value: " ++ found.describe ++ ", expected " ++ expected
  | duplicateField key => "duplicate field `" ++ key ++ "`"

end Reason

structure Fault where
  reason : Reason
  position : Position
deriving Repr

namespace Fault

def message (fault : Fault) : String :=
  s!"{fault.reason.message} at line {fault.position.line} column {fault.position.column}"

end Fault

namespace Cursor

/-- A fault in what has been read. -/
def fault (c : Cursor) (reason : Reason) : Fault := ⟨reason, c.here⟩

/-- A fault in the byte that comes next, or at the end of the text. -/
def faultAhead (c : Cursor) (reason : Reason) : Fault := ⟨reason, c.ahead 1⟩

/-- A fault in the first byte that is not blank, or at the end of the text. -/
def faultAtToken (c : Cursor) (reason : Reason) : Fault := c.skipBlanks.faultAhead reason

end Cursor

end SoloScript.Json
