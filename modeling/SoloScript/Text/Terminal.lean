/-!
# Text without control sequences

A terminal takes some characters as orders: controls, and the sequences that begin with an escape.
`plain` leaves out all of them, so that what remains is what a reader sees.
-/

namespace SoloScript.Text.Terminal

/-- What the next character is part of. -/
inductive Mode where
  | text
  /-- What follows an escape. -/
  | escape
  /-- What follows an escape and a character that announces one more. -/
  | escapeTail
  /-- The parameters of an order, up to a letter. -/
  | order
  /-- A command to the system, up to a bell. -/
  | command
  /-- A message, up to its terminator. -/
  | message
  | deviceStart
  | deviceParameters
  | deviceIntermediates
  /-- Data for the device, up to its terminator. -/
  | deviceData
deriving DecidableEq, Repr

/-- Whether `c` is between two characters, both included. -/
def between (low high c : Char) : Bool := low ≤ c && c ≤ high

/-- Controls that move the text on. -/
def isLayout (c : Char) : Bool := c = '\t' || c = '\n' || c = '\x0c' || c = '\r'

def isShown (c : Char) : Bool := (' ' ≤ c && c ≠ '\x7f') || isLayout c

/-- Whether `c` ends a message: the terminator may stand among the bytes of a character. -/
def isTerminator (c : Char) : Bool := (String.utf8EncodeChar c).contains 0x9C

namespace Mode

/-- The mode behind a character that does not begin or cancel a sequence. -/
def next (c : Char) : Mode → Mode
  | text => text
  | escape =>
    if isLayout c then text
    else if between ' ' '/' c then escapeTail
    else if c = '[' then order
    else if c = ']' then command
    else if c = 'P' then deviceStart
    else if c = 'X' ∨ c = '^' ∨ c = '_' then message
    else if between '0' '~' c then text
    else escape
  | escapeTail => if isLayout c ∨ between '0' '~' c then text else escapeTail
  | order => if isLayout c ∨ between '@' '~' c then text else order
  | command => if c = '\x07' then text else command
  | message => if isTerminator c then text else message
  | deviceStart =>
    if between ' ' '/' c then deviceIntermediates
    else if c = ':' ∨ between '@' '~' c then deviceData
    else if between '0' '?' c then deviceParameters
    else deviceStart
  | deviceParameters =>
    if between ' ' '/' c then deviceIntermediates
    else if between '0' '9' c ∨ c = ';' then deviceParameters
    else if between ':' '~' c then deviceData
    else deviceParameters
  | deviceIntermediates => if between '0' '~' c then deviceData else deviceIntermediates
  | deviceData => if isTerminator c then text else deviceData

/-- Whether a character is shown: text is, and so is a layout control that breaks a sequence. -/
def shows (c : Char) : Mode → Bool
  | text => isShown c
  | escape | escapeTail | order => isLayout c
  | _ => false

end Mode

/-- What is shown of a text that is read in `mode`. -/
def plainIn (mode : Mode) : List Char → List Char
  | [] => []
  | c :: cs =>
    if c = '\x1b' then plainIn .escape cs
    else if c = '\x18' ∨ c = '\x1a' then plainIn .text cs
    else if mode.shows c then c :: plainIn (mode.next c) cs
    else plainIn (mode.next c) cs

/-- What is shown of a text. -/
def plain (text : String) : String := String.ofList (plainIn .text text.toList)

end SoloScript.Text.Terminal
