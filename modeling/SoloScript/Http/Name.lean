import SoloScript.Http.Name.Composition
import SoloScript.Http.Name.Direction
import SoloScript.Http.Name.Joining
import SoloScript.Http.Name.Spelling
import SoloScript.Http.Punycode
import SoloScript.Text.Substring

/-!
# Names of hosts

A name consists of labels between dots.  Its canonical form is ASCII: each character is replaced by
its spelling, characters are composed, and a label that is not ASCII then is written in Punycode.
-/

namespace SoloScript.Http.Name

def isAscii (c : Char) : Bool := c.toNat < 0x80

/-- ASCII characters that no name may hold. -/
def isReserved (c : Char) : Bool :=
  c.toNat ≤ 0x20 || c = '\x7f' || "%#/:<>?@[\\]^|".toList.contains c

structure Label where
  /-- The canonical form. -/
  written : List Char
  /-- The characters that are meant. -/
  meant : List Char
deriving DecidableEq, Repr

namespace Label

/-- The most characters of a label that are written in Punycode, and read from it. -/
def maxMeant : Nat := 1000

def maxWritten : Nat := 2000

/-- Whether a label that is not ASCII means what it seems to mean. -/
def isSound (meant : List Char) : Bool :=
  !meant.head?.any isMark && joinersFit meant && !Punycode.mark.isPrefixOf meant

/-- The label that was written in Punycode as `text` behind the mark: one that had to be, in
canonical form. -/
def ofPunycode? (text : List Char) : Option (List Char) := do
  let meant ← Punycode.decode? text
  if text.length ≤ maxWritten ∧ !meant.all isAscii ∧ meant.all isOwnSpelling
      ∧ canonical meant = meant ∧ isSound meant then some meant
  else none

def ofText? (text : List Char) : Option Label :=
  if text.all isAscii then
    if Punycode.mark.isPrefixOf text then
      (ofPunycode? (text.drop Punycode.mark.length)).map (⟨text, ·⟩)
    else some ⟨text, text⟩
  else if isSound text ∧ text.length ≤ maxMeant then some ⟨Punycode.encode text, text⟩
  else none

end Label

/-- The canonical form of a name. -/
def canonical? (text : List Char) : Option (List Char) := do
  let spelled ← text.mapM spelling?
  let labels ← (Text.pieces '.' (canonical spelled.flatten)).mapM Label.ofText?
  if (labels.flatMap (·.meant)).any isReserved ∨ !isReadable (labels.map (·.meant)) then none
  else some (['.'].intercalate (labels.map (·.written)))

end SoloScript.Http.Name
