/-!
# Schemes

The scheme of a location says what is known of its parts.  Locations of the *web* always have a
host, and those of *files* may have one; in both, backslashes count as slashes.  Of other schemes
nothing is known.
-/

namespace SoloScript.Http

inductive Family where
  | web
  | file
  | other
deriving DecidableEq, Repr

/-- The port that is meant where none is given, for the schemes of the web. -/
def defaultPort? (scheme : String) : Option Nat :=
  if scheme = "http" ∨ scheme = "ws" then some 80
  else if scheme = "https" ∨ scheme = "wss" then some 443
  else if scheme = "ftp" then some 21
  else none

namespace Family

def ofScheme (scheme : String) : Family :=
  if (defaultPort? scheme).isSome then web else if scheme = "file" then file else other

def isKnown : Family → Bool
  | web | file => true
  | other => false

def isSlash (family : Family) (c : Char) : Bool := c = '/' || (c = '\\' && family.isKnown)

end Family

def isSchemeChar (c : Char) : Bool := c.isAlphanum || c = '+' || c = '-' || c = '.'

/-- The scheme in lower case, and what follows its colon. -/
def splitScheme? (text : List Char) : Option (String × List Char) :=
  if text.head?.any Char.isAlpha then
    match text.dropWhile isSchemeChar with
    | ':' :: rest => some (String.ofList ((text.takeWhile isSchemeChar).map Char.toLower), rest)
    | _ => none
  else none

end SoloScript.Http
