import SoloScript.Http.Escape
import SoloScript.Http.Host

/-!
# Locations on the web

A location consists of a scheme, an optional authority, a path, a query and a fragment.  All parts
are in canonical form, so that writing a location gives the form that messages show.
-/

namespace SoloScript.Http

/-- Who asks; both parts are escaped, and empty if they are absent. -/
structure Credentials where
  user : String
  password : String
deriving DecidableEq, Repr

structure Authority where
  credentials : Credentials
  /-- Empty if no host is named. -/
  host : String
  port : Option Nat
deriving DecidableEq, Repr

structure Url where
  scheme : String
  authority : Option Authority
  path : String
  query : Option String
  fragment : Option String
deriving DecidableEq, Repr

namespace Credentials

def none : Credentials := ⟨"", ""⟩

def render (credentials : Credentials) : String :=
  credentials.user
    ++ (if credentials.password = "" then "" else ":" ++ credentials.password)
    ++ (if credentials = none then "" else "@")

def isText (part : String) : Bool := (unescape? part.toList).isSome

/-- Whether credentials can be sent: the user is a text, and something is said. -/
def areUsable (credentials : Credentials) : Bool :=
  isText credentials.user
    && (credentials.user ≠ "" || (credentials.password ≠ "" && isText credentials.password))

end Credentials

namespace Authority

def render (authority : Authority) : String :=
  authority.credentials.render ++ authority.host
    ++ (match authority.port with
      | none => ""
      | some port => ":" ++ toString port)

end Authority

namespace Url

/-- Writes a location.  A path that begins with two slashes gets a dot in front, so that it is not
taken for an authority. -/
def render (url : Url) : String :=
  url.scheme ++ ":"
    ++ (match url.authority with
      | none => if "//".isPrefixOf url.path then "/." else ""
      | some authority => "//" ++ authority.render)
    ++ url.path
    ++ (match url.query with
      | none => ""
      | some query => "?" ++ query)
    ++ (match url.fragment with
      | none => ""
      | some fragment => "#" ++ fragment)

def hasHost (url : Url) : Bool := url.authority.any (·.host ≠ "")

/-- The location without credentials that can be sent, which are no part of where a thing is. -/
def withoutCredentials (url : Url) : Url :=
  { url with authority := url.authority.map fun authority ↦
      if authority.credentials.areUsable then { authority with credentials := .none }
      else authority }

/-- Whether assets can be asked for at this location. -/
def isFetchable (url : Url) : Bool := url.scheme = "http" || url.scheme = "https"

/-- The most bytes of a location that a request can be for. -/
def maxSize : Nat := 65534

/-- Whether a request can name this location: some characters may stand in a host, but not in that
of a request. -/
def isRequestable (url : Url) : Bool :=
  !url.authority.any (·.host.any "\"`\x7b\x7d".toList.contains) && url.render.utf8ByteSize ≤ maxSize

/-! ## What is wrong with a text that is no location -/

inductive Fault where
  | noScheme
  | badPort
  | badHost (fault : Host.Fault)
deriving DecidableEq, Repr

def Fault.message : Fault → String
  | noScheme => "relative URL without a base"
  | badPort => "invalid port number"
  | badHost .empty => "empty host"
  | badHost .badName => "invalid international domain name"
  | badHost .badNumbers => "invalid IPv4 address"
  | badHost .badGroups => "invalid IPv6 address"
  | badHost .badCharacter => "invalid domain character"

end Url

end SoloScript.Http
