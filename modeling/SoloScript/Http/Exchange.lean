import SoloScript.Http.Url.Reader

/-!
# Exchanges

A network answers each request with a reply or with the way in which it fails to.  An exchange
asks for a location and follows the redirects that come back, at most `maxRedirects` of them.  A
redirect is held to what holds for the location where an exchange begins: a request must be able to
name where it leads, or else the reply stands as it is, and it must lead to the web, or else the
exchange fails.
-/

namespace SoloScript.Http

structure Response where
  status : Nat
  location : Option String
  body : List UInt8
  /-- The number of bytes that were announced but did not come. -/
  missing : Nat
deriving DecidableEq, Repr

/-- Why no answer came. -/
inductive Silence where
  /-- The server cannot be reached. -/
  | unreachable
  /-- The connection was closed before an answer came. -/
  | closed
deriving DecidableEq, Repr

inductive Fault where
  | badUrl (fault : Url.Fault)
  | badScheme (url : Url)
  | badTarget (url : Url)
  | noAnswer (url : Url) (silence : Silence)
  | tooManyRedirects (url : Url)
  | incompleteBody
deriving DecidableEq, Repr

namespace Fault

def message : Fault → String
  | badUrl _ => "builder error"
  | badScheme url | badTarget url => "builder error for url (" ++ url.render ++ ")"
  | noAnswer url _ => "error sending request for url (" ++ url.render ++ ")"
  | tooManyRedirects url => "error following redirect for url (" ++ url.render ++ ")"
  | incompleteBody => "error decoding response body"

/-- What is behind a fault, from the outside in. -/
def causes : Fault → List String
  | badUrl fault => [fault.message]
  | badScheme _ => ["URL scheme is not allowed"]
  | badTarget _ => ["Parsed Url is not a valid Uri"]
  | noAnswer _ .unreachable =>
    ["client error (Connect)", "tcp connect error", "Network is unreachable (os error 101)"]
  | noAnswer _ .closed =>
    ["client error (SendRequest)", "connection closed before message completed"]
  | tooManyRedirects _ => ["too many redirects"]
  | incompleteBody =>
    ["request or response body error", "error reading a body from connection",
      "end of file before message length reached"]

end Fault

/-- What becomes of requests: their answers, and what the text of a redirect means, seen from the
location that was asked for.  The meaning is up to the library that makes the requests.  The text
may be a location, or none, or cause a fault. -/
structure Network where
  answer : Url → Except Silence Response
  reading : Url → String → Except Fault (Option Url)

namespace Network

/-- The network with these answers, where the text of a redirect is a location that may leave out
what it shares with the one that was asked for. -/
def ofAnswers (answer : Url → Except Silence Response) : Network :=
  ⟨answer, fun url text ↦ .ok (url.join? text).toOption⟩

/-- The network of a host without one. -/
def offline : Network := ofAnswers fun _ ↦ .error .unreachable

end Network

/-! ## Responses -/

namespace Response

def isSuccess (response : Response) : Bool := 200 ≤ response.status && response.status < 300

/-- Where a response redirects to; nowhere, if no request can name the location. -/
def target? (response : Response) (reading : String → Except Fault (Option Url)) :
    Except Fault (Option Url) :=
  if [301, 302, 303, 307, 308].contains response.status then
    match response.location with
    | none => .ok none
    | some text => (reading text).map (·.filter Url.isRequestable)
  else .ok none

/-- The body, if all of it came. -/
def content (response : Response) : Except Fault (List UInt8) :=
  if response.missing = 0 then .ok response.body else .error .incompleteBody

end Response

/-! ## Exchanges -/

def maxRedirects : Nat := 10

/-- Asks for `url` and follows up to `redirects` redirects; `origin` is where the exchange began. -/
def exchangeFrom (network : Network) (origin : Url) (redirects : Nat) (url : Url) :
    Except Fault Response :=
  match network.answer url with
  | .error silence => .error (.noAnswer origin silence)
  | .ok response =>
    match response.target? (network.reading url) with
    | .error fault => .error fault
    | .ok none => .ok response
    | .ok (some next) =>
      match redirects with
      | 0 => .error (.tooManyRedirects url)
      | redirects + 1 =>
        if next.isFetchable then exchangeFrom network origin redirects next
        else .error (.badScheme next)

/-- What comes back to a request for `target`. -/
def exchange (network : Network) (target : Url) : Except Fault Response :=
  exchangeFrom network target maxRedirects target

/-- The location that a request for `text` names, which must be one that assets can be at. -/
def requested (text : String) : Except Fault Url :=
  match Url.ofText? text with
  | .error fault => .error (.badUrl fault)
  | .ok url =>
    let target := url.withoutCredentials
    if !url.hasHost then .error (.badScheme url)
    else if !target.isFetchable then .error (.badScheme target)
    else if !target.isRequestable then .error (.badTarget target)
    else .ok target

end SoloScript.Http
