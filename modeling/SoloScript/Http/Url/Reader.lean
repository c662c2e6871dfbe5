import SoloScript.Http.Path
import SoloScript.Http.Url

/-!
# Reading locations

What a text means depends on the family of its scheme.  Blanks around a text, and tabs and line ends
within it, count for nothing.
-/

namespace SoloScript.Http.Url

/-! ## Tails -/

/-- Whether a character ends the path. -/
def endsPath (c : Char) : Bool := c = '?' || c = '#'

/-- The query and the fragment that a text begins with. -/
def tail (family : Family) (text : List Char) : Option String × Option String :=
  let query := text.takeWhile (· ≠ '#')
  let fragment := (text.drop query.length).tail?
  (query.tail?.map (String.ofList ∘ escape (if family.isKnown then .knownQuery else .query)),
    fragment.map (String.ofList ∘ escape .fragment))

/-- A location with the query and the fragment that `text` begins with. -/
def withTail (scheme : String) (authority : Option Authority) (path : String) (text : List Char) :
    Url :=
  let (query, fragment) := tail (.ofScheme scheme) text
  ⟨scheme, authority, path, query, fragment⟩

/-! ## Authorities -/

/-- Whether a character ends an authority. -/
def endsAuthority (family : Family) (c : Char) : Bool := family.isSlash c || endsPath c

/-- The credentials in front of the last `@`, and what is behind it. -/
def splitCredentials (text : List Char) : Option (List Char) × List Char :=
  let rest := (text.reverse.takeWhile (· ≠ '@')).reverse
  if rest.length < text.length then (some (text.take (text.length - rest.length - 1)), rest)
  else (none, text)

/-- Credentials: the first colon parts the user from the password. -/
def credentials (text : List Char) : Credentials :=
  let user := text.takeWhile (· ≠ ':')
  let part (text : List Char) : String := String.ofList (escape .user text)
  ⟨part user, part (text.drop (user.length + 1))⟩

/-- The host in front of the first colon outside brackets, and what follows from there. -/
def splitHost (inBrackets : Bool) : List Char → List Char × List Char
  | [] => ([], [])
  | c :: cs =>
    if c = ':' ∧ !inBrackets then ([], c :: cs)
    else
      let (host, rest) := splitHost (if c = '[' then true else if c = ']' then false else inBrackets) cs
      (c :: host, rest)

/-- The port that a text begins with, which is not named if it is the usual one, and what follows
it: nothing but an end of the authority, or a backslash. -/
def readPort (scheme : String) (text : List Char) : Except Fault (Option Nat × List Char) :=
  let digits := text.takeWhile Char.isDigit
  let rest := text.drop digits.length
  let port := digits.foldl (fun n d ↦ n * 10 + (d.toNat - 48)) 0
  if 65535 < port ∨ !rest.head?.all (fun c ↦ c = '\\' || endsAuthority .web c) then .error .badPort
  else .ok (if digits = [] ∨ defaultPort? scheme = some port then none else some port, rest)

/-- Reads the authority that a text begins with, and gives what follows it. -/
def readAuthority (scheme : String) (text : List Char) : Except Fault (Authority × List Char) := do
  let family := Family.ofScheme scheme
  let front := text.takeWhile (!endsAuthority family ·)
  let behind := text.drop front.length
  let (user, front) := splitCredentials front
  if user = some [] ∧ front = [] ∧ behind ≠ [] then throw (.badHost .empty)
  let credentials := credentials (user.getD [])
  let (host, rest) := splitHost false front
  let host ← match if family.isKnown then Host.ofText? host else Host.ofOpaqueText? host with
    | .ok host => pure host
    | .error fault => throw (.badHost fault)
  if host = "" ∧ rest ≠ [] then throw (.badHost .empty)
  let (port, rest) ← match rest with
    | ':' :: rest => readPort scheme (rest ++ behind)
    | _ => pure (none, behind)
  if host = "" ∧ credentials ≠ .none then throw (.badHost .empty)
  return (⟨credentials, host, port⟩, rest)

/-! ## Locations -/

/-- Reads what follows the slashes in front of an authority. -/
def readBehindSlashes (scheme : String) (text : List Char) : Except Fault Url := do
  let family := Family.ofScheme scheme
  let (authority, rest) ← readAuthority scheme text
  let path := rest.takeWhile (!endsPath ·)
  let behind := rest.drop path.length
  let segments :=
    if path = [] then if family.isKnown then [[]] else []
    else Path.below family [] (if path.head?.any family.isSlash then path.drop 1 else path)
  return withTail scheme (some authority) (Path.render segments) behind

/-- Reads the location of a file, behind its colon.  A host is dropped if a drive follows it. -/
def readFile (text : List Char) : Except Fault Url := do
  let front := text.takeWhile (!endsPath ·)
  let behind := text.drop front.length
  let ofPath (host : String) (path : List Char) : Url :=
    let segments := Path.below .file [] path
    let host := if Path.startsWithDrive segments then "" else host
    withTail "file" (some ⟨.none, host, none⟩) (Path.render (Path.trim segments)) behind
  let isSlash := Family.file.isSlash
  match front with
  | a :: b :: rest =>
    if isSlash a ∧ isSlash b then
      let host := rest.takeWhile (!isSlash ·)
      if host = [] ∨ Path.isDrive host then return ofPath "" rest
      else
        match Host.ofText? host with
        | .error fault => throw (.badHost fault)
        | .ok "localhost" => return ofPath "" (rest.drop host.length)
        | .ok name => return ofPath name (rest.drop (host.length + 1))
    else return ofPath "" (if isSlash a then b :: rest else front)
  | [a] => return ofPath "" (if isSlash a then [] else front)
  | [] => return ofPath "" []

/-- Reads what follows the colon of a scheme of which nothing is known. -/
def readOther (scheme : String) (text : List Char) : Except Fault Url :=
  let front := text.takeWhile (!endsPath ·)
  let behind := text.drop front.length
  match front with
  | '/' :: '/' :: rest => readBehindSlashes scheme (rest ++ behind)
  | '/' :: rest => .ok (withTail scheme none (Path.render (Path.below .other [] rest)) behind)
  | _ => .ok (withTail scheme none (String.ofList (escape .controls front)) behind)

/-- Reads what follows the colon of a scheme. -/
def readBehindColon (scheme : String) (text : List Char) : Except Fault Url :=
  match Family.ofScheme scheme with
  | .web => readBehindSlashes scheme (text.dropWhile Family.web.isSlash)
  | .file => readFile text
  | .other => readOther scheme text

/-- What is read of a text. -/
def clean (text : String) : List Char :=
  let inner := text.toList.dropWhile (·.toNat ≤ 0x20)
  let inner := (inner.reverse.dropWhile (·.toNat ≤ 0x20)).reverse
  inner.filter fun c ↦ c ≠ '\t' ∧ c ≠ '\n' ∧ c ≠ '\r'

def ofText? (text : String) : Except Fault Url :=
  match splitScheme? (clean text) with
  | none => .error .noScheme
  | some (scheme, rest) => readBehindColon scheme rest

/-! ## Texts that leave out what they share with a location -/

/-- Reads a text without a scheme, seen from a location of the web. -/
def readFrom (url : Url) (text : List Char) : Except Fault Url :=
  let slashes := text.takeWhile Family.web.isSlash
  if 2 ≤ slashes.length then readBehindSlashes url.scheme (text.drop slashes.length)
  else
    let path := text.takeWhile (!endsPath ·)
    let behind := text.drop path.length
    let at_ (path : String) : Url := withTail url.scheme url.authority path behind
    if path = [] then
      let next := at_ url.path
      .ok (if behind.head? = some '?' then next else { next with query := url.query })
    else if slashes = [] then .ok (at_ (Path.render (Path.below .web (Path.folder url.path) path)))
    else .ok (at_ (Path.render (Path.below .web [] (path.drop 1))))

/-- Reads a text that may leave out what it shares with `url`, a location of the web. -/
def join? (url : Url) (text : String) : Except Fault Url :=
  let text := clean text
  match splitScheme? text with
  | some (scheme, rest) =>
    if scheme = url.scheme ∧ (rest.takeWhile Family.web.isSlash).length < 2 then readFrom url rest
    else readBehindColon scheme rest
  | none => readFrom url text

end SoloScript.Http.Url
