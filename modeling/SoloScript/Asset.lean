import SoloScript.Text.Utf8

/-!
# Assets

An asset is a text or a byte sequence that the script is made from.  Its kind follows from the
location that it comes from: locations that end in `mem` hold bytes.
-/

namespace SoloScript

inductive Asset where
  | text (content : String)
  | binary (bytes : List UInt8)
deriving DecidableEq, Repr

namespace Asset

/-! ## Kinds -/

inductive Kind where
  | text
  | binary
deriving DecidableEq, Repr

namespace Kind

def name : Kind → String
  | text => "text"
  | binary => "binary"

/-- How the locations of binary assets end. -/
def binaryEnding : String := "mem"

def classify (location : String) : Kind :=
  if binaryEnding.toList.isSuffixOf location.toList then binary else text

end Kind

/-! ## Content -/

def kind : Asset → Kind
  | text _ => .text
  | binary _ => .binary

def text? : Asset → Option String
  | text content => some content
  | binary _ => none

def bytes? : Asset → Option (List UInt8)
  | text _ => none
  | binary bytes => some bytes

/-- The size of the content in bytes. -/
def size : Asset → Nat
  | text content => Text.Utf8.size content.toList
  | binary bytes => bytes.length

def isEmpty (asset : Asset) : Bool := asset.size = 0

/-! ## Sources -/

/-- The name of an asset and the location that it is fetched from. -/
structure Source where
  name : String
  url : String
deriving DecidableEq, Repr

def Source.kind (source : Source) : Kind := .classify source.url

/-! ## The assets of a script -/

/-- The module that runs the modem. -/
def runtime : String := "quietEs"

/-- The initial memory of the runtime. -/
def memory : String := "quietEsMem"

/-- The transmission profiles. -/
def profiles : String := "quietProfiles"

/-- The module that loads the runtime. -/
def loader : String := "quietBase"

end Asset

/-- Assets by name, each name at most once. -/
structure Assets where
  toList : List (String × Asset)
deriving DecidableEq, Repr

namespace Assets

def empty : Assets := ⟨[]⟩

def get? (assets : Assets) (name : String) : Option Asset :=
  (assets.toList.find? (·.1 = name)).map (·.2)

/-- Adds an asset, in the place of one with the same name. -/
def insert (assets : Assets) (name : String) (asset : Asset) : Assets :=
  ⟨(name, asset) :: assets.toList.filter (·.1 ≠ name)⟩

/-- Of two assets with one name the later counts. -/
def ofList (pairs : List (String × Asset)) : Assets :=
  pairs.foldl (fun assets (name, asset) ↦ assets.insert name asset) empty

@[simp] theorem get?_empty (name : String) : empty.get? name = none := rfl

@[simp] theorem get?_insert (assets : Assets) (name : String) (asset : Asset) :
    (assets.insert name asset).get? name = some asset := by
  simp [get?, insert]

theorem get?_insert_of_ne {assets : Assets} {name other : String} {asset : Asset}
    (h : other ≠ name) : (assets.insert name asset).get? other = assets.get? other := by
  simp only [get?, insert, List.find?_cons, decide_eq_false (Ne.symm h), List.find?_filter]
  congr 2
  funext pair
  by_cases same : pair.1 = other <;> simp [same, h]

end Assets

end SoloScript
