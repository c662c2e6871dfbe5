import SoloScript.File.Path

/-!
# File trees

A tree maps locations to entries.  A location is the list of names that lead from the root to an
entry.  The working directory and the directories above it are always there.
-/

namespace SoloScript.File

abbrev Location := List String

inductive Entry where
  | directory
  | file (bytes : List UInt8)
  | link (target : Path)
deriving DecidableEq, Repr

/-- The entries of a tree other than those on the way to its working directory `base`. -/
structure Tree where
  base : Location
  entries : List (Location × Entry)
deriving DecidableEq, Repr

namespace Tree

/-- A tree with nothing below its working directory. -/
def empty (base : Location) : Tree := ⟨base, []⟩

def get? (tree : Tree) (location : Location) : Option Entry :=
  if location.isPrefixOf tree.base then some .directory
  else (tree.entries.find? (·.1 = location)).map (·.2)

def isDirectory (tree : Tree) (location : Location) : Bool :=
  tree.get? location = some .directory

def erase (tree : Tree) (location : Location) : Tree :=
  { tree with entries := tree.entries.filter (·.1 ≠ location) }

def set (tree : Tree) (location : Location) (entry : Entry) : Tree :=
  { tree with entries := (location, entry) :: (tree.erase location).entries }

/-! ## Lookups -/

@[simp] theorem base_erase (tree : Tree) (location : Location) :
    (tree.erase location).base = tree.base := rfl

@[simp] theorem base_set (tree : Tree) (location : Location) (entry : Entry) :
    (tree.set location entry).base = tree.base := rfl

theorem get?_of_isPrefixOf {tree : Tree} {location : Location}
    (h : location.isPrefixOf tree.base) : tree.get? location = some .directory := by
  simp [get?, h]

theorem find?_erase_of_ne {location other : Location} (h : other ≠ location)
    (entries : List (Location × Entry)) :
    (entries.filter (·.1 ≠ location)).find? (·.1 = other) = entries.find? (·.1 = other) := by
  rw [List.find?_filter]
  congr 1
  funext e
  by_cases he : e.1 = other <;> simp [he, h]

theorem get?_erase_of_ne {tree : Tree} {location other : Location} (h : other ≠ location) :
    (tree.erase location).get? other = tree.get? other := by
  simp only [get?, erase, find?_erase_of_ne h]

theorem get?_erase {tree : Tree} {location : Location}
    (h : location.isPrefixOf tree.base = false) : (tree.erase location).get? location = none := by
  simp [get?, erase, h]

theorem get?_set {tree : Tree} {location : Location} {entry : Entry}
    (h : location.isPrefixOf tree.base = false) :
    (tree.set location entry).get? location = some entry := by
  simp [get?, set, h]

theorem get?_set_of_ne {tree : Tree} {location other : Location} {entry : Entry}
    (h : other ≠ location) : (tree.set location entry).get? other = tree.get? other := by
  have erased : (tree.erase location).get? other = tree.get? other := get?_erase_of_ne h
  rw [← erased]
  simp [get?, set, erase, Ne.symm h]

end Tree

end SoloScript.File
