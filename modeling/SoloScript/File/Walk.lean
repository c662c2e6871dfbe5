import SoloScript.File.Fault
import SoloScript.File.Tree
import SoloScript.Text.Utf8

/-!
# From paths to locations

A walk goes through the segments of a path, one directory after another, and replaces every link
that it meets by the segments of the link's target.  A walk follows at most `maxLinks` links.
-/

namespace SoloScript.File

namespace Path

def maxBytes : Nat := 4095

/-- What is wrong with a path before any tree is looked at. -/
def fault? (path : Path) : Option Fault :=
  if '\x00' ∈ path.text.toList then some .nulInPath
  else if path.text = "" then some .notFound
  else if maxBytes < Text.Utf8.size path.text.toList then some .nameTooLong
  else none

/-- Where a walk along this path starts, seen from a directory. -/
def start (path : Path) (directory : Location) : Location :=
  if path.isAbsolute then [] else directory

end Path

namespace Tree

def maxLinks : Nat := 40

def maxNameBytes : Nat := 255

def isTooLong (name : String) : Bool := maxNameBytes < Text.Utf8.size name.toList

/-! ## Following links -/

/-- Walks from a directory along `segments`, following at most `links` links.  If `create` is set,
the walk is for a file that may have to be created: nothing need be at its end, but slashes there
ask for a directory. -/
def follow (tree : Tree) (create : Bool) (links : Nat) (directory : Location)
    (segments : List String) : Except Fault Location :=
  match segments with
  | [] => .ok directory
  | name :: rest =>
    if !tree.isDirectory directory then .error .notDirectory
    else if Path.isIdle name then tree.follow create links directory rest
    else if name = ".." then tree.follow create links directory.dropLast rest
    else if create ∧ rest ≠ [] ∧ rest.all (· = "") then .error .isDirectory
    else if isTooLong name then .error .nameTooLong
    else
      let location := directory ++ [name]
      match tree.get? location with
      | none => if create ∧ rest = [] then .ok location else .error .notFound
      | some (.link target) =>
        match links with
        | 0 => .error .tooManyLinks
        | links + 1 =>
          tree.follow create links (target.start directory) (target.segments ++ rest)
      | some _ => tree.follow create links location rest
termination_by (links, segments.length)

/-- The location that a path leads to; see `follow` for `create`. -/
def locate (tree : Tree) (create : Bool) (path : Path) : Except Fault Location :=
  match path.fault? with
  | some fault => .error fault
  | none => tree.follow create maxLinks (path.start tree.base) path.segments

/-! ## Slots -/

/-- A place for an entry: a directory and the last segment of a path, which may be dots. -/
structure Slot where
  directory : Location
  last : String
  /-- Slashes follow the last segment. -/
  slash : Bool
deriving DecidableEq, Repr

namespace Slot

def isName (slot : Slot) : Bool := slot.last ≠ "." && slot.last ≠ ".."

def location (slot : Slot) : Location := slot.directory ++ [slot.last]

/-- What is in a slot; a link is not followed. -/
def entry? (slot : Slot) (tree : Tree) : Except Fault (Option Entry) :=
  if isTooLong slot.last then .error .nameTooLong else .ok (tree.get? slot.location)

end Slot

/-- The slot that a path leads to. -/
def slot (tree : Tree) (path : Path) : Except Fault Slot :=
  match path.fault? with
  | some fault => .error fault
  | none =>
    let start := path.start tree.base
    let trailing := path.segments.reverse
    match trailing.dropWhile (· = "") with
    | [] => .ok ⟨start, ".", true⟩
    | last :: before => do
      let directory ← tree.follow false maxLinks start before.reverse
      if tree.isDirectory directory then
        return ⟨directory, last, trailing.head? = some ""⟩
      else throw .notDirectory

end Tree

end SoloScript.File
