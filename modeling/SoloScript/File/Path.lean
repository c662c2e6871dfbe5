import SoloScript.Text.Substring

/-!
# Paths

A path is kept as it is written and read as a list of segments between slashes.  An empty first
segment makes it absolute; any other segment that is empty or a single dot is *idle* and names
nothing.
-/

namespace SoloScript.File

structure Path where
  text : String
deriving DecidableEq, Repr

namespace Path

def empty : Path := ⟨""⟩

/-! ## Segments -/

def segments (path : Path) : List String :=
  (Text.pieces '/' path.text.toList).map String.ofList

/-- The path with the given segments; a single empty one stands for the root. -/
def ofSegments (segments : List String) : Path :=
  if segments = [""] then ⟨"/"⟩ else ⟨"/".intercalate segments⟩

def isAbsolute (path : Path) : Bool := path.text.toList.head? = some '/'

def isIdle (segment : String) : Bool := segment = "" || segment = "."

/-- Drops idle segments from the end. -/
def dropIdle (segments : List String) : List String :=
  (segments.reverse.dropWhile isIdle).reverse

theorem length_dropIdle_le (segments : List String) :
    (dropIdle segments).length ≤ segments.length := by
  simpa [dropIdle] using (List.dropWhile_sublist isIdle (l := segments.reverse)).length_le

/-! ## Parents and names -/

/-- The segments of the parent; the root and the empty path have none. -/
def parentSegments? : List String → Option (List String)
  | [] => none
  | first :: others =>
    let others := dropIdle others
    if others = [] then if first = "" then none else some []
    else some (first :: dropIdle others.dropLast)

theorem length_parentSegments_lt {segments parent : List String}
    (h : parentSegments? segments = some parent) : parent.length < segments.length := by
  cases segments with
  | nil => simp [parentSegments?] at h
  | cons first others =>
    simp only [parentSegments?] at h
    split at h
    · split at h
      · simp at h
      · cases h; simp
    · rename_i nonempty
      cases h
      have := List.length_pos_iff.2 nonempty
      have := length_dropIdle_le others
      have := length_dropIdle_le (dropIdle others).dropLast
      simp only [List.length_dropLast, List.length_cons] at *
      omega

def parent? (path : Path) : Option Path := (parentSegments? path.segments).map ofSegments

/-- The segments of a path, of its parent, and so on, as long as there is a parent. -/
def lineage (segments : List String) : List (List String) :=
  match h : parentSegments? segments with
  | none => []
  | some parent =>
    have := length_parentSegments_lt h
    segments :: lineage parent
termination_by segments.length

/-- The path and its ancestors, from the inside out, without the root and the empty path. -/
def ancestors (path : Path) : List Path := (lineage path.segments).map ofSegments

/-- The last name of a path, unless the path ends in dots or is a root. -/
def fileName? (path : Path) : Option String :=
  match path.segments with
  | [] => none
  | first :: others =>
    let last := (dropIdle others).getLast?.getD first
    if isIdle last ∨ last = ".." then none else some last

/-- The path of a name below this one. -/
def child (path : Path) (name : String) : Path :=
  if path.text = "" ∨ path.text.toList.getLast? = some '/' then ⟨path.text ++ name⟩
  else ⟨path.text ++ "/" ++ name⟩

/-- The path with another file name, or with one more name if it has no file name. -/
def withFileName (path : Path) (name : String) : Path :=
  match path.fileName? with
  | some _ => (path.parent?.getD empty).child name
  | none => path.child name

end Path

end SoloScript.File
