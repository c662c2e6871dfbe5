import SoloScript.File.Walk

/-!
# Operations on file trees

Each operation either succeeds with a new tree or fails and changes nothing, except for
`makeDirectories`, which may fail after it has made some of them.
-/

namespace SoloScript.File.Tree

/-! ## Files -/

def read (tree : Tree) (path : Path) : Except Fault (List UInt8) := do
  match tree.get? (← tree.locate false path) with
  | some (.file bytes) => return bytes
  | some .directory => throw .isDirectory
  | _ => throw .notFound

/-- Writes a file, through links also at the end of the path. -/
def write (tree : Tree) (path : Path) (bytes : List UInt8) : Except Fault Tree := do
  let location ← tree.locate true path
  if tree.isDirectory location then throw .isDirectory
  return tree.set location (.file bytes)

/-- Moves a file or a link, not its target, over what is at `target` unless that is a
directory. -/
def rename (tree : Tree) (source target : Path) : Except Fault Tree := do
  let source ← tree.slot source
  let target ← tree.slot target
  if !source.isName || !target.isName then throw .busy
  match ← source.entry? tree with
  | none => throw .notFound
  | some .directory => throw .isDirectory
  | some entry =>
    let occupant ← target.entry? tree
    if source.slash || target.slash then throw .notDirectory
    if occupant = some .directory then throw .isDirectory
    return (tree.erase source.location).set target.location entry

/-- Removes a file or a link. -/
def remove (tree : Tree) (path : Path) : Except Fault Tree := do
  let slot ← tree.slot path
  if !slot.isName then throw .isDirectory
  match ← slot.entry? tree with
  | none => throw .notFound
  | some .directory => throw .isDirectory
  | some _ =>
    if slot.slash then throw .notDirectory
    return tree.erase slot.location

/-! ## Directories -/

/-- Whether a path leads to a directory. -/
def hasDirectory (tree : Tree) (path : Path) : Bool :=
  match tree.locate false path with
  | .ok location => tree.isDirectory location
  | .error _ => false

def makeDirectory (tree : Tree) (path : Path) : Except Fault Tree := do
  let slot ← tree.slot path
  if !slot.isName then throw .alreadyExists
  match ← slot.entry? tree with
  | some _ => throw .alreadyExists
  | none => return tree.set slot.location .directory

/-- Makes the first directory of the list after those that follow it, which are its ancestors.  A
directory that is there already will do. -/
def makeLineage (tree : Tree) : List Path → Tree × Except Fault Unit
  | [] => (tree, .ok ())
  | path :: ancestors =>
    match tree.makeDirectory path with
    | .ok tree => (tree, .ok ())
    | .error .notFound =>
      match tree.makeLineage ancestors with
      | (tree, .error fault) => (tree, .error fault)
      | (tree, .ok ()) =>
        match tree.makeDirectory path with
        | .ok tree => (tree, .ok ())
        | .error fault => (tree, if tree.hasDirectory path then .ok () else .error fault)
    | .error fault => (tree, if tree.hasDirectory path then .ok () else .error fault)

/-- Makes a directory and those above it that are missing. -/
def makeDirectories (tree : Tree) (path : Path) : Tree × Except Fault Unit :=
  tree.makeLineage path.ancestors

end SoloScript.File.Tree
