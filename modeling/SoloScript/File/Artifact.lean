import SoloScript.File.Operation

/-!
# Writing an artifact

An artifact is written to a draft beside its destination and then moved over it, so that the
destination only ever holds a complete artifact.  When a step fails, the draft is removed again.
-/

namespace SoloScript.File

/-- The path of the draft of an artifact. -/
def Path.draft (path : Path) : Path := path.withFileName (path.fileName?.getD "" ++ ".partial")

/-- What became of an artifact. -/
structure Artifact where
  tree : Tree
  result : Except Fault Unit
  /-- Why the draft could not be removed after a failure. -/
  leftover : Option Fault

namespace Artifact

/-- Ends a failed write by removing the draft; a draft that is not there is no matter. -/
def discard (tree : Tree) (draft : Path) (fault : Fault) : Artifact :=
  match tree.remove draft with
  | .ok tree => ⟨tree, .error fault, none⟩
  | .error .notFound => ⟨tree, .error fault, none⟩
  | .error other => ⟨tree, .error fault, some other⟩

/-- Makes the directories above a path. -/
def prepare (tree : Tree) (path : Path) : Tree × Except Fault Unit :=
  match path.parent? with
  | none => (tree, .ok ())
  | some parent => if parent.text = "" then (tree, .ok ()) else tree.makeDirectories parent

/-- Writes the draft and moves it over its destination. -/
def store (tree : Tree) (path : Path) (bytes : List UInt8) : Artifact :=
  match tree.write path.draft bytes with
  | .error fault => discard tree path.draft fault
  | .ok drafted =>
    match drafted.rename path.draft path with
    | .error fault => discard drafted path.draft fault
    | .ok tree => ⟨tree, .ok (), none⟩

def write (tree : Tree) (path : Path) (bytes : List UInt8) : Artifact :=
  match prepare tree path with
  | (tree, .error fault) => ⟨tree, .error fault, none⟩
  | (tree, .ok ()) => store tree path bytes

end Artifact

end SoloScript.File
