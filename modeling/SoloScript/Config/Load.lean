import SoloScript.Config.Reader
import SoloScript.Failure
import SoloScript.File.Operation

/-!
# Loading a configuration
-/

namespace SoloScript.Config

open File

/-- The file that is looked for where no configuration is named. -/
def defaultFile : String := "quiet-bundle.config.json"

def readText (tree : Tree) (path : Path) : Except File.Fault String := do
  match Text.Utf8.decode? (← tree.read path) with
  | some text => return text
  | none => throw .notText

def load (tree : Tree) (path : Path) : Except Failure Config :=
  match readText tree path with
  | .error fault => .error (.configUnreadable path fault)
  | .ok text =>
    match ofText? text with
    | .error fault => .error (.configMalformed path fault)
    | .ok config => .ok config

/-- The configuration of a directory; a file that is missing or wrong counts for nothing. -/
def discover (tree : Tree) (directory : Path) : Config :=
  (load tree (directory.child defaultFile)).toOption.getD default

end SoloScript.Config
