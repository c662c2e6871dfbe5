import SoloScript.File.Fault
import SoloScript.File.Path
import SoloScript.Text.Quoted

/-!
# Events of a run
-/

namespace SoloScript.Log

inductive Level where
  | error
  | warn
  | info
deriving DecidableEq, Repr

def Level.name : Level → String
  | error => "ERROR"
  | warn => "WARN"
  | info => "INFO"

inductive Event where
  | downloading
  | bundling
  /-- How much of the assets has come, in percent. -/
  | progress (percent : Nat)
  | emptyAsset (name : String)
  /-- A draft that was not removed after a failed write. -/
  | leftover (path : File.Path) (fault : File.Fault)
  | finished (path : File.Path) (bytes : Nat)
deriving DecidableEq, Repr

namespace Event

def level : Event → Level
  | emptyAsset _ | leftover .. => .warn
  | downloading | bundling | progress _ | finished .. => .info

def text : Event → String
  | downloading => "Downloading requirements..."
  | bundling => "Bundling..."
  | progress percent => toString percent ++ "%"
  | emptyAsset name => "asset downloaded with no content name=" ++ Text.quote name
  | leftover path fault =>
    "failed to remove partial artifact path=" ++ path.text ++ " error=" ++ fault.message
  | finished path bytes =>
    "Finished! Module ready to use! path=" ++ path.text ++ " bytes=" ++ toString bytes

def render (event : Event) : String := event.level.name ++ " " ++ event.text

end Event

end SoloScript.Log
