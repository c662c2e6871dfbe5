import SoloScript.Asset
import SoloScript.File.Fault
import SoloScript.File.Path
import SoloScript.Http.Exchange
import SoloScript.Json.Fault
import SoloScript.Script.Body

/-!
# Why a run fails

Whatever makes the requests is there before a run begins, so that setting it up is not among the
things that fail.
-/

namespace SoloScript

inductive Failure where
  /-- The exchange for an asset did not come to an end. -/
  | fetch (source : Asset.Source) (fault : Http.Fault)
  /-- The answer for an asset was not a success. -/
  | status (source : Asset.Source) (code : Nat)
  /-- No body was found behind an anchor. -/
  | body (anchor : String) (missing : Script.Body.Missing)
  | missingAsset (name : String)
  | wrongKind (name : String) (expected : Asset.Kind)
  | configUnreadable (path : File.Path) (fault : File.Fault)
  | configMalformed (path : File.Path) (fault : Json.Fault)
  | unwritable (path : File.Path) (fault : File.Fault)
deriving Repr

namespace Failure

def message : Failure → String
  | fetch source fault =>
    "failed to fetch `" ++ source.name ++ "` from " ++ source.url ++ ": " ++ fault.message
  | status source code =>
    "fetching `" ++ source.name ++ "` from " ++ source.url ++ " returned status " ++ toString code
  | body anchor .noAnchor => "anchor `" ++ anchor ++ "` not found in source text"
  | body anchor (.unbalanced scanned) =>
    "body following `" ++ anchor ++ "` is unbalanced after scanning " ++ toString scanned ++ " bytes"
  | missingAsset name => "asset `" ++ name ++ "` was not resolved"
  | wrongKind name expected => "asset `" ++ name ++ "` is not " ++ expected.name ++ " content"
  | configUnreadable path fault =>
    "failed to read configuration " ++ path.text ++ ": " ++ fault.message
  | configMalformed path fault =>
    "failed to parse configuration " ++ path.text ++ ": " ++ fault.message
  | unwritable path fault => "failed to write " ++ path.text ++ ": " ++ fault.message

/-- What is behind a failure, from the outside in. -/
def causes : Failure → List String
  | fetch _ fault => fault.message :: fault.causes
  | configUnreadable _ fault | unwritable _ fault => [fault.message]
  | configMalformed _ fault => [fault.message]
  | status .. | body .. | missingAsset _ | wrongKind .. => []

end Failure

end SoloScript
