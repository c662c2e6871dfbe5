import SoloScript.File.Artifact
import SoloScript.Resolution
import SoloScript.Script.Assemble

/-!
# Building the script

A build resolves the assets, assembles the script and writes it.  Nothing is written unless every
asset has come and every body was found.
-/

namespace SoloScript

open Log

/-- What was built. -/
structure Report where
  path : File.Path
  bytes : Nat
  statements : Nat
deriving DecidableEq, Repr

/-- What a build came to, the tree after it, the fetches that were started, and the events. -/
structure Build where
  result : Except Failure Report
  tree : File.Tree
  started : List String
  events : List Event

namespace Build

/-- Writes an artifact: the failure is told together with the path, and a draft that could not be
removed is an event. -/
def store (tree : File.Tree) (path : File.Path) (code : String) :
    Except Failure Unit × File.Tree × List Event :=
  let artifact := File.Artifact.write tree path (Text.Utf8.encode code)
  (artifact.result.mapError (.unwritable path), artifact.tree,
    (artifact.leftover.map (.leftover path.draft)).toList)

end Build

def build (config : Config) (fetcher : Fetcher) (tree : File.Tree) : Build :=
  let resolution := resolve (config.sources.map fun source ↦ (source, fetcher source))
  let events := .downloading :: resolution.events
  match resolution.result with
  | .error failure => ⟨.error failure, tree, resolution.started, events⟩
  | .ok assets =>
    let events := events ++ [.bundling]
    match Script.ofConfig config assets with
    | .error failure => ⟨.error failure, tree, resolution.started, events⟩
    | .ok fragments =>
      let code := fragments.render
      let (stored, tree, warnings) := Build.store tree config.outputPath code
      let report : Report :=
        ⟨config.outputPath, Text.Utf8.size code.toList, fragments.size⟩
      ⟨stored.map fun _ ↦ report, tree, resolution.started, events ++ warnings⟩

end SoloScript
