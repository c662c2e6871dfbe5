import SoloScript.Command.Run

/-!
# The command line

Reads the configuration file, runs the command line on it and prints what comes of it.  No
transport is linked in, so every request ends as on a host without a network.
-/

namespace SoloScript

/-- A tree that holds no more than the file at `path`, if it can be read. -/
def treeWith (path : File.Path) : IO File.Tree := do
  let tree := File.Tree.empty []
  match ← (IO.FS.readBinFile path.text).toBaseIO with
  | .error _ => return tree
  | .ok bytes =>
    let tree := match path.parent? with
      | none => tree
      | some parent => (tree.makeDirectories parent).1
    return (tree.write path bytes.toList).toOption.getD tree

/-- The configuration file that a command line reads. -/
def configPath (words : List String) : File.Path :=
  match Command.Request.ofWords words with
  | .ok (.bundle options) => options.config.getD ⟨Config.defaultFile⟩
  | _ => ⟨Config.defaultFile⟩

end SoloScript

def main (words : List String) : IO UInt32 := do
  let tree ← SoloScript.treeWith (SoloScript.configPath words)
  let outcome := SoloScript.Command.run words tree SoloScript.Http.Network.offline
  let setting ← IO.getEnv "RUST_LOG"
  for event in SoloScript.Command.shown setting outcome.events do
    IO.println event.render
  IO.print outcome.output
  IO.eprint outcome.errors
  return outcome.code.toUInt32
