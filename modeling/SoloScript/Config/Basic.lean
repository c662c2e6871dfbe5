import SoloScript.Asset
import SoloScript.File.Path
import SoloScript.Script.Body
import SoloScript.Text.Substring

/-!
# Configurations

A configuration says where the four assets are, what the script passes on to its loader, where the
script goes and which limits hold.
-/

namespace SoloScript

structure Config where
  /-- What the locations of all assets begin with. -/
  repositoryBaseUrl : String
  runtimeFile : String
  memoryFile : String
  profilesFile : String
  loaderFile : String
  profilesPrefix : String
  memoryPrefix : String
  outputPath : File.Path
  /-- The number of bytes to look at for the end of a body. -/
  maxScanBytes : Nat
  /-- How long to wait for an asset, in seconds. -/
  requestTimeout : Nat
deriving DecidableEq, Repr

namespace Config

def hostedPrefix : String := "https://quiet.github.io/quiet-js/javascripts/"

def default : Config where
  repositoryBaseUrl :=
    "https://raw.githubusercontent.com/quiet/quiet-js/708084716f20d21c420df18ed8812a72105e8783/"
  runtimeFile := "quiet-emscripten.js"
  memoryFile := "quiet-emscripten.js.mem"
  profilesFile := "quiet-profiles.json"
  loaderFile := "quiet.js"
  profilesPrefix := hostedPrefix
  memoryPrefix := hostedPrefix
  outputPath := ⟨"_bundle.js"⟩
  maxScanBytes := Script.Body.defaultBound
  requestTimeout := 120

/-- The location of a file of the repository; one slash stands between the two. -/
def assetUrl (config : Config) (file : String) : String :=
  Text.trimEnd '/' config.repositoryBaseUrl ++ "/" ++ Text.trimStart '/' file

def source (config : Config) (name file : String) : Asset.Source := ⟨name, config.assetUrl file⟩

/-- The four assets, in the order in which they are asked for. -/
def sources (config : Config) : List Asset.Source :=
  [config.source Asset.runtime config.runtimeFile, config.source Asset.memory config.memoryFile,
    config.source Asset.profiles config.profilesFile, config.source Asset.loader config.loaderFile]

end Config

end SoloScript
