import SoloScript.Config.Basic
import SoloScript.Json.Value

/-!
# Fields of a configuration

A field has a key in a configuration file and takes either a text or a whole number.
-/

namespace SoloScript.Config

open Json

/-- The fields, in the order of a configuration that is given as an array. -/
inductive Field where
  | repositoryBaseUrl
  | runtimeFile
  | memoryFile
  | profilesFile
  | loaderFile
  | profilesPrefix
  | memoryPrefix
  | outputPath
  | maxScanBytes
  | requestTimeout
deriving DecidableEq, Repr

namespace Field

def all : List Field :=
  [repositoryBaseUrl, runtimeFile, memoryFile, profilesFile, loaderFile, profilesPrefix,
    memoryPrefix, outputPath, maxScanBytes, requestTimeout]

def key : Field → String
  | repositoryBaseUrl => "repository_base_url"
  | runtimeFile => "runtime_file"
  | memoryFile => "runtime_memory_file"
  | profilesFile => "profiles_file"
  | loaderFile => "loader_file"
  | profilesPrefix => "profiles_prefix"
  | memoryPrefix => "memory_initializer_prefix"
  | outputPath => "output_path"
  | maxScanBytes => "max_scan_len"
  | requestTimeout => "request_timeout_secs"

def ofKey? (key : String) : Option Field := all.find? (·.key = key)

/-- Reads a value for a field of a configuration. -/
def read (field : Field) (config : Config) (c : Cursor) : Except Fault (Read Config c) :=
  let text (set : String → Config) := (Value.text "a string" c).map (Read.map set)
  match field with
  | repositoryBaseUrl => text fun value ↦ { config with repositoryBaseUrl := value }
  | runtimeFile => text fun value ↦ { config with runtimeFile := value }
  | memoryFile => text fun value ↦ { config with memoryFile := value }
  | profilesFile => text fun value ↦ { config with profilesFile := value }
  | loaderFile => text fun value ↦ { config with loaderFile := value }
  | profilesPrefix => text fun value ↦ { config with profilesPrefix := value }
  | memoryPrefix => text fun value ↦ { config with memoryPrefix := value }
  | outputPath =>
    (Value.text "path string" c).map (Read.map fun value ↦ { config with outputPath := ⟨value⟩ })
  | maxScanBytes =>
    (Value.natural "usize" c).map (Read.map fun value ↦ { config with maxScanBytes := value })
  | requestTimeout =>
    (Value.natural "u64" c).map (Read.map fun value ↦ { config with requestTimeout := value })

end Field

end SoloScript.Config
