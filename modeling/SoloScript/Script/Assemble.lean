import SoloScript.Config.Basic
import SoloScript.Failure
import SoloScript.Json.StringLiteral
import SoloScript.Script.BinaryLiteral
import SoloScript.Script.Fragments
import SoloScript.Script.TemplateLiteral

/-!
# Assembling the script

The script is six statements.  The first binds the memory image; the loader and the runtime follow,
each with one body replaced, so that the loader takes its profiles from the script and the runtime
takes its memory from the binding.
-/

namespace SoloScript.Script

/-- A way of replacing the body behind an anchor: of a source, an anchor and a replacement. -/
abbrev Replacer := String → String → String → Except Failure String

namespace Replacer

/-- Replaces what stands between the braces behind the anchor. -/
def braces (bound : Nat) : Replacer := fun source anchor replacement ↦
  (Body.replace source anchor replacement bound).mapError (.body anchor)

end Replacer

/-! ## Assets -/

def textAsset (assets : Assets) (name : String) : Except Failure String :=
  match assets.get? name with
  | none => .error (.missingAsset name)
  | some asset =>
    match asset.text? with
    | none => .error (.wrongKind name .text)
    | some text => .ok text

def binaryAsset (assets : Assets) (name : String) : Except Failure (List UInt8) :=
  match assets.get? name with
  | none => .error (.missingAsset name)
  | some asset =>
    match asset.bytes? with
    | none => .error (.wrongKind name .binary)
    | some bytes => .ok bytes

/-! ## Statements -/

/-- The name that the memory image is bound to. -/
def memoryBinding : String := "mem"

/-- The anchor of the loader's function that asks for the profiles. -/
def profilesAnchor : String := "setProfilesPrefix"

/-- The anchor of the runtime's function that asks for the memory image. -/
def memoryAnchor : String := "Module[\"readAsync\"]"

def bindMemory (memory : List UInt8) : String :=
  "let " ++ memoryBinding ++ "=" ++ BinaryLiteral.encode memory

def passProfiles (profiles : String) : String :=
  "onProfilesFetch(" ++ TemplateLiteral.encode profiles ++ ")"

def passMemory : String := "onload(" ++ memoryBinding ++ ");"

def initialise (profilesPrefix memoryPrefix : String) : String :=
  "Quiet.init(\x7bprofilesPrefix: " ++ Json.StringLiteral.encode profilesPrefix
    ++ ", memoryInitializerPrefix: " ++ Json.StringLiteral.encode memoryPrefix ++ "\x7d)"

def attachModule : String := "Quiet.Module=Module"

def exportLoader : String := "module.exports=Quiet"

/-- The six statements; the first thing that is wrong decides the failure. -/
def assemble (replacer : Replacer) (profilesPrefix memoryPrefix : String) (assets : Assets) :
    Except Failure Fragments := do
  let memory ← binaryAsset assets Asset.memory
  let profiles ← textAsset assets Asset.profiles
  let loader ← textAsset assets Asset.loader
  let runtime ← textAsset assets Asset.runtime
  let loader ← replacer loader profilesAnchor (passProfiles profiles)
  let runtime ← replacer runtime memoryAnchor passMemory
  return ⟨[bindMemory memory, loader, initialise profilesPrefix memoryPrefix, runtime,
    attachModule, exportLoader]⟩

/-- The script of a configuration. -/
def ofConfig (config : Config) (assets : Assets) : Except Failure Fragments :=
  assemble (.braces config.maxScanBytes) config.profilesPrefix config.memoryPrefix assets

end SoloScript.Script
