import SoloScript.Config.Field
import SoloScript.Proofs.Json.Typed

/-!
# Settings

A field of a configuration is of one of two kinds.  What it is set to is told from the text of its
value alone: a value is either taken for a setting or refused, and setting one field leaves the
others as they are.
-/

namespace SoloScript.Config

open Json Outcome

/-! ## Kinds -/

inductive Kind where
  | text
  | number

namespace Kind

/-- What a field of a kind is set to. -/
def Setting : Kind → Type
  | text => String
  | number => Nat

/-- What a value sets a field of a kind to. -/
def Means : (kind : Kind) → List Char → kind.Setting → Prop
  | text => IsText
  | number => IsNatural

def read (expected : String) : (kind : Kind) → (c : Cursor) → Except Fault (Read kind.Setting c)
  | text => Value.text expected
  | number => Value.natural expected

variable {kind : Kind} {value : List Char} {setting setting' : kind.Setting}

theorem Means.takes (expected : String) (h : kind.Means value setting) :
    Takes (kind.read expected) value setting := by
  cases kind with
  | text => exact IsText.takes expected h
  | number => exact IsNatural.takes expected h

theorem Means.unique (h : kind.Means value setting) (h' : kind.Means value setting') :
    setting = setting' :=
  (h.takes "").unique (h'.takes "")

/-- A value that is not of the kind is refused. -/
theorem means_or_takesNot (kind : Kind) (expected : String) (h : Valid .value value) :
    (∃ setting, kind.Means value setting) ∨ TakesNot (kind.read expected) value := by
  cases kind with
  | text => exact h.isText_or_takesNot expected
  | number => exact h.isNatural_or_takesNot expected

end Kind

/-! ## Fields -/

namespace Field

def kind : Field → Kind
  | maxScanBytes | requestTimeout => .number
  | _ => .text

/-- What a field is set to in a configuration. -/
def get (config : Config) : (field : Field) → field.kind.Setting
  | repositoryBaseUrl => config.repositoryBaseUrl
  | runtimeFile => config.runtimeFile
  | memoryFile => config.memoryFile
  | profilesFile => config.profilesFile
  | loaderFile => config.loaderFile
  | profilesPrefix => config.profilesPrefix
  | memoryPrefix => config.memoryPrefix
  | outputPath => config.outputPath.text
  | maxScanBytes => config.maxScanBytes
  | requestTimeout => config.requestTimeout

/-- Sets a field. -/
def put (config : Config) : (field : Field) → field.kind.Setting → Config
  | repositoryBaseUrl, value => { config with repositoryBaseUrl := value }
  | runtimeFile, value => { config with runtimeFile := value }
  | memoryFile, value => { config with memoryFile := value }
  | profilesFile, value => { config with profilesFile := value }
  | loaderFile, value => { config with loaderFile := value }
  | profilesPrefix, value => { config with profilesPrefix := value }
  | memoryPrefix, value => { config with memoryPrefix := value }
  | outputPath, value => { config with outputPath := ⟨value⟩ }
  | maxScanBytes, value => { config with maxScanBytes := value }
  | requestTimeout, value => { config with requestTimeout := value }

variable {field field' : Field} {config config' : Config}

theorem get_put (config : Config) (field : Field) (setting : field.kind.Setting) :
    field.get (field.put config setting) = setting := by
  cases field <;> rfl

theorem get_put_of_ne (other : field' ≠ field) (setting : field.kind.Setting) :
    field'.get (field.put config setting) = field'.get config := by
  cases field <;> cases field' <;> first | rfl | exact absurd rfl other

/-- What the reader of a field says that it expects. -/
def expected : Field → String
  | outputPath => "path string"
  | maxScanBytes => "usize"
  | requestTimeout => "u64"
  | _ => "a string"

/-- A field is read by its kind. -/
theorem read_eq (field : Field) (config : Config) (c : Cursor) :
    field.read config c =
      (field.kind.read field.expected c).map (Read.map (field.put config)) := by
  cases field <;> rfl

end Field

/-- A configuration is what its fields are set to. -/
theorem ext_get {config config' : Config}
    (same : ∀ field : Field, field.get config = field.get config') : config = config' := by
  have path : config.outputPath = config'.outputPath := congrArg File.Path.mk (same .outputPath)
  cases config
  cases config'
  rw [Config.mk.injEq]
  exact ⟨same .repositoryBaseUrl, same .runtimeFile, same .memoryFile, same .profilesFile,
    same .loaderFile, same .profilesPrefix, same .memoryPrefix, path, same .maxScanBytes,
    same .requestTimeout⟩

end SoloScript.Config
