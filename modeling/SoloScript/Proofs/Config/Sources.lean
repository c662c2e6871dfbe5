import SoloScript.Config.Basic
import SoloScript.Proofs.Text.Substring

/-!
# Where the assets of a configuration are

The location of a source is a base and a file name with one slash between them, however many
slashes there were.  The kind of a source depends on the file name alone: joining it to the base
location neither makes nor destroys the ending that marks binary assets.
-/

namespace SoloScript

open Text

namespace Asset.Kind

theorem classify_eq_binary_iff (location : String) :
    classify location = binary ↔ binaryEnding.toList <:+ location.toList := by
  simp only [classify, ← List.isSuffixOf_iff_suffix]
  split <;> simp_all

end Asset.Kind

namespace Config

theorem toList_assetUrl (config : Config) (file : String) :
    (config.assetUrl file).toList =
      (trimEnd '/' config.repositoryBaseUrl).toList ++ '/' :: file.toList.dropWhile (· = '/') := by
  simp [assetUrl, trimStart]

/-- A source is binary exactly if the name of its file says so. -/
theorem kind_source_eq_binary_iff (config : Config) (name file : String) :
    (config.source name file).kind = .binary ↔
      Asset.Kind.binaryEnding.toList <:+ file.toList := by
  have slashFree : '/' ∉ Asset.Kind.binaryEnding.toList := by decide
  rw [Asset.Source.kind, Asset.Kind.classify_eq_binary_iff, source, toList_assetUrl,
    suffix_append_cons_iff slashFree, suffix_dropWhile_iff slashFree]

theorem kind_source_eq_text_iff (config : Config) (name file : String) :
    (config.source name file).kind = .text ↔
      ¬ Asset.Kind.binaryEnding.toList <:+ file.toList := by
  rw [← kind_source_eq_binary_iff config name file]
  cases (config.source name file).kind <;> simp

/-- Slashes behind the base and in front of the file name do not count. -/
theorem source_of_slashes (config : Config) (name file : String) (before behind : Nat) :
    ({ config with repositoryBaseUrl := config.repositoryBaseUrl ++ row '/' before }).source name
      (row '/' behind ++ file) = config.source name file := by
  rw [source, source, assetUrl, assetUrl, trimEnd_append_row, trimStart_row_append]

theorem exists_url_source_eq (config : Config) (name file : String) :
    ∃ base rest before behind, config.repositoryBaseUrl = base ++ row '/' before ∧
      file = row '/' behind ++ rest ∧ base.toList.getLast? ≠ some '/' ∧
      rest.toList.head? ≠ some '/' ∧ (config.source name file).url = base ++ "/" ++ rest := by
  obtain ⟨before, based⟩ := exists_eq_trimEnd_append_row '/' config.repositoryBaseUrl
  obtain ⟨behind, filed⟩ := exists_eq_row_append_trimStart '/' file
  exact ⟨_, _, before, behind, based, filed, getLast?_trimEnd_ne _ _, head?_trimStart_ne _ _, rfl⟩

/-- A source is where its file is, below the base: the slashes where the two meet come to one.  It
is binary exactly if the name of the file ends in `mem`, whatever the base.  There are four sources,
always with the same four names. -/
theorem sources_by_file_name (config : Config) :
    (∀ name file before behind,
      ({ config with repositoryBaseUrl := config.repositoryBaseUrl ++ row '/' before }).source name
        (row '/' behind ++ file) = config.source name file) ∧
    (∀ name file, ∃ base rest before behind,
      config.repositoryBaseUrl = base ++ row '/' before ∧ file = row '/' behind ++ rest ∧
      base.toList.getLast? ≠ some '/' ∧ rest.toList.head? ≠ some '/' ∧
      (config.source name file).url = base ++ "/" ++ rest) ∧
    (∀ name file, (config.source name file).kind = .binary ↔ "mem".toList <:+ file.toList) ∧
    config.sources = List.zipWith config.source
      ["quietEs", "quietEsMem", "quietProfiles", "quietBase"]
      [config.runtimeFile, config.memoryFile, config.profilesFile, config.loaderFile] ∧
    (config.sources.map (·.name)).Nodup := by
  refine ⟨config.source_of_slashes, config.exists_url_source_eq, config.kind_source_eq_binary_iff,
    rfl, ?_⟩
  have names : config.sources.map (·.name) =
      ["quietEs", "quietEsMem", "quietProfiles", "quietBase"] := rfl
  rw [names]
  decide

end Config

end SoloScript
