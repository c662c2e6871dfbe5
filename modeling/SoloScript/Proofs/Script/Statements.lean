import SoloScript.Proofs.Json.StringLiteral
import SoloScript.Proofs.Script.Assemble
import SoloScript.Proofs.Script.BinaryLiteral
import SoloScript.Proofs.Script.Fragments

/-!
# The statements of a script

Whatever the assets and the prefixes are, only the loader and the runtime can hold a separator: the
other statements are on one line.  So the memory image can be read back from the script alone.
-/

namespace SoloScript.Script

open SoloScript.Text Fragments

/-! ## Statements on one line -/

theorem newline_notMem_append {first second : String} (h : '\n' ∉ first.toList)
    (h' : '\n' ∉ second.toList) : '\n' ∉ (first ++ second).toList := by
  rw [String.toList_append, List.mem_append, not_or]
  exact ⟨h, h'⟩

theorem newline_notMem_base64 (bytes : List UInt8) : '\n' ∉ Base64.encode bytes := by
  obtain ⟨digits, written, all⟩ := Base64.encode_eq_digits_append bytes
  rw [written, List.mem_append, List.mem_replicate]
  rintro (mem | ⟨-, same⟩)
  · exact absurd (all _ mem) (by decide)
  · exact absurd same (by decide)

theorem newline_notMem_bindMemory (memory : List UInt8) : '\n' ∉ (bindMemory memory).toList := by
  have binds : '\n' ∉ "let mem=".toList := by decide
  have opens : '\n' ∉ BinaryLiteral.opening.toList := by decide
  have closes : '\n' ∉ BinaryLiteral.closing.toList := by decide
  have payload : '\n' ∉ (String.ofList (Base64.encode memory)).toList := by
    rw [String.toList_ofList]
    exact newline_notMem_base64 memory
  rw [bindMemory_eq, BinaryLiteral.encode]
  exact newline_notMem_append binds
    (newline_notMem_append (newline_notMem_append opens payload) closes)

theorem newline_notMem_quoted (text : String) :
    '\n' ∉ (Json.StringLiteral.encode text).toList := by
  rw [Json.StringLiteral.encode, String.toList_ofList]
  exact fun mem ↦ absurd (Json.StringLiteral.le_toNat_of_mem_write mem) (by decide)

theorem newline_notMem_initialise (profilesPrefix memoryPrefix : String) :
    '\n' ∉ (initialise profilesPrefix memoryPrefix).toList := by
  have opens : '\n' ∉ "Quiet.init(\x7bprofilesPrefix: ".toList := by decide
  have between : '\n' ∉ ", memoryInitializerPrefix: ".toList := by decide
  have closes : '\n' ∉ "\x7d)".toList := by decide
  have first := newline_notMem_append opens (newline_notMem_quoted profilesPrefix)
  have second := newline_notMem_append (newline_notMem_append first between)
    (newline_notMem_quoted memoryPrefix)
  exact newline_notMem_append second closes

theorem separator_absent {statement : String} (free : '\n' ∉ statement.toList) :
    ¬separator.toList <:+: statement.toList :=
  fun inside ↦ free (inside.subset (by decide))

/-! ## Reading the memory image back -/

/-- A script that has been assembled is six statements, of which only the loader and the runtime can
hold a separator.  What precedes the first separator of the script binds the literal of the memory
image; the script ends with the last two statements; and of its pieces six are left if none comes
from within the loader or the runtime. -/
theorem memory_survives (config : Config) (assets : Assets) (fragments : Fragments)
    (assembled : ofConfig config assets = .ok fragments) :
    ∃ binding loader setup runtime attachment exports : String,
      fragments.toList = [binding, loader, setup, runtime, attachment, exports] ∧
      (∀ statement ∈ [binding, setup, attachment, exports],
        ¬separator.toList <:+: statement.toList) ∧
      (∃ rest, splitFirst separator.toList fragments.render.toList =
        some (binding.toList, rest)) ∧
      (∃ memory literal, assets.get? Asset.memory = some (.binary memory) ∧
        binding = "let mem=" ++ literal ∧ BinaryLiteral.decode? literal = some memory) ∧
      ";\nQuiet.Module=Module;\nmodule.exports=Quiet".toList <:+ fragments.render.toList ∧
      (cuts separator.toList fragments.render.toList).length =
        6 + occurrences separator.toList loader.toList +
          occurrences separator.toList runtime.toList := by
  obtain ⟨memory, profiles, loader, runtime, loader', runtime', image, -, -, -, -, -, rfl⟩ :=
    assemble_eq_ok_iff.1 assembled
  have binds := separator_absent (newline_notMem_bindMemory memory)
  have sets := separator_absent
    (newline_notMem_initialise config.profilesPrefix config.memoryPrefix)
  have attaches : ¬separator.toList <:+: attachModule.toList := separator_absent (by decide +kernel)
  have exports : ¬separator.toList <:+: exportLoader.toList := separator_absent (by decide +kernel)
  refine ⟨_, loader', _, runtime', _, _, rfl, ?_, splitFirst_render binds, ?_, ?_, ?_⟩
  · simp only [List.forall_mem_cons]
    exact ⟨binds, sets, attaches, exports, by simp⟩
  · exact ⟨memory, _, image, bindMemory_eq memory, BinaryLiteral.decode?_encode memory⟩
  · have ending : ";\nQuiet.Module=Module;\nmodule.exports=Quiet".toList =
        separator.toList ++ (render ⟨[attachModule, exportLoader]⟩).toList := by decide +kernel
    have ends := separator_append_suffix_render
      [bindMemory memory, loader', initialise config.profilesPrefix config.memoryPrefix, runtime']
      [attachModule, exportLoader] (by simp) (by simp)
    rw [ending]
    exact ends
  · rw [cuts_render (by simp)]
    simp only [List.flatMap_cons, List.flatMap_nil, List.length_append, length_cuts_separator,
      occurrences_eq_zero binds, occurrences_eq_zero sets, occurrences_eq_zero attaches,
      occurrences_eq_zero exports, List.length_nil]
    omega

/-- The loader and the runtime bring a separator each, and the prefix, which has one, brings none. -/
theorem separators_of_two_statements :
    let config : Config := { Config.default with profilesPrefix := ";\n" }
    let assets := Assets.ofList
      [(Asset.memory, .binary [0, 59, 10]), (Asset.profiles, .text "\x7b\x7d"),
        (Asset.loader, .text ";;\nsetProfilesPrefix\x7b\x7d"),
        (Asset.runtime, .text "Module[\"readAsync\"]\x7b\x7d;\n")]
    ∃ fragments, ofConfig config assets = .ok fragments ∧
      (cuts separator.toList fragments.render.toList).length = 8 := by
  intro config assets
  have loader : Replacer.braces config.maxScanBytes ";;\nsetProfilesPrefix\x7b\x7d" profilesAnchor
      (passProfiles "\x7b\x7d") = .ok ";;\nsetProfilesPrefix\x7bonProfilesFetch(`\x7b\x7d`)\x7d" :=
    braces_eq_ok_iff.2
      ⟨⟨";;\nsetProfilesPrefix\x7b".toList, [], ['\x7d']⟩, by decide +kernel, by decide +kernel⟩
  have runtime : Replacer.braces config.maxScanBytes "Module[\"readAsync\"]\x7b\x7d;\n" memoryAnchor
      passMemory = .ok "Module[\"readAsync\"]\x7bonload(mem);\x7d;\n" :=
    braces_eq_ok_iff.2
      ⟨⟨"Module[\"readAsync\"]\x7b".toList, [], "\x7d;\n".toList⟩, by decide +kernel,
        by decide +kernel⟩
  have assembled : ofConfig config assets = .ok ⟨[bindMemory [0, 59, 10],
      ";;\nsetProfilesPrefix\x7bonProfilesFetch(`\x7b\x7d`)\x7d",
      initialise config.profilesPrefix config.memoryPrefix,
      "Module[\"readAsync\"]\x7bonload(mem);\x7d;\n", attachModule, exportLoader]⟩ :=
    assemble_eq_ok_iff.2 ⟨[0, 59, 10], "\x7b\x7d", _, _, _, _, by decide, by decide, by decide,
      by decide, loader, runtime, rfl⟩
  obtain ⟨binding, loader', setup, runtime', attachment, exports, same, -, -, -, -, pieces⟩ :=
    memory_survives config assets _ assembled
  obtain ⟨rfl, rfl, rfl, rfl, rfl, rfl⟩ : _ ∧ _ ∧ _ ∧ _ ∧ _ ∧ _ := by simpa using same
  exact ⟨_, assembled, pieces.trans (by decide +kernel)⟩

end SoloScript.Script
