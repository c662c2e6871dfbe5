import SoloScript.Http.Fetch
import SoloScript.Proofs.Build.Success
import SoloScript.Proofs.Resolution.FirstFailure

/-!
# What a failed build tells

Every asset that a script needs has a source, so a build never misses one.  An asset that has been
resolved is of the kind that its file name promises, so an assembly refuses an asset exactly if a
file name promises another kind than the script needs.
-/

namespace SoloScript

open Outcome Resolution Script

variable {config : Config} {fetcher : Fetcher} {assets : Assets} {failure : Failure}

/-! ## Needs -/

/-- The name, the file and the kind of each asset that a script needs, in the order in which they
are looked up. -/
def Config.needs (config : Config) : List (String × String × Asset.Kind) :=
  [(Asset.memory, config.memoryFile, .binary), (Asset.profiles, config.profilesFile, .text),
    (Asset.loader, config.loaderFile, .text), (Asset.runtime, config.runtimeFile, .text)]

/-- The name of a file promises another kind than is needed. -/
def Mismatch (file : String) (kind : Asset.Kind) : Prop :=
  ¬(kind = .binary ↔ "mem".toList <:+ file.toList)

/-- The first need whose file promises another kind is that for `name`. -/
def Config.FirstMismatch (config : Config) (name : String) (kind : Asset.Kind) : Prop :=
  ∃ before file after, config.needs = before ++ (name, file, kind) :: after ∧ Mismatch file kind ∧
    ∀ need ∈ before, ¬Mismatch need.2.1 need.2.2

theorem marksMemoryOnly_iff :
    config.MarksMemoryOnly ↔ ∀ need ∈ config.needs, ¬Mismatch need.2.1 need.2.2 := by
  simp only [Config.MarksMemoryOnly, Config.needs, List.forall_mem_cons, Mismatch, not_not, true_iff,
    false_iff, reduceCtorEq]
  constructor
  · rintro ⟨memory, runtime, profiles, loader, -⟩
    exact ⟨memory, profiles, loader, runtime, by simp⟩
  · rintro ⟨memory, profiles, loader, runtime, -⟩
    exact ⟨memory, runtime, profiles, loader, by simp⟩

theorem kind_source_ne_iff (config : Config) (name file : String) (kind : Asset.Kind) :
    (config.source name file).kind ≠ kind ↔ Mismatch file kind := by
  cases kind with
  | binary => simp [Mismatch, Config.kind_source_eq_binary_iff, Asset.Kind.binaryEnding]
  | text => simp [Mismatch, Config.kind_source_eq_text_iff, Asset.Kind.binaryEnding]

/-! ## Refused assets -/

theorem firstRefusal?_eq_findSome? (config : Config) (assets : Assets) :
    firstRefusal? assets = config.needs.findSome? fun need ↦ refusal? assets need.1 need.2.2 :=
  rfl

section Resolved

variable (resolved : (config.resolution fetcher).result = .ok assets)

include resolved

/-- Everything that is needed has been resolved, and is of the kind that its source promises. -/
theorem exists_asset_of_need (need : String × String × Asset.Kind) (mem : need ∈ config.needs) :
    ∃ asset, assets.get? need.1 = some asset ∧
      asset.kind = (config.source need.1 need.2.1).kind := by
  obtain ⟨runtime, memory, profiles, loader, -, runtimeKind, -, memoryKind, -, profilesKind, -,
    loaderKind, rfl⟩ := resolution_eq_ok_iff.1 resolved
  obtain ⟨hr, hm, hp, hl⟩ := get?_fourAssets runtime memory profiles loader
  simp only [Config.needs, List.mem_cons, List.not_mem_nil, or_false] at mem
  rcases mem with rfl | rfl | rfl | rfl
  · exact ⟨memory, hm, memoryKind⟩
  · exact ⟨profiles, hp, profilesKind⟩
  · exact ⟨loader, hl, loaderKind⟩
  · exact ⟨runtime, hr, runtimeKind⟩

/-- An asset is refused exactly for a mismatch. -/
theorem refusal?_cases (need : String × String × Asset.Kind) (mem : need ∈ config.needs) :
    Mismatch need.2.1 need.2.2 ∧
      refusal? assets need.1 need.2.2 = some (.wrongKind need.1 need.2.2) ∨
    ¬Mismatch need.2.1 need.2.2 ∧ refusal? assets need.1 need.2.2 = none := by
  obtain ⟨asset, found, kind⟩ := exists_asset_of_need resolved need mem
  rw [← kind_source_ne_iff config need.1, ← kind, refusal?, found]
  by_cases fits : asset.kind = need.2.2
  · exact .inr ⟨by simp [fits], by simp [fits]⟩
  · exact .inl ⟨fits, by simp [fits]⟩

theorem firstRefusal?_eq_some_iff :
    firstRefusal? assets = some failure ↔
      ∃ name kind, config.FirstMismatch name kind ∧ failure = .wrongKind name kind := by
  rw [firstRefusal?_eq_findSome? config, List.findSome?_eq_some_iff]
  constructor
  · rintro ⟨before, ⟨name, file, kind⟩, after, split, refused, free⟩
    have mem : (name, file, kind) ∈ config.needs := by simp [split]
    rcases refusal?_cases resolved _ mem with ⟨mismatch, wrong⟩ | ⟨-, none⟩
    · refine ⟨name, kind, ⟨before, file, after, split, mismatch, fun need earlier ↦ ?_⟩,
        Option.some.inj (refused.symm.trans wrong)⟩
      rcases refusal?_cases resolved need (by simp [split, earlier]) with ⟨-, wrong⟩ | ⟨fits, -⟩
      · rw [free need earlier] at wrong
        cases wrong
      · exact fits
    · rw [none] at refused
      cases refused
  · rintro ⟨name, kind, ⟨before, file, after, split, mismatch, free⟩, rfl⟩
    refine ⟨before, (name, file, kind), after, split, ?_, fun need earlier ↦ ?_⟩
    · have mem : (name, file, kind) ∈ config.needs := by simp [split]
      exact ((refusal?_cases resolved _ mem).resolve_right fun h ↦ h.1 mismatch).2
    · have mem : need ∈ config.needs := by simp [split, earlier]
      exact ((refusal?_cases resolved _ mem).resolve_left fun h ↦ free need earlier h.1).2

theorem firstRefusal?_eq_none_iff : firstRefusal? assets = none ↔ config.MarksMemoryOnly := by
  rw [firstRefusal?_eq_findSome? config, List.findSome?_eq_none_iff, marksMemoryOnly_iff]
  refine forall₂_congr fun need mem ↦ ?_
  rcases refusal?_cases resolved need mem with ⟨mismatch, wrong⟩ | ⟨fits, none⟩
  · simp [mismatch, wrong]
  · simp [fits, none]

theorem exists_firstMismatch_iff :
    (∃ name kind, config.FirstMismatch name kind) ↔ ¬config.MarksMemoryOnly := by
  rw [← firstRefusal?_eq_none_iff resolved, ← ne_eq, Option.ne_none_iff_exists']
  constructor
  · rintro ⟨name, kind, first⟩
    exact ⟨_, (firstRefusal?_eq_some_iff resolved).2 ⟨name, kind, first, rfl⟩⟩
  · rintro ⟨failure, refused⟩
    obtain ⟨name, kind, first, -⟩ := (firstRefusal?_eq_some_iff resolved).1 refused
    exact ⟨name, kind, first⟩

/-- An assembly ends with a refusal, or with a body that is missing. -/
theorem failure_of_ofConfig (failed : ofConfig config assets = .error failure) :
    firstRefusal? assets = some failure ∨
      config.MarksMemoryOnly ∧ ∃ anchor missing, failure = .body anchor missing := by
  rcases assemble_cases (.braces config.maxScanBytes) config.profilesPrefix config.memoryPrefix
    assets with ⟨refusal, refused, met⟩ | ⟨free, memory, profiles, loader, runtime, -, -, -, -, met⟩
  · rw [ofConfig, met] at failed
    exact .inl (refused.trans (congrArg some (Except.error.inj failed)))
  · refine .inr ⟨(firstRefusal?_eq_none_iff resolved).1 free, ?_⟩
    rw [ofConfig, met] at failed
    rcases bind_eq_error_iff.1 failed with loaderFails | ⟨patched, -, failed⟩
    · exact ⟨_, exists_missing_of_braces loaderFails⟩
    · rcases bind_eq_error_iff.1 failed with runtimeFails | ⟨patched', -, done⟩
      · exact ⟨_, exists_missing_of_braces runtimeFails⟩
      · cases done

/-- The first mismatch is what an assembly ends with. -/
theorem ofConfig_eq_wrongKind_iff {name : String} {kind : Asset.Kind} :
    ofConfig config assets = .error (.wrongKind name kind) ↔ config.FirstMismatch name kind := by
  constructor
  · intro failed
    rcases failure_of_ofConfig resolved failed with refused | ⟨-, anchor, missing, other⟩
    · obtain ⟨_, _, first, same⟩ := (firstRefusal?_eq_some_iff resolved).1 refused
      cases same
      exact first
    · cases other
  · intro first
    have refused := (firstRefusal?_eq_some_iff resolved).2 ⟨name, kind, first, rfl⟩
    rcases assemble_cases (.braces config.maxScanBytes) config.profilesPrefix config.memoryPrefix
      assets with ⟨refusal, refused', met⟩ | ⟨free, -⟩
    · rw [ofConfig, met, ← Option.some.inj (refused'.symm.trans refused)]
    · rw [free] at refused
      cases refused

end Resolved

/-! ## Failures of a build -/

/-- The failure of a resolution is that of one of its fetches. -/
theorem exists_failsWith_of_resolve {fetches : List (Asset.Source × Fetching)}
    (failed : (resolve fetches).result = .error failure) :
    ∃ fetch ∈ fetches, FailsWith fetch failure := by
  simp only [resolve, map_eq_error_iff] at failed
  obtain ⟨slot, mem, outcome⟩ := outcome_of_rounds_error failed
  obtain ⟨⟨source, fetching⟩, there, rfl⟩ := List.mem_map.1 mem
  exact ⟨_, there, failsWith_iff.2 (map_eq_error_iff.1 outcome)⟩

/-- A fetcher fails only in ways of its own: the exchange does not come to an end, or its answer is
not a success. -/
def Fetcher.Honest (fetcher : Fetcher) : Prop :=
  ∀ source failure, (fetcher source).outcome = .error failure →
    (∃ source' fault, failure = .fetch source' fault) ∨
      ∃ source' code, failure = .status source' code

/-- Fetching over a network fails only in such ways. -/
theorem honest_fetch (network : Http.Network) : Fetcher.Honest (Http.fetch network) := by
  intro source failure failed
  rw [Http.fetch] at failed
  split at failed
  · cases failed
    exact .inl ⟨_, _, rfl⟩
  · split at failed
    · cases failed
      exact .inl ⟨_, _, rfl⟩
    · simp only [Http.assetOf] at failed
      split at failed
      · split at failed
        · cases failed
          exact .inl ⟨_, _, rfl⟩
        · split at failed <;> cases failed
      · cases failed
        exact .inr ⟨_, _, rfl⟩

/-- No resolution misses an asset. -/
theorem Fetcher.Honest.ne_missingAsset (honest : fetcher.Honest) (name : String)
    (failed : (config.resolution fetcher).result = .error failure) :
    failure ≠ .missingAsset name := by
  obtain ⟨fetch, mem, fails⟩ := exists_failsWith_of_resolve failed
  obtain ⟨source, -, same⟩ := List.mem_map.1 mem
  generalize fetching : fetcher source = fetched at same
  subst same
  cases fails with
  | fetch delay =>
    rcases honest source failure (by rw [fetching]) with ⟨_, _, rfl⟩ | ⟨_, _, rfl⟩ <;> simp
  | kind => simp

/-- A build fails in resolving, in assembling or in writing. -/
theorem build_error_cases {tree : File.Tree}
    (failed : (build config fetcher tree).result = .error failure) :
    (config.resolution fetcher).result = .error failure ∨
      (∃ assets, (config.resolution fetcher).result = .ok assets ∧
        ofConfig config assets = .error failure) ∨
      ∃ path fault, failure = .unwritable path fault := by
  have course := course_build config fetcher tree
  generalize (build config fetcher tree).tree = after at course
  rw [failed] at course
  cases course with
  | unresolved failed => exact .inl failed
  | unassembled resolved failed => exact .inr (.inl ⟨_, resolved, failed⟩)
  | unwritten => exact .inr (.inr ⟨_, _, rfl⟩)

/-- What ends an assembly ends the build. -/
theorem build_eq_error_of_ofConfig (tree : File.Tree)
    (resolved : (config.resolution fetcher).result = .ok assets)
    (failed : ofConfig config assets = .error failure) :
    (build config fetcher tree).result = .error failure := by
  have course := course_build config fetcher tree
  generalize (build config fetcher tree).result = result at course ⊢
  generalize (build config fetcher tree).tree = after at course
  cases course with
  | unresolved unresolved => cases resolved.symm.trans unresolved
  | unassembled resolved' failed' =>
    cases resolved.symm.trans resolved'
    cases failed'.symm.trans failed
    rfl
  | unwritten resolved' assembled | written resolved' assembled =>
    cases resolved.symm.trans resolved'
    cases failed.symm.trans assembled

/-- What a build ends with, if its fetches end only with failures of their own.  An asset is never
missing.  Once the resolution has come to an end, the build ends with the first mismatch of a file
name; and if there is none, then with a body that is missing, or with the script that could not be
written. -/
theorem build_diagnosis (config : Config) (fetcher : Fetcher) (tree : File.Tree)
    (honest : fetcher.Honest) :
    (∀ name, (build config fetcher tree).result ≠ .error (.missingAsset name)) ∧
    ∀ assets, (config.resolution fetcher).result = .ok assets →
      (∀ failure, ofConfig config assets = .error failure →
        (build config fetcher tree).result = .error failure) ∧
      ((∃ name kind, ofConfig config assets = .error (.wrongKind name kind)) ↔
        ¬config.MarksMemoryOnly) ∧
      (∀ name kind, ofConfig config assets = .error (.wrongKind name kind) ↔
        config.FirstMismatch name kind) ∧
      (config.MarksMemoryOnly → ∀ failure, (build config fetcher tree).result = .error failure →
        (∃ anchor, failure = .body anchor .noAnchor) ∨
        (∃ anchor scanned, failure = .body anchor (.unbalanced scanned)) ∨
        ∃ path fault, failure = .unwritable path fault) := by
  constructor
  · intro name failed
    rcases build_error_cases failed with failed | ⟨assets, resolved, failed⟩ | ⟨_, _, other⟩
    · exact honest.ne_missingAsset name failed rfl
    · rcases failure_of_ofConfig resolved failed with refused | ⟨-, _, _, other⟩
      · obtain ⟨_, _, -, other⟩ := (firstRefusal?_eq_some_iff resolved).1 refused
        cases other
      · cases other
    · cases other
  · intro assets resolved
    refine ⟨fun failure ↦ build_eq_error_of_ofConfig tree resolved, ?_,
      fun name kind ↦ ofConfig_eq_wrongKind_iff resolved, fun marks failure failed ↦ ?_⟩
    · simp only [ofConfig_eq_wrongKind_iff resolved, ← exists_firstMismatch_iff resolved]
    · rcases build_error_cases failed with unresolved | ⟨_, resolved', failed⟩ | unwritable
      · cases resolved.symm.trans unresolved
      · cases resolved.symm.trans resolved'
        rcases failure_of_ofConfig resolved failed with refused | ⟨-, anchor, missing, rfl⟩
        · rw [(firstRefusal?_eq_none_iff resolved).2 marks] at refused
          cases refused
        · cases missing with
          | noAnchor => exact .inl ⟨anchor, rfl⟩
          | unbalanced scanned => exact .inr (.inl ⟨anchor, scanned, rfl⟩)
      · exact .inr (.inr unwritable)

/-- A memory image whose file name promises a text is refused, whether or not texts come. -/
theorem build_refuses_memory_text :
    let config : Config := { Config.default with memoryFile := "quiet-emscripten.js.bin" }
    let fetcher : Fetcher := fun source ↦
      ⟨0, if source.kind = .text then .ok (.text "") else .error (.status source 404)⟩
    (build config fetcher (.empty ["w"])).result = .error (.wrongKind Asset.memory .binary) := by
  intro config fetcher
  have honest : fetcher.Honest := by
    intro source failure failed
    simp only [fetcher] at failed
    split at failed
    · cases failed
    · cases failed
      exact .inr ⟨source, 404, rfl⟩
  have brings (name file : String) (text : ¬"mem".toList <:+ file.toList) :
      (config.source name file).kind = .text ∧
        (fetcher (config.source name file)).outcome = .ok (.text "") := by
    have kind : (config.source name file).kind = .text :=
      (Config.kind_source_eq_text_iff config name file).2 text
    exact ⟨kind, by simp [fetcher, kind]⟩
  have runtime := brings Asset.runtime config.runtimeFile (by decide +kernel)
  have memory := brings Asset.memory config.memoryFile (by decide +kernel)
  have profiles := brings Asset.profiles config.profilesFile (by decide +kernel)
  have loader := brings Asset.loader config.loaderFile (by decide +kernel)
  have resolved := resolution_eq_ok_iff.2 ⟨_, _, _, _, runtime.2, runtime.1.symm, memory.2,
    memory.1.symm, profiles.2, profiles.1.symm, loader.2, loader.1.symm, rfl⟩
  have first : config.FirstMismatch Asset.memory .binary :=
    ⟨[], config.memoryFile, _, rfl, by simp only [Mismatch]; decide +kernel, by simp⟩
  obtain ⟨-, diagnosis⟩ := build_diagnosis config fetcher (.empty ["w"]) honest
  obtain ⟨ends, -, wrong, -⟩ := diagnosis _ resolved
  exact ends _ ((wrong _ _).2 first)

end SoloScript
