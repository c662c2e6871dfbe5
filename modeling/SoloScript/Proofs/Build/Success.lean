import SoloScript.Proofs.Build.Course
import SoloScript.Proofs.Config.Sources
import SoloScript.Proofs.Resolution
import SoloScript.Proofs.Script.Assemble

/-!
# When a build succeeds

A build succeeds exactly if the file names promise the kinds that the script needs, every fetch
keeps its promise, both bodies are found, and the script can be written.  What is written is then
the script below, and nothing else.
-/

namespace SoloScript

open Outcome Resolution Text

/-! ## The script of a build -/

/-- The script that binds `memory`, passes `profiles` to the loader and the memory to the runtime,
each in the place of a body. -/
def Config.script (config : Config) (memory : List UInt8) (profiles : String)
    (loader runtime : Script.Body) : String :=
  "let mem=" ++ Script.BinaryLiteral.encode memory ++ ";\n"
    ++ loader.splice ("onProfilesFetch(" ++ Script.TemplateLiteral.encode profiles ++ ")") ++ ";\n"
    ++ ("Quiet.init(\x7bprofilesPrefix: " ++ Json.StringLiteral.encode config.profilesPrefix
      ++ ", memoryInitializerPrefix: " ++ Json.StringLiteral.encode config.memoryPrefix ++ "\x7d)")
    ++ ";\n" ++ runtime.splice "onload(mem);" ++ ";\n"
    ++ "Quiet.Module=Module" ++ ";\n" ++ "module.exports=Quiet"

/-- `code` is the script of the contents that the four fetches bring, with the bodies that are
located in the loader and in the runtime. -/
def Config.Makes (config : Config) (fetcher : Fetcher) (code : String) : Prop :=
  ∃ memory profiles loader runtime loaderBody runtimeBody,
    (fetcher (config.source Asset.memory config.memoryFile)).outcome = .ok (.binary memory) ∧
    (fetcher (config.source Asset.profiles config.profilesFile)).outcome = .ok (.text profiles) ∧
    (fetcher (config.source Asset.loader config.loaderFile)).outcome = .ok (.text loader) ∧
    (fetcher (config.source Asset.runtime config.runtimeFile)).outcome = .ok (.text runtime) ∧
    Script.Body.find loader "setProfilesPrefix" config.maxScanBytes = .ok loaderBody ∧
    Script.Body.find runtime "Module[\"readAsync\"]" config.maxScanBytes = .ok runtimeBody ∧
    code = config.script memory profiles loaderBody runtimeBody

/-- Of the four file names only that of the memory image ends like a binary asset. -/
def Config.MarksMemoryOnly (config : Config) : Prop :=
  "mem".toList <:+ config.memoryFile.toList ∧
    ∀ file ∈ [config.runtimeFile, config.profilesFile, config.loaderFile],
      ¬ "mem".toList <:+ file.toList

/-! ## Resolving the sources -/

theorem exists_cons_eq_map_ok {ε α : Type} {x : Except ε α} {xs : List (Except ε α)}
    {P : List α → Prop} :
    (∃ as, x :: xs = as.map .ok ∧ P as) ↔
      ∃ a, x = .ok a ∧ ∃ as, xs = as.map .ok ∧ P (a :: as) := by
  constructor
  · rintro ⟨as, h, hP⟩
    obtain ⟨a, as, rfl, rfl, rfl⟩ := List.map_eq_cons_iff.1 h.symm
    exact ⟨a, rfl, as, rfl, hP⟩
  · rintro ⟨a, rfl, as, rfl, hP⟩
    exact ⟨a :: as, rfl, hP⟩

/-- The assets of a configuration, by what each of its fetches has brought. -/
def fourAssets (runtime memory profiles loader : Asset) : Assets :=
  .ofList [(Asset.runtime, runtime), (Asset.memory, memory), (Asset.profiles, profiles),
    (Asset.loader, loader)]

theorem get?_fourAssets (runtime memory profiles loader : Asset) :
    (fourAssets runtime memory profiles loader).get? Asset.runtime = some runtime ∧
      (fourAssets runtime memory profiles loader).get? Asset.memory = some memory ∧
      (fourAssets runtime memory profiles loader).get? Asset.profiles = some profiles ∧
      (fourAssets runtime memory profiles loader).get? Asset.loader = some loader := by
  simp [fourAssets, Assets.ofList, Assets.get?_insert_of_ne, Asset.runtime, Asset.memory,
    Asset.profiles, Asset.loader]

theorem resolution_eq_ok_iff {config : Config} {fetcher : Fetcher} {assets : Assets} :
    (config.resolution fetcher).result = .ok assets ↔
      ∃ runtime memory profiles loader : Asset,
        (fetcher (config.source Asset.runtime config.runtimeFile)).outcome = .ok runtime ∧
        runtime.kind = (config.source Asset.runtime config.runtimeFile).kind ∧
        (fetcher (config.source Asset.memory config.memoryFile)).outcome = .ok memory ∧
        memory.kind = (config.source Asset.memory config.memoryFile).kind ∧
        (fetcher (config.source Asset.profiles config.profilesFile)).outcome = .ok profiles ∧
        profiles.kind = (config.source Asset.profiles config.profilesFile).kind ∧
        (fetcher (config.source Asset.loader config.loaderFile)).outcome = .ok loader ∧
        loader.kind = (config.source Asset.loader config.loaderFile).kind ∧
        fourAssets runtime memory profiles loader = assets := by
  simp only [Config.resolution, resolve_eq_ok_iff, Config.sources, List.map_cons, List.map_nil,
    exists_cons_eq_map_ok, Prod.exists, outcome_eq_ok_iff]
  constructor
  · rintro ⟨_, runtime, ⟨rfl, hr, kr⟩, _, memory, ⟨rfl, hm, km⟩, _, profiles, ⟨rfl, hp, kp⟩,
      _, loader, ⟨rfl, hl, kl⟩, rest, none, rfl⟩
    obtain rfl := List.map_eq_nil_iff.1 none.symm
    exact ⟨runtime, memory, profiles, loader, hr, kr, hm, km, hp, kp, hl, kl, rfl⟩
  · rintro ⟨runtime, memory, profiles, loader, hr, kr, hm, km, hp, kp, hl, kl, rfl⟩
    exact ⟨_, runtime, ⟨rfl, hr, kr⟩, _, memory, ⟨rfl, hm, km⟩, _, profiles, ⟨rfl, hp, kp⟩,
      _, loader, ⟨rfl, hl, kl⟩, [], rfl, rfl⟩

/-! ## From sources to a script -/

/-- The statements of a script, by the parts that they are made of. -/
def Config.statements (config : Config) (memory : List UInt8) (profiles : String)
    (loader runtime : Script.Body) : Script.Fragments :=
  ⟨[Script.bindMemory memory, loader.splice (Script.passProfiles profiles),
    Script.initialise config.profilesPrefix config.memoryPrefix, runtime.splice Script.passMemory,
    Script.attachModule, Script.exportLoader]⟩

theorem render_statements (config : Config) (memory : List UInt8) (profiles : String)
    (loader runtime : Script.Body) :
    (config.statements memory profiles loader runtime).render =
      config.script memory profiles loader runtime := by
  rw [Config.statements, Script.bindMemory_eq, Script.passProfiles_eq, Script.passMemory_eq]
  rfl

theorem ofConfig_eq_ok_iff {config : Config} {assets : Assets} {fragments : Script.Fragments} :
    Script.ofConfig config assets = .ok fragments ↔
      ∃ memory profiles loader runtime loaderBody runtimeBody,
        assets.get? Asset.memory = some (.binary memory) ∧
        assets.get? Asset.profiles = some (.text profiles) ∧
        assets.get? Asset.loader = some (.text loader) ∧
        assets.get? Asset.runtime = some (.text runtime) ∧
        Script.Body.find loader "setProfilesPrefix" config.maxScanBytes = .ok loaderBody ∧
        Script.Body.find runtime "Module[\"readAsync\"]" config.maxScanBytes = .ok runtimeBody ∧
        fragments = config.statements memory profiles loaderBody runtimeBody := by
  simp only [Script.ofConfig, Script.assemble_eq_ok_iff, Script.profilesAnchor_eq,
    Script.memoryAnchor_eq, Script.braces_eq_ok_iff]
  constructor
  · rintro ⟨memory, profiles, loader, runtime, _, _, hm, hp, hl, hr, ⟨loaderBody, hlb, rfl⟩,
      ⟨runtimeBody, hrb, rfl⟩, rfl⟩
    exact ⟨memory, profiles, loader, runtime, loaderBody, runtimeBody, hm, hp, hl, hr, hlb, hrb,
      rfl⟩
  · rintro ⟨memory, profiles, loader, runtime, loaderBody, runtimeBody, hm, hp, hl, hr, hlb, hrb,
      rfl⟩
    exact ⟨memory, profiles, loader, runtime, _, _, hm, hp, hl, hr, ⟨loaderBody, hlb, rfl⟩,
      ⟨runtimeBody, hrb, rfl⟩, rfl⟩

/-- What is assembled from resolved assets is the script of what their fetches bring. -/
theorem makes_of_ofConfig {config : Config} {fetcher : Fetcher} {assets : Assets}
    {fragments : Script.Fragments} (resolved : (config.resolution fetcher).result = .ok assets)
    (assembled : Script.ofConfig config assets = .ok fragments) :
    config.Makes fetcher fragments.render := by
  obtain ⟨_, _, _, _, hr, -, hm, -, hp, -, hl, -, rfl⟩ := resolution_eq_ok_iff.1 resolved
  obtain ⟨gr', gm', gp', gl'⟩ := get?_fourAssets ..
  obtain ⟨memory, profiles, loader, runtime, loaderBody, runtimeBody, gm, gp, gl, gr, hlb, hrb,
    rfl⟩ := ofConfig_eq_ok_iff.1 assembled
  cases gm'.symm.trans gm
  cases gp'.symm.trans gp
  cases gl'.symm.trans gl
  cases gr'.symm.trans gr
  exact ⟨memory, profiles, loader, runtime, loaderBody, runtimeBody, hm, hp, hl, hr, hlb, hrb,
    render_statements ..⟩

/-- A build ends with a report and a tree exactly if the file names promise the kinds that the
script needs, each of the four fetches brings content of its source's kind, both bodies are
located, and writing the script to the output path ends well and with that tree.  The script is
what the build writes, and the report tells where, how long it is, and that it has six
statements. -/
theorem build_succeeds_iff (config : Config) (fetcher : Fetcher) (tree after : File.Tree)
    (report : Report) :
    (build config fetcher tree).result = .ok report ∧ (build config fetcher tree).tree = after ↔
      config.MarksMemoryOnly ∧
      (∀ source ∈ config.sources, ∃ asset,
        (fetcher source).outcome = .ok asset ∧ asset.kind = source.kind) ∧
      ∃ code, config.Makes fetcher code ∧
        (File.Artifact.write tree config.outputPath (Utf8.encode code)).result = .ok () ∧
        (File.Artifact.write tree config.outputPath (Utf8.encode code)).tree = after ∧
        report = ⟨config.outputPath, Utf8.size code.toList, 6⟩ := by
  rw [build_eq_ok_iff]
  simp only [resolution_eq_ok_iff, ofConfig_eq_ok_iff]
  constructor
  · rintro ⟨_, _, ⟨runtimeAsset, memoryAsset, profilesAsset, loaderAsset, hr, kr, hm, km, hp, kp,
      hl, kl, rfl⟩, ⟨memory, profiles, loader, runtime, loaderBody, runtimeBody, gm, gp, gl, gr,
      hlb, hrb, rfl⟩, stored, rfl, rfl⟩
    obtain ⟨gr', gm', gp', gl'⟩ :=
      get?_fourAssets runtimeAsset memoryAsset profilesAsset loaderAsset
    obtain rfl := Option.some.inj (gm'.symm.trans gm)
    obtain rfl := Option.some.inj (gp'.symm.trans gp)
    obtain rfl := Option.some.inj (gl'.symm.trans gl)
    obtain rfl := Option.some.inj (gr'.symm.trans gr)
    have memoryEnds := (Config.kind_source_eq_binary_iff ..).1 km.symm
    have profilesEnds := (Config.kind_source_eq_text_iff ..).1 kp.symm
    have loaderEnds := (Config.kind_source_eq_text_iff ..).1 kl.symm
    have runtimeEnds := (Config.kind_source_eq_text_iff ..).1 kr.symm
    refine ⟨⟨memoryEnds, ?_⟩, ?_, _, ⟨memory, profiles, loader, runtime, loaderBody, runtimeBody,
      hm, hp, hl, hr, hlb, hrb, rfl⟩, ?_⟩
    · simp only [List.forall_mem_cons]
      exact ⟨runtimeEnds, profilesEnds, loaderEnds, by simp⟩
    · simp only [Config.sources, List.forall_mem_cons]
      exact ⟨⟨_, hr, kr⟩, ⟨_, hm, km⟩, ⟨_, hp, kp⟩, ⟨_, hl, kl⟩, by simp⟩
    · rw [← render_statements]
      exact ⟨stored, rfl, rfl⟩
  · rintro ⟨⟨memoryEnds, textsEnd⟩, -, _, ⟨memory, profiles, loader, runtime, loaderBody,
      runtimeBody, hm, hp, hl, hr, hlb, hrb, rfl⟩, stored, rfl, rfl⟩
    simp only [List.forall_mem_cons] at textsEnd
    obtain ⟨runtimeEnds, profilesEnds, loaderEnds, -⟩ := textsEnd
    have km := (Config.kind_source_eq_binary_iff config Asset.memory _).2 memoryEnds
    have kp := (Config.kind_source_eq_text_iff config Asset.profiles _).2 profilesEnds
    have kl := (Config.kind_source_eq_text_iff config Asset.loader _).2 loaderEnds
    have kr := (Config.kind_source_eq_text_iff config Asset.runtime _).2 runtimeEnds
    obtain ⟨gr, gm, gp, gl⟩ := get?_fourAssets (.text runtime) (.binary memory) (.text profiles)
      (.text loader)
    refine ⟨_, _, ⟨_, _, _, _, hr, kr.symm, hm, km.symm, hp, kp.symm, hl, kl.symm, rfl⟩,
      ⟨memory, profiles, loader, runtime, loaderBody, runtimeBody, gm, gp, gl, gr, hlb, hrb, rfl⟩,
      ?_⟩
    rw [render_statements]
    exact ⟨stored, rfl, rfl⟩

end SoloScript
