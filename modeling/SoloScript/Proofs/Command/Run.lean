import SoloScript.Command.Run
import SoloScript.Proofs.Build.Overwrite
import SoloScript.Proofs.Build.Success
import SoloScript.Proofs.Config.Reader
import SoloScript.Proofs.Http.Fetch
import SoloScript.Proofs.Text.Utf8

/-!
# What a run comes to

A run that bundles does so with one configuration, which the options and the working directory
determine; only a configuration that is named can be refused.  The code tells whether the build
succeeds, and with it whether the script is at the output path or what was there before.
-/

namespace SoloScript

open File Text

/-! ## What a build leaves at its output path -/

section Output

variable {config : Config} {fetcher : Fetcher} {tree : Tree} {name : String}
  (wellFormed : tree.WellFormed) (named : config.outputPath.fileName? = some name)
  (ascends : ".." ∉ config.outputPath.segments)
  (clear : tree.entryAt? config.outputPath.draft = none)

include wellFormed named ascends clear

/-- A build that succeeds leaves the whole script, and reports its size. -/
theorem exists_code_of_build {report : Report} (direct : ¬tree.RunsThroughItself config.outputPath)
    (built : (build config fetcher tree).result = .ok report) :
    ∃ code, config.Makes fetcher code ∧
      (build config fetcher tree).tree.entryAt? config.outputPath =
        some (.file (Utf8.encode code)) ∧
      report.path = config.outputPath ∧ report.bytes = (Utf8.encode code).length := by
  obtain ⟨assets, script, resolved, assembled, written, same, rfl⟩ :=
    build_eq_ok_iff.1 ⟨built, rfl⟩
  refine ⟨script.render, makes_of_ofConfig resolved assembled, ?_, rfl, ?_⟩
  · obtain ⟨spares, draft, slot, slots, stored⟩ :=
      Artifact.exists_slots_of_write wellFormed named ascends clear written
    rw [← same, Config.artifact, stored]
    rw [← spares.runsThroughItself_iff] at direct
    exact slots.entryAt?_output direct
  · rw [Utf8.encode_eq_bytes, Utf8.length_bytes]

/-- A build that fails leaves what was there. -/
theorem entryAt?_of_build_error {failure : Failure}
    (failed : (build config fetcher tree).result = .error failure) :
    (build config fetcher tree).tree.entryAt? config.outputPath =
      tree.entryAt? config.outputPath := by
  have course := course_build config fetcher tree
  rw [failed] at course
  generalize (build config fetcher tree).tree = after at course ⊢
  cases course with
  | unresolved | unassembled => rfl
  | unwritten resolved assembled unwritten =>
    exact (Artifact.spares_of_error wellFormed named ascends clear unwritten).output

end Output

namespace Command

open Log

variable {options : Options} {tree : Tree} {network : Http.Network} {config : Config}
  {failure : Failure}

/-! ## The configuration of a run -/

/-- Where the options name no configuration, one of the working directory is taken, or else the
default. -/
inductive Options.Chooses (options : Options) (tree : Tree) : Config → Prop where
  | named {path : Path} {config : Config} (asked : options.config = some path)
      (loaded : Config.load tree path = .ok config) : options.Chooses tree config
  | found {config : Config} (unasked : options.config = none)
      (loaded : Config.load tree (Path.child ⟨"."⟩ Config.defaultFile) = .ok config) :
      options.Chooses tree config
  | standard {failure : Failure} (unasked : options.config = none)
      (failed : Config.load tree (Path.child ⟨"."⟩ Config.defaultFile) = .error failure) :
      options.Chooses tree Config.default

/-- The configuration that is named cannot be loaded. -/
def Options.Refuses (options : Options) (tree : Tree) (failure : Failure) : Prop :=
  ∃ path, options.config = some path ∧ Config.load tree path = .error failure

/-- A configuration with the output path that the options name, if they do. -/
def Options.redirect (options : Options) (config : Config) : Config :=
  { config with outputPath := options.output.getD config.outputPath }

theorem Options.chooses_discover (unasked : options.config = none) :
    options.Chooses tree (Config.discover tree ⟨"."⟩) := by
  rw [Config.discover]
  cases loaded : Config.load tree (Path.child ⟨"."⟩ Config.defaultFile) with
  | error failure => exact .standard unasked loaded
  | ok config => exact .found unasked loaded

/-- Either the configuration that is named is refused, or one is chosen and redirected. -/
theorem Options.effective_cases (options : Options) (tree : Tree) :
    (∃ failure, options.Refuses tree failure ∧ options.effective tree = .error failure) ∨
      ∃ config, options.Chooses tree config ∧
        options.effective tree = .ok (options.redirect config) := by
  cases asked : options.config with
  | none => exact .inr ⟨_, chooses_discover asked, by rw [Options.effective, asked]; rfl⟩
  | some path =>
    cases loaded : Config.load tree path with
    | error failure =>
      refine .inl ⟨failure, ⟨path, asked, loaded⟩, ?_⟩
      simp only [Options.effective, asked, loaded]
      rfl
    | ok config =>
      refine .inr ⟨config, .named asked loaded, ?_⟩
      simp only [Options.effective, asked, loaded]
      rfl

/-! ## Runs that bundle -/

/-- What a run that bundles leaves behind: its configuration is refused, or the build with it fails
or succeeds. -/
inductive Course (options : Options) (tree : Tree) (network : Http.Network) : Outcome → Prop where
  | refused {failure : Failure} (refuses : options.Refuses tree failure) :
      Course options tree network
        ⟨1, "", renderFailure failure.message failure.causes, tree, [], []⟩
  | failed {config : Config} {failure : Failure} {built : Build}
      (chooses : options.Chooses tree config)
      (build_eq : build (options.redirect config) (Http.fetch network) tree = built)
      (failed : built.result = .error failure) :
      Course options tree network
        ⟨1, "", renderFailure ("failed to bundle into " ++ (options.redirect config).outputPath.text)
          (failure.message :: failure.causes), built.tree, built.started, built.events⟩
  | finished {config : Config} {report : Report} {built : Build}
      (chooses : options.Chooses tree config)
      (build_eq : build (options.redirect config) (Http.fetch network) tree = built)
      (succeeded : built.result = .ok report) :
      Course options tree network
        ⟨0, "", "", built.tree, built.started, built.events ++ [.finished report.path report.bytes]⟩

theorem course_bundle (options : Options) (tree : Tree) (network : Http.Network) :
    Course options tree network (bundle options tree network) := by
  rcases options.effective_cases tree with ⟨failure, refuses, met⟩ | ⟨config, chooses, met⟩
  · simp only [bundle, met]
    exact .refused refuses
  · simp only [bundle, met]
    generalize build_eq : build (options.redirect config) (Http.fetch network) tree = built
    cases result : built.result with
    | error failure => exact .failed chooses build_eq result
    | ok report => exact .finished chooses build_eq result

/-- The last event is shown, unless the environment asks for less. -/
theorem getLast?_shown_concat (events : List Event) (event : Event) :
    (shown none (events ++ [event])).getLast? = some event := by
  have admitted : (filter none).admits event = true := by
    cases event <;> rfl
  rw [shown, List.filter_append, List.filter_singleton, admitted]
  simp

/-- What a run with `config` has come to.  The last two fields are about output paths that end in a
name and do not ascend, with nothing in the place of the draft. -/
structure Outcome.Bundles (outcome : Outcome) (config : Config) (network : Http.Network)
    (tree : Tree) : Prop where
  success : outcome.code = 0 ↔ ∃ report, (build config (Http.fetch network) tree).result = .ok report
  failure : outcome.code = 1 ↔
    ∃ failure, (build config (Http.fetch network) tree).result = .error failure
  /-- With code 0 the whole script is at the output path, and its size is the last that is told.
  Only where there are links can a path run through itself, and then it is lost. -/
  written : ∀ name, config.outputPath.fileName? = some name →
    ".." ∉ config.outputPath.segments → tree.entryAt? config.outputPath.draft = none →
    tree.LinkFree ∨ ¬tree.RunsThroughItself config.outputPath → outcome.code = 0 →
    ∃ code, config.Makes (Http.fetch network) code ∧
      outcome.tree.entryAt? config.outputPath = some (.file (Utf8.encode code)) ∧
      (shown none outcome.events).getLast? =
        some (.finished config.outputPath (Utf8.encode code).length)
  /-- With code 1 the output path leads to what was there before. -/
  kept : ∀ name, config.outputPath.fileName? = some name →
    ".." ∉ config.outputPath.segments → tree.entryAt? config.outputPath.draft = none →
    outcome.code = 1 → outcome.tree.entryAt? config.outputPath = tree.entryAt? config.outputPath

theorem bundles_of_error {outcome : Outcome} (wellFormed : tree.WellFormed)
    (failed : (build config (Http.fetch network) tree).result = .error failure)
    (code : outcome.code = 1)
    (same : outcome.tree = (build config (Http.fetch network) tree).tree) :
    outcome.Bundles config network tree where
  success := by simp [code, failed]
  failure := by simp [code, failed]
  written := by simp [code]
  kept name named ascends clear _ := by
    rw [same]
    exact entryAt?_of_build_error wellFormed named ascends clear failed

theorem bundles_of_ok {outcome : Outcome} {report : Report} (wellFormed : tree.WellFormed)
    (built : (build config (Http.fetch network) tree).result = .ok report)
    (code : outcome.code = 0)
    (same : outcome.tree = (build config (Http.fetch network) tree).tree)
    (last : (shown none outcome.events).getLast? = some (.finished report.path report.bytes)) :
    outcome.Bundles config network tree where
  success := by simp [code, built]
  failure := by simp [code, built]
  written name named ascends clear plain _ := by
    have direct : ¬tree.RunsThroughItself config.outputPath :=
      plain.elim (fun linkFree ↦ linkFree.not_runsThroughItself _) id
    obtain ⟨script, makes, there, path, bytes⟩ :=
      exists_code_of_build wellFormed named ascends clear direct built
    exact ⟨script, makes, by rw [same, there], by rw [last, path, bytes]⟩
  kept := by simp [code]

/-! ## Runs without a network -/

theorem fetch_offline_ne_ok (source : Asset.Source) (asset : Asset) :
    (Http.fetch .offline source).outcome ≠ .ok asset := by
  have silent (target : Http.Url) :
      Http.exchange .offline target = .error (.noAnswer target .unreachable) := rfl
  rw [Http.fetch]
  split
  · simp
  · simp only [silent]
    simp

/-- No build succeeds on a host without a network. -/
theorem exists_failure_of_offline (config : Config) (tree : Tree) :
    ∃ failure, (build config (Http.fetch .offline) tree).result = .error failure := by
  cases built : (build config (Http.fetch .offline) tree).result with
  | error failure => exact ⟨failure, rfl⟩
  | ok report =>
    obtain ⟨_, _, resolved, -⟩ := build_eq_ok_iff.1 ⟨built, rfl⟩
    obtain ⟨_, _, _, _, fetched, -⟩ := resolution_eq_ok_iff.1 resolved
    exact absurd fetched (fetch_offline_ne_ok _ _)

/-! ## A run with a network -/

/-- A configuration file that names a host. -/
def hostFile : String := "\x7b\"repository_base_url\": \"http://[::1]\"\x7d"

/-- What it stands for, with another output path. -/
def hostConfig : Config :=
  { Config.default with repositoryBaseUrl := "http://[::1]", outputPath := ⟨"b.js"⟩ }

def hostTree : Tree := (Tree.empty ["w"]).set ["w", "c.json"] (.file (Utf8.encode hostFile))

theorem load_hostTree : Config.load hostTree ⟨"c.json"⟩ =
    .ok { Config.default with repositoryBaseUrl := "http://[::1]" } := by
  have segments : Path.segments ⟨"c.json"⟩ = [] ++ ["c.json"] := by decide
  have bare : Path.Bare ⟨"c.json"⟩ "c.json" :=
    ⟨segments, by constructor <;> decide, by decide, by rw [segments]; decide⟩
  have kept : hostTree.read ⟨"c.json"⟩ = .ok (Utf8.encode hostFile) :=
    Tree.read_of_slot (bare.slot hostTree) (bare.fits hostTree.base) rfl
  have read : (Config.ofText? hostFile).toOption =
      some { Config.default with repositoryBaseUrl := "http://[::1]" } := by decide +kernel
  exact Config.load_of_ofText? kept (Outcome.toOption_eq_some_iff.1 read)

/-- A text in which both bodies are found. -/
def hostText : String := "setProfilesPrefix\x7b\x7dModule[\"readAsync\"]\x7b\x7d"

def hostAssets : Assets :=
  fourAssets (.text hostText) (.binary (Utf8.encode hostText)) (.text hostText) (.text hostText)

theorem resolution_of_host :
    (hostConfig.resolution (Http.fetch (Http.everywhere hostText))).result = .ok hostAssets := by
  have runtime : Http.requested (hostConfig.assetUrl hostConfig.runtimeFile) =
      .ok (Http.loopback "/quiet-emscripten.js") := Http.requested_loopback _ rfl (by decide)
  have memory : Http.requested (hostConfig.assetUrl hostConfig.memoryFile) =
      .ok (Http.loopback "/quiet-emscripten.js.mem") := Http.requested_loopback _ rfl (by decide)
  have profiles : Http.requested (hostConfig.assetUrl hostConfig.profilesFile) =
      .ok (Http.loopback "/quiet-profiles.json") := Http.requested_loopback _ rfl (by decide)
  have loader : Http.requested (hostConfig.assetUrl hostConfig.loaderFile) =
      .ok (Http.loopback "/quiet.js") := Http.requested_loopback _ rfl (by decide)
  exact resolution_eq_ok_iff.2 ⟨_, _, _, _, Http.text_of_everywhere runtime (by decide), by decide,
    Http.binary_of_everywhere memory (by decide), by decide,
    Http.text_of_everywhere profiles (by decide), by decide,
    Http.text_of_everywhere loader (by decide), by decide, rfl⟩

theorem exists_script_of_host : ∃ script, Script.ofConfig hostConfig hostAssets = .ok script := by
  obtain ⟨runtime, memory, profiles, loader⟩ : hostAssets.get? _ = _ ∧ hostAssets.get? _ = _ ∧
      hostAssets.get? _ = _ ∧ hostAssets.get? _ = _ := get?_fourAssets ..
  exact ⟨_, ofConfig_eq_ok_iff.2 ⟨_, _, _, _,
    ⟨"setProfilesPrefix\x7b".toList, [], "\x7dModule[\"readAsync\"]\x7b\x7d".toList⟩,
    ⟨"setProfilesPrefix\x7b\x7dModule[\"readAsync\"]\x7b".toList, [], "\x7d".toList⟩,
    memory, profiles, loader, runtime, by decide +kernel, by decide +kernel, rfl⟩⟩

theorem exists_report_of_host :
    ∃ report, (build hostConfig (Http.fetch (Http.everywhere hostText)) hostTree).result =
      .ok report := by
  obtain ⟨script, assembled⟩ := exists_script_of_host
  have absent : hostTree.get? ["w", "b.js.partial"] = none := rfl
  have unlinked (target : Path) : hostTree.get? ["w", "b.js.partial"] ≠ some (.link target) := by
    simp [absent]
  have places := bare_bundle.places bare_draft (bare_draft.locate unlinked)
    (Tree.isEnd_of_get?_eq_none absent) (by decide)
  have stored : (hostConfig.artifact hostTree script.render).result = .ok () := by
    rw [Config.artifact, hostConfig, bare_bundle.write, places.store_of_not_link unlinked]
  exact ⟨_, (build_eq_ok_iff.2 ⟨_, script, resolution_of_host, assembled, stored, rfl, rfl⟩).1⟩

/-! ## All runs -/

/-- What a run comes to, for every command line, tree and network.  A wrong command line ends with
code 2 and a question for help or the version with code 0, and neither changes the tree.  Otherwise
a configuration that is named but cannot be loaded ends the run before anything is asked for; and
if none is named, then the run is with that of the working directory, or with the default. -/
theorem run_outcome (words : List String) (tree : Tree) (network : Http.Network)
    (wellFormed : tree.WellFormed) :
    let outcome := run words tree network
    (∀ misuse, Request.ofWords words = .error misuse → outcome.code = 2 ∧ outcome.tree = tree) ∧
    (Request.ofWords words = .ok .help ∨ Request.ofWords words = .ok .version →
      outcome.code = 0 ∧ outcome.tree = tree) ∧
    ∀ options, Request.ofWords words = .ok (.bundle options) →
      (∃ path failure, options.config = some path ∧ Config.load tree path = .error failure ∧
        outcome.code = 1 ∧ outcome.started = [] ∧ outcome.tree = tree) ∨
      ∃ config, options.Chooses tree config ∧
        outcome.Bundles { config with outputPath := options.output.getD config.outputPath }
          network tree := by
  intro outcome
  refine ⟨fun misuse asked ↦ ?_, fun asked ↦ ?_, fun options asked ↦ ?_⟩
  · simp only [outcome, run, asked, and_self]
  · rcases asked with asked | asked <;> simp only [outcome, run, asked, and_self]
  · have ran : outcome = bundle options tree network := by
      simp only [outcome, run, asked]
    have course := course_bundle options tree network
    rw [← ran] at course
    clear_value outcome
    cases course with
    | refused refuses =>
      obtain ⟨path, named, failed⟩ := refuses
      exact .inl ⟨path, _, named, failed, rfl, rfl, rfl⟩
    | failed chooses build_eq failed =>
      subst build_eq
      exact .inr ⟨_, chooses, bundles_of_error wellFormed failed rfl rfl⟩
    | finished chooses build_eq succeeded =>
      subst build_eq
      exact .inr ⟨_, chooses,
        bundles_of_ok wellFormed succeeded rfl rfl (getLast?_shown_concat _ _)⟩

/-- A run without a network keeps the script that is there, whatever configuration it finds, and one
with a network stores the script. -/
theorem run_keeps_or_stores_script :
    (let tree := (Tree.empty ["w"]).set ["w", "b.js"] (.file [107])
     let outcome := run ["-o", "b.js"] tree .offline
     outcome.code = 1 ∧ outcome.tree.entryAt? ⟨"b.js"⟩ = some (.file [107])) ∧
    (let network := Http.everywhere hostText
     let outcome := run ["-c", "c.json", "-o", "b.js"] hostTree network
     outcome.code = 0 ∧ ∃ code, hostConfig.Makes (Http.fetch network) code ∧
      outcome.tree.entryAt? ⟨"b.js"⟩ = some (.file (Utf8.encode code)) ∧
      (shown none outcome.events).getLast? =
        some (.finished ⟨"b.js"⟩ (Utf8.encode code).length)) := by
  have named : Path.fileName? ⟨"b.js"⟩ = some "b.js" := by decide
  have ascends : ".." ∉ Path.segments ⟨"b.js"⟩ := by decide
  constructor
  · intro tree outcome
    have wellFormed : tree.WellFormed :=
      (Tree.wellFormed_empty ["w"]).set (Tree.get?_base (.empty ["w"])) (by decide)
    have asked : Request.ofWords ["-o", "b.js"] = .ok (.bundle ⟨none, some ⟨"b.js"⟩, false⟩) := rfl
    have clear : tree.entryAt? (Path.draft ⟨"b.js"⟩) = none := bare_draft.entryAt?_eq tree
    have there : tree.entryAt? ⟨"b.js"⟩ = some (.file [107]) := bare_bundle.entryAt?_eq tree
    obtain ⟨-, -, bundles⟩ := run_outcome ["-o", "b.js"] tree .offline wellFormed
    obtain ⟨_, _, refused, -⟩ | ⟨chosen, -, bundles⟩ := bundles _ asked
    · cases refused
    · have failed := bundles.failure.2 (exists_failure_of_offline _ _)
      exact ⟨failed, (bundles.kept "b.js" named ascends clear failed).trans there⟩
  · intro network outcome
    have wellFormed : hostTree.WellFormed :=
      (Tree.wellFormed_empty ["w"]).set (Tree.get?_base (.empty ["w"])) (by decide)
    have asked : Request.ofWords ["-c", "c.json", "-o", "b.js"] =
        .ok (.bundle ⟨some ⟨"c.json"⟩, some ⟨"b.js"⟩, false⟩) := rfl
    have clear : hostTree.entryAt? (Path.draft ⟨"b.js"⟩) = none := bare_draft.entryAt?_eq hostTree
    obtain ⟨-, -, bundles⟩ :=
      run_outcome ["-c", "c.json", "-o", "b.js"] hostTree network wellFormed
    obtain ⟨_, _, same, failed, -⟩ | ⟨chosen, chooses, bundles⟩ := bundles _ asked
    · cases same
      cases load_hostTree.symm.trans failed
    · cases chooses with
      | named same loaded =>
        cases same
        cases load_hostTree.symm.trans loaded
        have stored := bundles.success.2 exists_report_of_host
        exact ⟨stored, bundles.written "b.js" named ascends clear
          (.inr bare_bundle.not_runsThroughItself) stored⟩
      | found unasked => cases unasked
      | standard unasked => cases unasked

end Command

end SoloScript
