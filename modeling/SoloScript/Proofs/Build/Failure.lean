import SoloScript.Proofs.Build.Course

/-!
# When a build fails

A build touches the tree only to write the script.  A failure before that leaves the tree as it
is; a failure to write leaves at most new directories above the output path.
-/

namespace SoloScript

open File

/-- A build that fails disturbs nothing in a tree with no draft in the way: the tree is as it was
if anything but writing has failed, and after a failure to write it is spared. -/
theorem build_error_spares (config : Config) (fetcher : Fetcher) (tree : Tree) (name : String)
    (failure : Failure) (wellFormed : tree.WellFormed)
    (named : config.outputPath.fileName? = some name) (ascends : ".." ∉ config.outputPath.segments)
    (clear : tree.entryAt? config.outputPath.draft = none)
    (failed : (build config fetcher tree).result = .error failure) :
    ((∀ path fault, failure ≠ .unwritable path fault) →
      (build config fetcher tree).tree = tree) ∧
    Artifact.Spares tree (build config fetcher tree).tree config.outputPath := by
  have course := course_build config fetcher tree
  generalize (build config fetcher tree).result = result at course failed
  generalize (build config fetcher tree).tree = after at course ⊢
  cases course with
  | unresolved | unassembled =>
    constructor
    · intro _
      rfl
    · exact .refl clear
  | unwritten resolved assembled unwritten =>
    cases failed
    constructor
    · intro other
      exact absurd rfl (other _ _)
    · exact Artifact.spares_of_error wellFormed named ascends clear unwritten
  | written => cases failed

/-- An artifact that is there already survives fetches that all fail. -/
theorem artifact_survives_failed_fetches :
    let tree := (Tree.empty ["w"]).set ["w", "_bundle.js"] (.file [97])
    let fetcher : Fetcher := fun source ↦ ⟨0, .error (.status source 404)⟩
    (build Config.default fetcher tree).tree = tree := by
  intro tree fetcher
  have named : Config.default.outputPath.fileName? = some "_bundle.js" := by cbv
  have segments : Config.default.outputPath.segments = ["_bundle.js"] := by cbv
  have draft : Config.default.outputPath.draft.segments = [] ++ ["_bundle.js.partial"] := by cbv
  have wellFormed : tree.WellFormed :=
    (Tree.wellFormed_empty ["w"]).set (Tree.get?_base (.empty ["w"])) (by decide)
  have clear : tree.entryAt? Config.default.outputPath.draft = none := by
    have isName := Path.isName_append_partial "_bundle.js"
    have child : Path.IsChild [] ("_bundle.js" ++ ".partial")
        Config.default.outputPath.draft.segments := by
      rw [draft]
      exact .concat Path.tidy_nil isName
    refine Tree.entryAt?_eq_none child isName fun directory reached ↦ ?_
    rw [reached.unique (Tree.reaches_nil tree)]
    decide
  have failed : (build Config.default fetcher tree).result =
      .error (.status (Config.default.source Asset.runtime Config.default.runtimeFile) 404) := by
    cbv
  exact (build_error_spares Config.default fetcher tree _ _ wellFormed named
    (by rw [segments]; decide) clear failed).1 (by simp)

end SoloScript
