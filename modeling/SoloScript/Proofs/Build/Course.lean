import SoloScript.Build
import SoloScript.Proofs.File.Artifact

/-!
# The course of a build

A build gets stuck in resolving the assets, or in assembling the script, or it goes on to write the
script.  Only then does it touch the tree.
-/

namespace SoloScript

open File

variable {config : Config} {fetcher : Fetcher} {tree after : Tree} {report : Report}

/-- What comes of resolving the sources of a configuration. -/
def Config.resolution (config : Config) (fetcher : Fetcher) : Resolution :=
  resolve (config.sources.map fun source ↦ (source, fetcher source))

/-- What comes of writing a script to the output path. -/
def Config.artifact (config : Config) (tree : Tree) (code : String) : Artifact :=
  Artifact.write tree config.outputPath (Text.Utf8.encode code)

/-- The result of a build and the tree after it, by how far the build has got. -/
inductive Course (config : Config) (fetcher : Fetcher) (tree : Tree) :
    Except Failure Report → Tree → Prop where
  | unresolved {failure : Failure} (failed : (config.resolution fetcher).result = .error failure) :
      Course config fetcher tree (.error failure) tree
  | unassembled {assets : Assets} {failure : Failure}
      (resolved : (config.resolution fetcher).result = .ok assets)
      (failed : Script.ofConfig config assets = .error failure) :
      Course config fetcher tree (.error failure) tree
  | unwritten {assets : Assets} {script : Script.Fragments} {fault : Fault}
      (resolved : (config.resolution fetcher).result = .ok assets)
      (assembled : Script.ofConfig config assets = .ok script)
      (failed : (config.artifact tree script.render).result = .error fault) :
      Course config fetcher tree (.error (.unwritable config.outputPath fault))
        (config.artifact tree script.render).tree
  | written {assets : Assets} {script : Script.Fragments}
      (resolved : (config.resolution fetcher).result = .ok assets)
      (assembled : Script.ofConfig config assets = .ok script)
      (written : (config.artifact tree script.render).result = .ok ()) :
      Course config fetcher tree
        (.ok ⟨config.outputPath, Text.Utf8.size script.render.toList, script.size⟩)
        (config.artifact tree script.render).tree

theorem course_build (config : Config) (fetcher : Fetcher) (tree : Tree) :
    Course config fetcher tree (build config fetcher tree).result
      (build config fetcher tree).tree := by
  rw [build]
  cases resolved : (resolve (config.sources.map fun source ↦ (source, fetcher source))).result with
  | error failure => exact .unresolved resolved
  | ok assets =>
    cases assembled : Script.ofConfig config assets with
    | error failure =>
      simp only [assembled]
      exact .unassembled resolved assembled
    | ok script =>
      simp only [assembled, Build.store]
      cases stored : (Artifact.write tree config.outputPath
          (Text.Utf8.encode script.render)).result with
      | error fault => exact .unwritten resolved assembled stored
      | ok => exact .written resolved assembled stored

/-- A build that succeeds has got to its end, and its script is written. -/
theorem build_eq_ok_iff :
    (build config fetcher tree).result = .ok report ∧ (build config fetcher tree).tree = after ↔
      ∃ assets script,
        (config.resolution fetcher).result = .ok assets ∧
        Script.ofConfig config assets = .ok script ∧
        (config.artifact tree script.render).result = .ok () ∧
        (config.artifact tree script.render).tree = after ∧
        report = ⟨config.outputPath, Text.Utf8.size script.render.toList, script.size⟩ := by
  have course := course_build config fetcher tree
  generalize (build config fetcher tree).result = result at course ⊢
  generalize (build config fetcher tree).tree = left at course ⊢
  cases course with
  | unresolved failed => simp [failed]
  | unassembled resolved failed => simp [resolved, failed]
  | unwritten resolved assembled failed => simp [resolved, assembled, failed]
  | written resolved assembled written => simp [resolved, assembled, written, eq_comm, and_comm]

end SoloScript
