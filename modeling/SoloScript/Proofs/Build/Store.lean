import SoloScript.Build
import SoloScript.Proofs.File.Storage
import SoloScript.Proofs.Text.Utf8

/-!
# Storing the script

A script is either stored at its path, with all directories above it, or the failure is told and
the tree is spared.
-/

namespace SoloScript

open File Text

/-- A script is stored exactly if nothing is in its way; otherwise nothing is disturbed. -/
theorem stored_or_spared (tree : Tree) (path : Path) (name code : String)
    (wellFormed : tree.WellFormed) (named : path.fileName? = some name)
    (ascends : ".." ∉ path.segments) (limits : path.WithinLimits)
    (clear : tree.entryAt? path.draft = none) :
    (Artifact.Accepts tree path name ∧ (Build.store tree path code).1 = .ok () ∧
      ∃ prepared slot,
        Artifact.Stores tree (Build.store tree path code).2.1 path (Utf8.encode code) prepared
          slot) ∨
    (¬Artifact.Accepts tree path name ∧
      (∃ fault, (Build.store tree path code).1 = .error (.unwritable path fault)) ∧
      Artifact.Spares tree (Build.store tree path code).2.1 path) := by
  have succeeds := Artifact.write_eq_ok_iff wellFormed named ascends limits clear (Utf8.encode code)
  simp only [Build.store]
  cases stored : (Artifact.write tree path (Utf8.encode code)).result with
  | ok =>
    have stores := Artifact.exists_stores_of_write wellFormed named ascends limits clear stored
    exact .inl ⟨succeeds.1 stored, rfl, stores⟩
  | error fault =>
    have refused : ¬Artifact.Accepts tree path name := by
      rw [← succeeds, stored]
      simp
    have spares := Artifact.spares_of_error wellFormed named ascends clear stored
    exact .inr ⟨refused, ⟨fault, rfl⟩, spares⟩

/-- A link at the path is replaced, and what it leads to is not written. -/
theorem store_over_link :
    let tree := (Tree.empty ["w"]).set ["w", "bundle.js"] (.link ⟨"old.js"⟩)
    ∃ prepared slot,
      Artifact.Stores tree (Build.store tree ⟨"bundle.js"⟩ "let mem=").2.1 ⟨"bundle.js"⟩
        (Utf8.encode "let mem=") prepared slot := by
  intro tree
  have wellFormed : tree.WellFormed :=
    (Tree.wellFormed_empty ["w"]).set (Tree.get?_base (.empty ["w"])) (by decide)
  have isName : Path.IsName "bundle.js" := by
    constructor <;> decide
  have segments : Path.segments ⟨"bundle.js"⟩ = [] ++ ["bundle.js"] := by decide +kernel
  have draftSegments : (Path.draft ⟨"bundle.js"⟩).segments = [] ++ ["bundle.js.partial"] := by decide +kernel
  have limits : Path.WithinLimits ⟨"bundle.js"⟩ := ⟨by decide +kernel, by rw [segments]; decide⟩
  have draftLimits : (Path.draft ⟨"bundle.js"⟩).WithinLimits :=
    ⟨by decide +kernel, by rw [draftSegments]; decide⟩
  have entry := Tree.entryAt?_of_split segments Path.tidy_nil isName limits (Tree.reaches_nil tree)
  have clear := Tree.entryAt?_of_split draftSegments Path.tidy_nil
    (Path.isName_append_partial "bundle.js") draftLimits (Tree.reaches_nil tree)
  have ancestors : (Path.ancestors ⟨"bundle.js"⟩).tail = [] := by decide +kernel
  have accepts : Artifact.Accepts tree ⟨"bundle.js"⟩ "bundle.js" :=
    ⟨by simp [ancestors], by rw [entry]; decide, by rw [segments]; rfl, draftLimits⟩
  obtain ⟨-, -, stores⟩ | ⟨refused, -⟩ := stored_or_spared tree ⟨"bundle.js"⟩ "bundle.js" "let mem="
    wellFormed (by decide +kernel) (by rw [segments]; decide) limits (clear.trans (by decide))
  · exact stores
  · exact absurd accepts refused

/-- A name of 250 letters is within the limits, and that of its draft is not. -/
theorem long_name_refused (name : String) (letters : name.toList = List.replicate 250 'a') :
    let tree := Tree.empty ["w"]
    let path : Path := ⟨name⟩
    path.ancestors.tail = [] ∧ path.WithinLimits ∧ tree.entryAt? path = none ∧
      tree.entryAt? path.draft = none ∧ (Build.store tree path "\x7b\x7d").1 ≠ .ok () := by
  intro tree path
  have only : ∀ c ∈ name.toList, c = 'a' := by
    rw [letters]
    exact fun c mem ↦ List.eq_of_mem_replicate mem
  have size : Utf8.size name.toList = 250 := by
    rw [letters, Utf8.size_replicate]
    decide
  have isName : Path.IsName name := by
    have idle : name ≠ "" ∧ name ≠ "." ∧ name ≠ ".." := by
      refine ⟨?_, ?_, ?_⟩ <;> rintro rfl <;> exact absurd size (by decide)
    simpa [Path.IsName, Path.isIdle, and_assoc] using idle
  have segments : path.segments = [name] := by
    have free : '/' ∉ name.toList := fun mem ↦ absurd (only _ mem) (by decide)
    simp [path, Path.segments, pieces_of_notMem free]
  have named : path.fileName? = some name := by
    simp [Path.fileName?, segments, Path.dropIdle, isName.1, isName.2]
  have above : Path.parentSegments? path.segments = some [] := by
    simp [segments, Path.parentSegments?, Path.dropIdle, isName.ne_empty]
  have child : Path.IsChild [] name path.segments := segments ▸ .concat Path.tidy_nil isName
  have draftSegments := Path.segments_draft named above child
  have draftName := Path.isName_append_partial name
  have limits : path.WithinLimits := by
    refine ⟨Path.fault?_eq_none_iff.2 ⟨?_, ?_, ?_⟩, ?_⟩
    · exact fun mem ↦ absurd (only _ mem) (by decide)
    · exact isName.ne_empty
    · exact size.le.trans (by decide)
    · simp [segments, Tree.isTooLong, Tree.maxNameBytes, size]
  have bare (name : String) : tree.get? (tree.base ++ [name]) = none := by
    simp [tree, Tree.empty, Tree.get?]
  have absent (path : Path) (name : String) (isName : Path.IsName name)
      (segments : path.segments = [] ++ [name]) : tree.entryAt? path = none := by
    have child : Path.IsChild [] name path.segments := segments ▸ .concat Path.tidy_nil isName
    refine Tree.entryAt?_eq_none child isName fun directory reached ↦ ?_
    rw [reached.unique (Tree.reaches_nil tree), bare]
  have clear := absent path.draft _ draftName draftSegments
  refine ⟨?_, limits, absent path name isName segments, clear, fun stored ↦ ?_⟩
  · rw [Artifact.ancestors_tail above, Path.lineage_of_none rfl]
    rfl
  · have ascends : ".." ∉ path.segments := by
      simpa [segments] using isName.2.symm
    have accepts := (Artifact.write_eq_ok_iff (Tree.wellFormed_empty ["w"]) named ascends limits
      clear (Utf8.encode "\x7b\x7d")).1 (Outcome.mapError_eq_ok_iff.1 stored)
    refine accepts.draft.short (name ++ ".partial") (by simp [draftSegments]) ?_
    rw [Tree.isTooLong, String.toList_append, Utf8.size_append, size]
    decide

/-- A link to the directory that it lies in is passed on the way to that directory. -/
theorem reaches_through_link :
    ((Tree.empty ["w"]).set ["w", "x"] (.link ⟨"."⟩)).Reaches ["x"] ["w"] := by
  generalize same : (Tree.empty ["w"]).set ["w", "x"] (.link ⟨"."⟩) = tree
  have through : tree.move ["w"] "x" = .through ⟨"."⟩ := by
    rw [← same]
    rfl
  have dot : Path.segments ⟨"."⟩ = ["."] := by decide
  have start : Path.start ⟨"."⟩ ["w"] = ["w"] := by decide
  have origin : Path.origin ["x"] tree.base = ["w"] := by
    rw [← same]
    rfl
  have inside : tree.isDirectory ["w"] := by
    rw [← same]
    decide
  refine ⟨39, ?_, inside⟩
  rw [origin, Tree.advance, through]
  simp only [Tree.maxLinks, dot, start, List.append_nil]
  exact Tree.advance_idle inside (by decide)

/-- A path runs through the link at its end, and nothing is in its way. -/
theorem accepts_through_link :
    let tree := (Tree.empty ["w"]).set ["w", "x"] (.link ⟨"."⟩)
    let path : Path := ⟨"x/x"⟩
    Artifact.Accepts tree path "x" ∧ path.WithinLimits ∧ tree.entryAt? path.draft = none ∧
      tree.RunsThroughItself path := by
  intro tree path
  have isName : Path.IsName "x" := by
    constructor <;> decide
  have tidy : Path.Tidy ["x"] := Path.tidy_of_getLast? rfl isName
  have segments : path.segments = ["x"] ++ ["x"] := by decide
  have above : Path.segments ⟨"x"⟩ = ["x"] := by decide
  have draftSegments : path.draft.segments = ["x"] ++ ["x.partial"] := by decide
  have limits : path.WithinLimits := ⟨by decide, by rw [segments]; decide⟩
  have draftLimits : path.draft.WithinLimits := ⟨by decide, by rw [draftSegments]; decide⟩
  have entry := Tree.entryAt?_of_split segments tidy isName limits reaches_through_link
  have clear := (Tree.entryAt?_of_split draftSegments tidy (Path.isName_append_partial "x")
    draftLimits reaches_through_link).trans (by decide : _ = none)
  have accepts : Artifact.Accepts tree path "x" := by
    have ancestors : path.ancestors.tail = [⟨"x"⟩] := by
      rw [Artifact.ancestors_tail (by decide : _ = some ["x"]),
        Path.lineage_of_some (by decide : _ = some []), Path.lineage_of_none rfl]
      decide
    have there : tree.hasDirectory ⟨"x"⟩ :=
      Tree.hasDirectory_of_reaches ⟨by decide, by rw [above]; decide⟩
        (by rw [above]; decide) (above ▸ reaches_through_link)
    exact ⟨by simpa [ancestors] using .inl there, by rw [entry]; decide, by rw [segments]; rfl,
      draftLimits⟩
  have through : tree.RunsThroughItself path := by
    have child : Path.IsChild ["x"] "x" path.segments := segments ▸ .concat tidy isName
    have tidy : Path.Tidy path.segments := Path.tidy_of_getLast? (by rw [segments]; rfl) isName
    have placed := Tree.slot_of_reaches child tidy limits reaches_through_link
    refine ⟨_, ⟨"."⟩, placed, entry.trans (by decide), fun again ↦ ?_⟩
    have back : (tree.erase ["w", "x"]).Reaches ([] ++ ["x"]) ["w"] :=
      Tree.reaches_of_slot child tidy again
    obtain ⟨directory, reached, found⟩ := back.of_append_cons isName.ne_empty
    rw [reached.unique (Tree.reaches_nil _)] at found
    exact found isName (by decide)
  exact ⟨accepts, limits, clear, through⟩

/-- A path that runs through the link at its end leads nowhere when the link has been replaced, and
a path whose draft has too long a name is refused. -/
theorem store_exceptions :
    (let tree := (Tree.empty ["w"]).set ["w", "x"] (.link ⟨"."⟩)
     let path : Path := ⟨"x/x"⟩
     Artifact.Accepts tree path "x" ∧ path.WithinLimits ∧ tree.entryAt? path.draft = none ∧
      (Build.store tree path "\x7b\x7d").1 = .ok () ∧
      (Build.store tree path "\x7b\x7d").2.1.entryAt? path = none) ∧
    (let tree := Tree.empty ["w"]
     let path : Path := ⟨String.ofList (List.replicate 250 'a')⟩
     path.ancestors.tail = [] ∧ path.WithinLimits ∧ tree.entryAt? path = none ∧
      tree.entryAt? path.draft = none ∧ (Build.store tree path "\x7b\x7d").1 ≠ .ok ()) := by
  refine ⟨?_, long_name_refused _ String.toList_ofList⟩
  intro tree path
  obtain ⟨accepts, limits, clear, through⟩ := accepts_through_link
  have wellFormed : tree.WellFormed :=
    (Tree.wellFormed_empty ["w"]).set (Tree.get?_base (.empty ["w"])) (by decide)
  have named : path.fileName? = some "x" := by decide +kernel
  have ascends : ".." ∉ path.segments := by decide +kernel
  have written := (Artifact.write_eq_ok_iff wellFormed named ascends limits clear
    (Utf8.encode "\x7b\x7d")).2 accepts
  obtain ⟨prepared, slot, stores⟩ :=
    Artifact.exists_stores_of_write wellFormed named ascends limits clear written
  exact ⟨accepts, limits, clear, Outcome.mapError_eq_ok_iff.2 written, stores.lost through⟩

end SoloScript
