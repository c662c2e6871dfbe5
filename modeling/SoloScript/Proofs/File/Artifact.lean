import SoloScript.Proofs.File.Directories

/-!
# Lemmas on writing artifacts

Where there is no draft, a failure to write the draft or to move it leaves the tree as it is.
-/

namespace SoloScript.File.Artifact

open File.Tree

variable {tree drafted after : Tree} {path : Path} {slot : Slot} {bytes : List UInt8}

/-! ## Directories for an artifact -/

section Ancestors

variable {name : String} {parent : List String}

theorem ancestors_tail (above : Path.parentSegments? path.segments = some parent) :
    path.ancestors.tail = (Path.lineage parent).map Path.ofSegments := by
  rw [Path.ancestors, Path.lineage_of_some above, List.map_cons, List.tail_cons]

theorem free_parent (child : Path.IsChild parent name path.segments) {segment : String}
    (mem : segment ∈ parent) : '/' ∉ segment.toList :=
  Path.slash_notMem_of_mem_segments (child.mem_of_mem_parent mem)

theorem descends_ancestors (ascends : ".." ∉ path.segments)
    (above : Path.parentSegments? path.segments = some parent)
    (child : Path.IsChild parent name path.segments) :
    Path.Descends parent path.ancestors.tail := by
  rw [ancestors_tail above]
  refine Path.descends_lineage child.tidy (fun segment mem ↦ free_parent child mem) ?_
  intro mem
  exact ascends (child.mem_of_mem_parent mem)

theorem prepare_eq_makeLineage (above : Path.parentSegments? path.segments = some parent)
    (child : Path.IsChild parent name path.segments) :
    prepare tree path = tree.makeLineage path.ancestors.tail := by
  have free : ∀ segment ∈ parent, '/' ∉ segment.toList := fun segment mem ↦ free_parent child mem
  rw [ancestors_tail above]
  simp only [prepare, Path.parent?, above, Option.map_some]
  split
  · rename_i empty
    rw [Path.eq_nil_of_text_ofSegments free empty, Path.lineage_of_none rfl]
    rfl
  · rw [makeDirectories, Path.ancestors_ofSegments free]

theorem preparation_prepare (wellFormed : tree.WellFormed)
    (ascends : ".." ∉ path.segments) (above : Path.parentSegments? path.segments = some parent)
    (child : Path.IsChild parent name path.segments) :
    Preparation tree parent path.ancestors.tail (prepare tree path).1 (prepare tree path).2 := by
  rw [prepare_eq_makeLineage above child]
  exact preparation_makeLineage wellFormed (descends_ancestors ascends above child)

end Ancestors

/-! ## Drafts -/

theorem discard_of_absent {fault : Fault} (absent : tree.entryAt? path = none) :
    (discard tree path fault).tree = tree := by
  obtain ⟨other, failed⟩ := exists_fault_of_remove absent
  rw [discard, failed]
  split
  · contradiction
  · rfl
  · rfl

/-- If an artifact is not stored although there was no draft, the tree is as it was. -/
theorem store_of_error {parent : List String} {name : String} {fault : Fault}
    (split : path.draft.segments = parent ++ [name]) (named : Path.IsName name)
    (absent : tree.entryAt? path.draft = none) (h : (store tree path bytes).result = .error fault) :
    (store tree path bytes).tree = tree := by
  rw [store] at h ⊢
  cases written : tree.write path.draft bytes with
  | error fault => exact discard_of_absent absent
  | ok drafted =>
    obtain ⟨slot, placed, fits, new, rfl⟩ :=
      exists_slot_of_write_new split named absent written
    simp only [written] at h ⊢
    cases moved : (tree.set slot.location (.file bytes)).rename path.draft path with
    | ok after => simp [moved] at h
    | error other =>
      have within : tree.Within (tree.set slot.location (.file bytes)) := within_set new
      have found : (tree.set slot.location (.file bytes)).get? slot.location = some (.file bytes) :=
        get?_set (not_isPrefixOf_of_get?_eq_none new)
      have removed := remove_eq_ok_iff.2
        ⟨slot, _, within.slot_eq_ok placed, fits, found, by simp, (erase_set_of_new new).symm⟩
      simp only [discard, removed]

/-! ## Well-formed trees -/

theorem exists_prepare_eq_makeLineage (tree : Tree) (path : Path) :
    ∃ paths, prepare tree path = tree.makeLineage paths := by
  rw [prepare]
  split
  · exact ⟨[], rfl⟩
  · split
    · exact ⟨[], rfl⟩
    · exact ⟨_, rfl⟩

theorem wellFormed_prepare (wellFormed : tree.WellFormed) (path : Path) :
    (prepare tree path).1.WellFormed := by
  obtain ⟨paths, same⟩ := exists_prepare_eq_makeLineage tree path
  rw [same]
  exact wellFormed.makeLineage paths

theorem within_prepare (tree : Tree) (path : Path) : tree.Within (prepare tree path).1 := by
  obtain ⟨paths, same⟩ := exists_prepare_eq_makeLineage tree path
  rw [same]
  exact within_makeLineage tree paths

theorem wellFormed_discard (wellFormed : tree.WellFormed) (draft : Path) (fault : Fault) :
    (discard tree draft fault).tree.WellFormed := by
  rw [discard]
  split
  · rename_i removed
    exact wellFormed.remove removed
  · exact wellFormed
  · exact wellFormed

theorem wellFormed_store (wellFormed : tree.WellFormed) (path : Path) (bytes : List UInt8) :
    (store tree path bytes).tree.WellFormed := by
  rw [store]
  split
  · exact wellFormed_discard wellFormed _ _
  · rename_i written
    have wellFormed := wellFormed.write written
    split
    · exact wellFormed_discard wellFormed _ _
    · rename_i moved
      exact wellFormed.rename moved

/-- Whatever becomes of an artifact, the tree stays well formed. -/
theorem wellFormed_write (wellFormed : tree.WellFormed) (path : Path) (bytes : List UInt8) :
    (write tree path bytes).tree.WellFormed := by
  have prepared := wellFormed_prepare wellFormed path
  rw [write]
  split
  · rename_i same
    rwa [same] at prepared
  · rename_i same
    rw [same] at prepared
    exact wellFormed_store prepared _ _

/-! ## Failures to write an artifact -/

/-- What a failure to write an artifact to `path` leaves alone. -/
structure Spares (before after : Tree) (path : Path) : Prop where
  /-- Every entry is still there. -/
  within : before.Within after
  /-- What was in the place of the artifact, if anything was, is still there. -/
  output : after.entryAt? path = before.entryAt? path
  /-- If anything was there, nothing at all has changed, also not in a directory in that place. -/
  contents : before.entryAt? path ≠ none → after = before
  draft : after.entryAt? path.draft = none
  /-- What is new is a directory, at a place that one of the paths above leads to. -/
  added : ∀ location, before.get? location = none → after.get? location ≠ none →
    after.get? location = some .directory ∧
      ∃ ancestor ∈ path.ancestors.tail, after.locate false ancestor = .ok location

theorem Spares.refl (clear : tree.entryAt? path.draft = none) : Spares tree tree path where
  within := .refl tree
  output := rfl
  contents _ := rfl
  draft := clear
  added _ absent there := absurd absent there

theorem Spares.trans {between : Tree} (first : Spares tree between path)
    (second : Spares between after path) : Spares tree after path where
  within := first.within.trans second.within
  output := second.output.trans first.output
  contents there := by
    have same := first.contents there
    subst same
    exact second.contents there
  draft := second.draft
  added :=
    have adds (before after : Tree) (spares : Spares before after path) :
        AddsDirectories before after path.ancestors.tail := ⟨spares.within, spares.added⟩
    ((adds _ _ first).trans (adds _ _ second)).added

/-- What has nothing in the place of the artifact, before and after, is spared by new
directories. -/
theorem Spares.of_addsDirectories (adds : AddsDirectories tree after path.ancestors.tail)
    (before : tree.entryAt? path = none) (clear : after.entryAt? path = none)
    (draft : after.entryAt? path.draft = none) : Spares tree after path where
  within := adds.within
  output := by rw [before, clear]
  contents there := absurd before there
  draft := draft
  added := adds.added

/-- Making the directories for an artifact disturbs nothing. -/
theorem spares_prepare {name : String} (wellFormed : tree.WellFormed)
    (named : path.fileName? = some name) (ascends : ".." ∉ path.segments)
    (clear : tree.entryAt? path.draft = none) : Spares tree (prepare tree path).1 path := by
  obtain ⟨isName, parent, above, child⟩ := Path.isChild_of_fileName? named
  have draftName := Path.isName_append_partial name
  have draftChild : Path.IsChild parent (name ++ ".partial") path.draft.segments :=
    Path.segments_draft named above child ▸ .concat child.tidy draftName
  rcases (preparation_prepare wellFormed ascends above child).eq_or_bare with
    same | ⟨adds, missing, bare⟩
  · rw [same]
    exact .refl clear
  · refine .of_addsDirectories adds ?_ ?_ ?_
    · apply entryAt?_eq_none child isName
      intro directory reached
      exact absurd reached (missing directory)
    · apply entryAt?_eq_none child isName
      intro directory reached
      exact bare directory reached name
    · apply entryAt?_eq_none draftChild draftName
      intro directory reached
      exact bare directory reached (name ++ ".partial")

/-- A failure to write an artifact disturbs nothing. -/
theorem spares_of_error {name : String} {fault : Fault} (wellFormed : tree.WellFormed)
    (named : path.fileName? = some name) (ascends : ".." ∉ path.segments)
    (clear : tree.entryAt? path.draft = none)
    (h : (write tree path bytes).result = .error fault) :
    Spares tree (write tree path bytes).tree path := by
  obtain ⟨-, parent, above, child⟩ := Path.isChild_of_fileName? named
  have spares := spares_prepare wellFormed named ascends clear
  rw [write] at h ⊢
  generalize prepare tree path = prepared at spares h ⊢
  obtain ⟨after, result⟩ := prepared
  cases result with
  | error other => exact spares
  | ok =>
    simp only at h ⊢
    rw [store_of_error (Path.segments_draft named above child) (Path.isName_append_partial name)
      spares.draft h]
    exact spares

end SoloScript.File.Artifact
