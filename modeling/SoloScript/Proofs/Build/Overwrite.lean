import SoloScript.Build
import SoloScript.Proofs.File.Readback

/-!
# Storing the script over what is there

Whatever is in the place of the draft, a script is stored with it.  If that is a link, the script is
written to the file that it leads to, and the link is what is then at the path of the script.
-/

namespace SoloScript

open File Text

/-! ## Paths of one name -/

/-- A path of one name that is within the limits. -/
structure File.Path.Bare (path : Path) (name : String) : Prop where
  segments : path.segments = [] ++ [name]
  isName : Path.IsName name
  limits : path.WithinLimits

namespace File.Path.Bare

variable {path target : Path} {name draftName other : String} {tree : Tree}
  {place : Location}

theorem start (h : path.Bare name) (directory : Location) : path.start directory = directory := by
  have nonempty := h.isName.ne_empty
  have root : path.segments ≠ [""] := by
    rw [h.segments]
    exact Path.append_cons_ne_root nonempty
  rw [Path.start_eq_origin root, h.segments, Path.origin_append_cons nonempty]
  rfl

theorem slot (h : path.Bare name) (tree : Tree) :
    tree.slot path = .ok ⟨tree.base, name, false⟩ :=
  (Tree.slot_eq_ok_iff h.segments h.isName.ne_empty (by simp)).2
    ⟨h.limits.sound, Tree.reaches_nil tree, rfl, by simp⟩

theorem fits (h : path.Bare name) (directory : Location) :
    Tree.Slot.Fits ⟨directory, name, false⟩ :=
  ⟨(Tree.Slot.isName_iff h.isName.ne_empty).2 h.isName,
    h.limits.short name (by simp [h.segments]), rfl⟩

theorem entryAt?_eq (h : path.Bare name) (tree : Tree) :
    tree.entryAt? path = tree.get? (tree.base ++ [name]) :=
  Tree.entryAt?_eq_of_slot (h.slot tree) (h.fits tree.base).isName

theorem locate (h : path.Bare name)
    (plain : ∀ target, tree.get? (tree.base ++ [name]) ≠ some (.link target)) :
    tree.locate true path = .ok (tree.base ++ [name]) :=
  Tree.locate_of_slot h.segments h.isName (h.slot tree) (h.fits tree.base).short plain

/-- A link leads to another name beside it. -/
theorem locate_of_link (h : path.Bare name) (aim : target.Bare other)
    (link : tree.get? (tree.base ++ [name]) = some (.link target))
    (plain : ∀ target, tree.get? (tree.base ++ [other]) ≠ some (.link target)) :
    tree.locate true path = .ok (tree.base ++ [other]) := by
  have inside := Tree.isDirectory_iff.2 (Tree.get?_base tree)
  have first := Tree.follow_name_eq 40 h.isName inside (h.fits tree.base).short
  have second := Tree.follow_name_eq 39 aim.isName inside (aim.fits tree.base).short
  rw [Tree.locate_of_split h.segments h.isName h.limits.sound, Tree.advance]
  refine first.trans ?_
  simp only [link, aim.start, aim.segments]
  refine second.trans ?_
  split
  · rename_i target link
    exact absurd link (plain target)
  · rfl

/-- Above a name are no directories to be made. -/
theorem prepare (h : path.Bare name) (tree : Tree) :
    Artifact.prepare tree path = (tree, .ok ()) := by
  have above : Path.parentSegments? path.segments = some [] := by
    simp [h.segments, Path.parentSegments?, Path.dropIdle, h.isName.ne_empty]
  have child : Path.IsChild [] name path.segments :=
    h.segments ▸ .concat Path.tidy_nil h.isName
  rw [Artifact.prepare_eq_makeLineage above child, Artifact.ancestors_tail above,
    Path.lineage_of_none rfl]
  rfl

theorem write (h : path.Bare name) (tree : Tree) (bytes : List UInt8) :
    Artifact.write tree path bytes = Artifact.store tree path bytes := by
  rw [Artifact.write, h.prepare]

theorem places (h : path.Bare name) (drafted : path.draft.Bare draftName)
    (located : tree.locate true path.draft = .ok place) (end_ : tree.IsEnd place)
    (plain : tree.get? (tree.base ++ [name]) ≠ some .directory) :
    Artifact.Places tree path place ⟨tree.base, draftName, false⟩ ⟨tree.base, name, false⟩ where
  located := located
  end_ := end_
  drafted := drafted.slot tree
  draftFits := drafted.fits tree.base
  placed := h.slot tree
  fits := h.fits tree.base
  plain := plain

theorem not_runsThroughItself (h : path.Bare name) : ¬tree.RunsThroughItself path := by
  rintro ⟨slot, -, placed, -, lost⟩
  rw [h.slot] at placed
  cases placed
  exact lost (h.slot _)

/-- A link to its own place is followed until no more links may be. -/
theorem read_self_link (h : path.Bare name)
    (link : tree.get? (tree.base ++ [name]) = some (.link path)) :
    tree.read path = .error .tooManyLinks := by
  have inside := Tree.isDirectory_iff.2 (Tree.get?_base tree)
  have start : path.start tree.base = tree.base := h.start tree.base
  have through : tree.move tree.base name = .through path := by
    simp [Tree.move, inside, h.isName.1, h.isName.2, (h.fits tree.base).short, link]
  have around (links : Nat) : tree.advance links tree.base [name] = .error .tooManyLinks := by
    induction links with
    | zero => rw [Tree.advance, through]
    | succ links ih =>
      rw [Tree.advance, through]
      simpa [start, h.segments] using ih
  rw [Tree.read, Tree.locate, h.limits.sound]
  simp only [Tree.follow_false, start, h.segments, List.nil_append, around]
  rfl

end File.Path.Bare

theorem bare_bundle : Path.Bare ⟨"b.js"⟩ "b.js" := by
  have segments : Path.segments ⟨"b.js"⟩ = [] ++ ["b.js"] := by decide
  exact ⟨segments, by constructor <;> decide, by decide, by rw [segments]; decide⟩

theorem bare_draft : (Path.draft ⟨"b.js"⟩).Bare "b.js.partial" := by
  have segments : (Path.draft ⟨"b.js"⟩).segments = [] ++ ["b.js.partial"] := by decide
  exact ⟨segments, by constructor <;> decide, by decide, by rw [segments]; decide⟩

/-! ## Reading a script back -/

/-- A script that has been stored can be read at its path, and is not a link, exactly if its draft
was not one and the path does not run through itself. -/
theorem stored_readable_iff (tree : Tree) (path : Path) (code : String)
    (wellFormed : tree.WellFormed) (stored : (Build.store tree path code).1 = .ok ()) :
    (Build.store tree path code).2.1.read path = .ok (Utf8.encode code) ∧
        (∀ target, (Build.store tree path code).2.1.entryAt? path ≠ some (.link target)) ↔
      (∀ target, (Artifact.prepare tree path).1.entryAt? path.draft ≠ some (.link target)) ∧
        ¬(Artifact.prepare tree path).1.RunsThroughItself path := by
  have written : (Artifact.write tree path (Utf8.encode code)).result = .ok () :=
    Outcome.mapError_eq_ok_iff.1 stored
  have prepared := Artifact.prepare_of_write written
  simp only [Build.store]
  rw [Artifact.write_of_prepare prepared] at written ⊢
  obtain ⟨place, draft, slot, places⟩ :=
    Artifact.exists_places_of_store (Artifact.wellFormed_prepare wellFormed path) written
  exact Artifact.read_store_iff places

/-- A file in the place of the draft and a link in that of the script are no matter. -/
theorem stored_over_file_readable :
    let tree := ((Tree.empty ["w"]).set ["w", "b.js"] (.link ⟨"old.js"⟩)).set
      ["w", "b.js.partial"] (.file [107])
    (Build.store tree ⟨"b.js"⟩ "new").1 = .ok () ∧
      (Build.store tree ⟨"b.js"⟩ "new").2.1.read ⟨"b.js"⟩ = .ok (Utf8.encode "new") := by
  intro tree
  have wellFormed : tree.WellFormed :=
    ((Tree.wellFormed_empty ["w"]).set (Tree.get?_base (.empty ["w"])) (by decide)).set
      (Tree.get?_base _) (by decide)
  have file : tree.get? ["w", "b.js.partial"] = some (.file [107]) := rfl
  have unlinked (target : Path) : tree.get? ["w", "b.js.partial"] ≠ some (.link target) := by
    simp [file]
  have places := bare_bundle.places bare_draft (bare_draft.locate unlinked)
    (Tree.isEnd_of_file file) (by decide)
  have stored : (Build.store tree ⟨"b.js"⟩ "new").1 = .ok () := by
    rw [Build.store, bare_bundle.write, places.store_of_not_link unlinked]
    rfl
  refine ⟨stored, ((stored_readable_iff tree ⟨"b.js"⟩ "new" wellFormed stored).2 ⟨?_, ?_⟩).1⟩
  · simp only [bare_bundle.prepare, bare_draft.entryAt?_eq]
    exact unlinked
  · rw [bare_bundle.prepare]
    exact bare_bundle.not_runsThroughItself

/-- A link to the path of the script, in the place of the draft, becomes a link to itself. -/
theorem stored_as_self_link :
    let tree := (Tree.empty ["w"]).set ["w", "b.js.partial"] (.link ⟨"b.js"⟩)
    (Build.store tree ⟨"b.js"⟩ "new").1 = .ok () ∧
      (Build.store tree ⟨"b.js"⟩ "new").2.1.entryAt? ⟨"b.js"⟩ = some (.link ⟨"b.js"⟩) ∧
      (Build.store tree ⟨"b.js"⟩ "new").2.1.read ⟨"b.js"⟩ = .error .tooManyLinks := by
  intro tree
  have link : tree.get? ["w", "b.js.partial"] = some (.link ⟨"b.js"⟩) := rfl
  have absent : tree.get? (tree.base ++ ["b.js"]) = none := rfl
  have located := bare_draft.locate_of_link bare_bundle link (by simp [absent])
  have places := bare_bundle.places bare_draft located (Tree.isEnd_of_get?_eq_none absent)
    (by decide)
  rw [Build.store, bare_bundle.write, places.store_of_link link, bare_bundle.entryAt?_eq]
  refine ⟨rfl, rfl, bare_bundle.read_self_link rfl⟩

/-! ## Files that are kept -/

/-- Every file is kept, whether the script is stored or not, unless it is where the script goes or
where its draft is written. -/
theorem stored_keeps_files (tree : Tree) (path : Path) (code : String) (location : Location)
    (contents : List UInt8) (there : tree.get? location = some (.file contents))
    (undrafted : ¬Artifact.DraftsAt tree path location)
    (elsewhere : ¬Artifact.GoesTo tree path location) :
    (Build.store tree path code).2.1.get? location = some (.file contents) :=
  Artifact.get?_write_of_file there undrafted elsewhere

/-- An artifact beside the draft of another is kept. -/
theorem file_beside_draft_kept :
    let tree := ((Tree.empty ["w"]).set ["w", "kept.js"] (.file [107])).set
      ["w", "b.js.partial"] (.file [108])
    (Build.store tree ⟨"b.js"⟩ "new").2.1.get? ["w", "kept.js"] = some (.file [107]) := by
  intro tree
  have file : tree.get? ["w", "b.js.partial"] = some (.file [108]) := rfl
  have unlinked (target : Path) : tree.get? ["w", "b.js.partial"] ≠ some (.link target) := by
    simp [file]
  have located := bare_draft.locate unlinked
  refine stored_keeps_files tree ⟨"b.js"⟩ "new" ["w", "kept.js"] [107] rfl ?_ ?_
  · rintro ⟨-, drafted⟩
    rw [bare_bundle.prepare, located] at drafted
    exact absurd (Except.ok.inj drafted) (by decide)
  · rintro ⟨slot, placed, same⟩
    rw [bare_bundle.slot] at placed
    cases placed
    exact absurd same (by decide)

/-- What is in the place of the draft is lost, or what a link there leads to. -/
theorem draft_overwrites :
    (let tree := (Tree.empty ["w"]).set ["w", "b.js.partial"] (.file [107])
     (Build.store tree ⟨"b.js"⟩ "new").1 = .ok () ∧
      (Build.store tree ⟨"b.js"⟩ "new").2.1.get? ["w", "b.js.partial"] = none) ∧
    (let tree := ((Tree.empty ["w"]).set ["w", "kept.js"] (.file [107])).set
      ["w", "b.js.partial"] (.link ⟨"kept.js"⟩)
     (Build.store tree ⟨"b.js"⟩ "new").1 = .ok () ∧
      (Build.store tree ⟨"b.js"⟩ "new").2.1.get? ["w", "kept.js"] =
        some (.file (Utf8.encode "new"))) := by
  constructor
  · intro tree
    have file : tree.get? ["w", "b.js.partial"] = some (.file [107]) := rfl
    have unlinked (target : Path) : tree.get? ["w", "b.js.partial"] ≠ some (.link target) := by
      simp [file]
    have places := bare_bundle.places bare_draft (bare_draft.locate unlinked)
      (Tree.isEnd_of_file file) (by decide)
    rw [Build.store, bare_bundle.write, places.store_of_not_link unlinked]
    exact ⟨rfl, rfl⟩
  · intro tree
    have segments : Path.segments ⟨"kept.js"⟩ = [] ++ ["kept.js"] := by decide +kernel
    have bare : Path.Bare ⟨"kept.js"⟩ "kept.js" :=
      ⟨segments, by constructor <;> decide, by decide +kernel, by rw [segments]; decide⟩
    have link : tree.get? ["w", "b.js.partial"] = some (.link ⟨"kept.js"⟩) := rfl
    have file : tree.get? (tree.base ++ ["kept.js"]) = some (.file [107]) := rfl
    have located := bare_draft.locate_of_link bare link (by simp [file])
    have places := bare_bundle.places bare_draft located (Tree.isEnd_of_file file) (by decide)
    rw [Build.store, bare_bundle.write, places.store_of_link link]
    exact ⟨rfl, rfl⟩

end SoloScript
