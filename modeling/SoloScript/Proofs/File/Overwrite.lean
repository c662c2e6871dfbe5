import SoloScript.Proofs.File.Storage

/-!
# Storing over a draft

What is in the place of a draft is not asked for.  A file there is overwritten.  A link is followed
when the draft is written, but it is the link itself that is moved to the artifact's place.  Either
way nothing is lost but what was in the place of the draft, what a link there leads to, and what the
artifact replaces.
-/

namespace SoloScript.File

namespace Tree

variable {tree : Tree} {path : Path} {slot : Slot} {directory place : Location}
  {segments : List String} {bytes : List UInt8}

/-! ## Where a file is written -/

/-- No walk ends at a link. -/
theorem get?_ne_link_of_follow (wellFormed : tree.WellFormed) {create : Bool} {links : Nat}
    {target : Path} (there : ∀ target, tree.get? directory ≠ some (.link target))
    (h : tree.follow create links directory segments = .ok place) :
    tree.get? place ≠ some (.link target) := by
  fun_induction follow tree create links directory segments with
  | case1 links directory =>
    cases h
    exact there target
  | case3 links directory name rest inside idle ih => exact ih there h
  | case4 links directory rest inside idle ih =>
    refine ih (fun target ↦ ?_) h
    rcases List.eq_nil_or_concat' directory with rfl | ⟨parent, name, rfl⟩
    · exact there target
    · have inside : tree.get? (parent ++ [name]) = some .directory :=
        isDirectory_iff.1 (by simpa using inside)
      rw [List.dropLast_concat, wellFormed parent name (by simp [inside])]
      simp
  | case7 links directory name rest inside idle up blank short location absent =>
    obtain rfl := Except.ok.inj h
    simp [absent]
  | case10 directory name rest inside idle up blank short location target found links ih =>
    refine ih (fun target ↦ ?_) h
    rw [Path.start]
    split
    · simp [get?_root]
    · have inside : tree.get? directory = some .directory :=
        isDirectory_iff.1 (by simpa using inside)
      simp [inside]
  | case11 links directory name rest inside idle up blank short location entry plain found ih =>
    exact ih (fun target link ↦ plain target (Option.some.inj (found.symm.trans link))) h
  | _ => cases h

/-- Where a file can be written, there is a file or nothing. -/
theorem isEnd_of_locate (wellFormed : tree.WellFormed) {create : Bool}
    (located : tree.locate create path = .ok place) (plain : tree.isDirectory place = false) :
    tree.IsEnd place := by
  have unlinked (target : Path) : tree.get? place ≠ some (.link target) := by
    rw [locate] at located
    split at located
    · cases located
    · refine get?_ne_link_of_follow wellFormed (fun target ↦ ?_) located
      rw [Path.start]
      split
      · simp [get?_root]
      · simp [get?_base]
  intro entry there
  cases entry with
  | directory => simp [isDirectory, there] at plain
  | file bytes => exact ⟨bytes, rfl⟩
  | link target => exact absurd there (unlinked target)

theorem IsEnd.slot_set (h : tree.IsEnd place) (placed : tree.slot path = .ok slot) :
    (tree.set place (.file bytes)).slot path = .ok slot :=
  (erase_within_set tree place _).slot_eq_ok (h.slot_erase placed)

theorem slot_of_set (plain : tree.isDirectory place = false)
    (placed : (tree.set place (.file bytes)).slot path = .ok slot) : tree.slot path = .ok slot := by
  have outside := not_isPrefixOf_of_get?_ne (by simpa [isDirectory] using plain)
  exact (within_erase tree place).slot_eq_ok (slot_of_set_file outside placed)

end Tree

namespace Artifact

open SoloScript.File.Tree

variable {tree : Tree} {path : Path} {bytes contents : List UInt8} {place location : Location}
  {draft slot : Slot} {target : Path}

/-! ## Stored artifacts -/

/-- A draft can be written, at `place`, and what is then in its slot can be moved to the slot of the
artifact. -/
structure Places (tree : Tree) (path : Path) (place : Location) (draft slot : Slot) : Prop where
  located : tree.locate true path.draft = .ok place
  end_ : tree.IsEnd place
  drafted : tree.slot path.draft = .ok draft
  draftFits : draft.Fits
  placed : tree.slot path = .ok slot
  fits : slot.Fits
  plain : tree.get? slot.location ≠ some .directory

theorem exists_places_of_store (wellFormed : tree.WellFormed)
    (h : (store tree path bytes).result = .ok ()) :
    ∃ place draft slot, Places tree path place draft slot := by
  rw [store] at h
  cases written : tree.write path.draft bytes with
  | error fault => simp [written, result_discard] at h
  | ok drafted =>
    obtain ⟨place, located, open_, rfl⟩ := Tree.write_eq_ok_iff.1 written
    cases moved : (tree.set place (.file bytes)).rename path.draft path with
    | error fault => simp [written, moved, result_discard] at h
    | ok after =>
      obtain ⟨draft, slot, entry, drafted, placed, draftFits, fits, -, -, plain, -⟩ :=
        rename_eq_ok_iff.1 moved
      refine ⟨place, draft, slot, located, isEnd_of_locate wellFormed located open_,
        slot_of_set open_ drafted, draftFits, slot_of_set open_ placed, fits, fun directory ↦ ?_⟩
      have other : slot.location ≠ place := by
        rintro same
        simp [isDirectory, ← same, directory] at open_
      exact plain ((get?_set_of_ne other).trans directory)

namespace Places

theorem store (h : Places tree path place draft slot) {entry : Entry}
    (moved : (tree.set place (.file bytes)).get? draft.location = some entry)
    (plain : entry ≠ .directory) :
    store tree path bytes =
      ⟨((tree.set place (.file bytes)).erase draft.location).set slot.location entry, .ok (),
        none⟩ := by
  have open_ := h.end_.isDirectory_eq_false
  have occupied : (tree.set place (.file bytes)).get? slot.location ≠ some .directory := by
    by_cases same : slot.location = place
    · subst same
      rw [get?_set]
      · simp
      · exact not_isPrefixOf_of_get?_ne h.plain
    · rw [get?_set_of_ne same]
      exact h.plain
  have written : tree.write path.draft bytes = .ok (tree.set place (.file bytes)) :=
    Tree.write_eq_ok_iff.2 ⟨place, h.located, open_, rfl⟩
  have renamed : (tree.set place (.file bytes)).rename path.draft path =
      .ok (((tree.set place (.file bytes)).erase draft.location).set slot.location entry) :=
    rename_eq_ok_iff.2 ⟨draft, slot, entry, h.end_.slot_set h.drafted, h.end_.slot_set h.placed,
      h.draftFits, h.fits, moved, plain, occupied, rfl⟩
  simp only [Artifact.store, written, renamed]

/-- Unless a link is in its slot, the draft is written there. -/
theorem place_eq (h : Places tree path place draft slot)
    (unlinked : ∀ target, tree.get? draft.location ≠ some (.link target)) :
    place = draft.location := by
  obtain ⟨parent, name, split, named⟩ := Path.exists_segments_draft path
  have located := locate_of_slot split named h.drafted h.draftFits.short unlinked
  exact Except.ok.inj (h.located.symm.trans located)

/-- Where the draft is a file or new, it becomes the artifact. -/
theorem store_of_not_link (h : Places tree path place draft slot)
    (unlinked : ∀ target, tree.get? draft.location ≠ some (.link target)) (bytes : List UInt8) :
    Artifact.store tree path bytes =
      ⟨(tree.erase draft.location).set slot.location (.file bytes), .ok (), none⟩ := by
  obtain rfl := h.place_eq unlinked
  rw [h.store (get?_set h.end_.outside) (by simp), erase_set]

/-- Where the draft is a link, the artifact becomes that link. -/
theorem store_of_link (h : Places tree path place draft slot)
    (link : tree.get? draft.location = some (.link target)) (bytes : List UInt8) :
    Artifact.store tree path bytes =
      ⟨((tree.set place (.file bytes)).erase draft.location).set slot.location (.link target),
        .ok (), none⟩ :=
  h.store ((get?_set_of_ne (h.end_.ne_of_link link)).trans link) (by simp)

end Places

/-! ## Files that are kept -/

theorem get?_discard {entry : Entry} {fault : Fault} (there : tree.get? location = some entry)
    (apart : ∀ slot, tree.slot path = .ok slot → slot.Fits → slot.location ≠ location) :
    (discard tree path fault).tree.get? location = some entry := by
  rw [discard]
  split
  · rename_i removed
    obtain ⟨slot, -, placed, fits, -, -, rfl⟩ := remove_eq_ok_iff.1 removed
    rw [get?_erase_of_ne (apart slot placed fits).symm, there]
  · exact there
  · exact there

/-- A file is kept where neither the draft is written nor the artifact put. -/
theorem get?_store_of_file (there : tree.get? location = some (.file contents))
    (undrafted : tree.locate true path.draft ≠ .ok location)
    (elsewhere : ∀ slot, tree.slot path = .ok slot → slot.location ≠ location) :
    (store tree path bytes).tree.get? location = some (.file contents) := by
  obtain ⟨parent, name, split, named⟩ := Path.exists_segments_draft path
  -- A file in the slot of the draft would be where the draft is written.
  have apart : ∀ draft, tree.slot path.draft = .ok draft → draft.Fits →
      draft.location ≠ location := by
    rintro draft drafted fits rfl
    exact undrafted (locate_of_slot split named drafted fits.short (by simp [there]))
  rw [store]
  cases written : tree.write path.draft bytes with
  | error fault => exact get?_discard there apart
  | ok drafted =>
    obtain ⟨place, located, open_, rfl⟩ := Tree.write_eq_ok_iff.1 written
    have other : location ≠ place := by
      rintro rfl
      exact undrafted located
    have kept : (tree.set place (.file bytes)).get? location = some (.file contents) := by
      rw [get?_set_of_ne other, there]
    dsimp only
    cases moved : (tree.set place (.file bytes)).rename path.draft path with
    | error fault =>
      exact get?_discard kept fun draft drafted fits ↦
        apart draft (slot_of_set open_ drafted) fits
    | ok after =>
      obtain ⟨draft, slot, entry, drafted, placed, fits, -, -, -, -, rfl⟩ :=
        rename_eq_ok_iff.1 moved
      rw [get?_set_of_ne (elsewhere slot (slot_of_set open_ placed)).symm,
        get?_erase_of_ne (apart draft (slot_of_set open_ drafted) fits).symm, kept]

/-- Where the draft of an artifact is written when its directories are there: in its place, or
where a link in its place leads. -/
def DraftsAt (tree : Tree) (path : Path) (location : Location) : Prop :=
  (prepare tree path).2 = .ok () ∧ (prepare tree path).1.locate true path.draft = .ok location

/-- Where an artifact is put when its directories are there; a link is not followed. -/
def GoesTo (tree : Tree) (path : Path) (location : Location) : Prop :=
  ∃ slot, (prepare tree path).1.slot path = .ok slot ∧ slot.location = location

theorem get?_write_of_file (there : tree.get? location = some (.file contents))
    (undrafted : ¬DraftsAt tree path location) (elsewhere : ¬GoesTo tree path location) :
    (write tree path bytes).tree.get? location = some (.file contents) := by
  have kept := (within_prepare tree path).get? there
  cases prepared : (prepare tree path).2 with
  | error fault =>
    rw [write_of_prepare_error prepared]
    exact kept
  | ok =>
    rw [write_of_prepare prepared]
    refine get?_store_of_file kept (fun located ↦ undrafted ⟨prepared, located⟩) ?_
    rintro slot placed rfl
    exact elsewhere ⟨slot, placed, rfl⟩

end Artifact

end SoloScript.File
