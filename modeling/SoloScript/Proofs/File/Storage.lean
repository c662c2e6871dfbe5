import SoloScript.Proofs.File.Admission
import SoloScript.Proofs.File.Artifact
import SoloScript.Proofs.File.Replacement

/-!
# Where an artifact is stored

Writing an artifact succeeds exactly if nothing is in the way of its directories, of its draft and
of itself.  Then the tree has got the directories that were missing, and a file where the path led,
and nothing else has changed.
-/

namespace SoloScript.File

open SoloScript.File.Tree

/-! ## Last names -/

/-- A path with a slot for a file ends with a name. -/
theorem Tree.exists_segments_of_fits {tree : Tree} {path : Path} {slot : Slot}
    (placed : tree.slot path = .ok slot) (fits : slot.Fits) :
    ∃ init, path.segments = init ++ [slot.last] ∧ Path.IsName slot.last := by
  obtain ⟨blank, nothing, root | ⟨init, last, split, busy⟩⟩ :=
    Path.exists_eq_append_blank path.segments
  · rw [← root] at nothing
    obtain ⟨-, rfl⟩ := (slot_eq_ok_iff_of_blank nothing).1 placed
    exact absurd fits.isName (by simp [Slot.isName])
  · rw [List.append_assoc, List.singleton_append] at split
    obtain ⟨-, -, rfl, slash⟩ := (slot_eq_ok_iff split busy nothing).1 placed
    obtain rfl : blank = [] := by simpa [fits.slash] using slash
    exact ⟨init, split, (Slot.isName_iff busy).1 fits.isName⟩

theorem Tree.getLast?_of_fits {tree : Tree} {path : Path} {slot : Slot} {parent : List String}
    {name : String} (child : Path.IsChild parent name path.segments)
    (placed : tree.slot path = .ok slot) (fits : slot.Fits) :
    path.segments.getLast? = some name := by
  obtain ⟨init, split, named⟩ := exists_segments_of_fits placed fits
  have final : path.segments.getLast? = some slot.last := by simp [split]
  obtain ⟨idle, joined, -⟩ := child.eq_append_of_tidy (Path.tidy_of_getLast? final named)
  simp [joined]

/-- A draft lies beside its artifact. -/
theorem Tree.slot_draft {tree : Tree} {path : Path} {draft slot : Slot}
    (placed : tree.slot path = .ok slot) (fits : slot.Fits)
    (drafted : tree.slot path.draft = .ok draft) :
    draft.directory = slot.directory ∧ draft.last = slot.last ++ ".partial" := by
  obtain ⟨init, split, isName⟩ := exists_segments_of_fits placed fits
  have final : path.segments.getLast? = some slot.last := by simp [split]
  have named := Path.fileName?_of_concat split isName
  obtain ⟨-, parent, above, child⟩ := Path.isChild_of_fileName? named
  have reached := reaches_of_slot child (Path.tidy_of_getLast? final isName) placed
  obtain ⟨-, around, last, -⟩ := (slot_eq_ok_iff (Path.segments_draft named above child)
    (Path.isName_append_partial _).ne_empty (by simp)).1 drafted
  exact ⟨around.unique reached, last⟩

/-! ## Paths through themselves -/

/-- A link is at a path, and only through that link does the path get there. -/
def Tree.RunsThroughItself (tree : Tree) (path : Path) : Prop :=
  ∃ slot target, tree.slot path = .ok slot ∧ tree.entryAt? path = some (.link target) ∧
    (tree.erase slot.location).slot path ≠ .ok slot

/-- No entry is a link. -/
def Tree.LinkFree (tree : Tree) : Prop :=
  ∀ location target, tree.get? location ≠ some (.link target)

theorem Tree.LinkFree.not_runsThroughItself {tree : Tree} (h : tree.LinkFree) (path : Path) :
    ¬tree.RunsThroughItself path := by
  rintro ⟨slot, target, placed, link, -⟩
  simp only [entryAt?, placed] at link
  exact h slot.place target link

/-- Whether a path runs through itself does not depend on an end. -/
theorem Tree.IsEnd.runsThroughItself_erase {tree : Tree} {place : Location} {path : Path}
    (h : tree.IsEnd place) :
    (tree.erase place).RunsThroughItself path ↔ tree.RunsThroughItself path := by
  constructor
  · rintro ⟨slot, target, placed, link, lost⟩
    refine ⟨slot, target, (within_erase tree place).slot_eq_ok placed,
      (within_erase tree place).entryAt? link, fun kept ↦ lost ?_⟩
    rw [erase_comm]
    exact (h.erase slot.location).slot_erase kept
  · rintro ⟨slot, target, placed, link, lost⟩
    have kept := h.slot_erase placed
    refine ⟨slot, target, kept, ?_, fun found ↦ lost ?_⟩
    · simp only [entryAt?, placed, kept] at link ⊢
      rw [get?_erase_of_ne (h.ne_of_link link), link]
    · rw [erase_comm] at found
      exact (within_erase _ place).slot_eq_ok found

/-- Any other path leads to its slot also when what is there is gone. -/
theorem Tree.slot_erase_of_not_runsThroughItself {tree : Tree} {path : Path} {slot : Slot}
    (placed : tree.slot path = .ok slot) (isName : slot.isName)
    (plain : tree.get? slot.location ≠ some .directory) (direct : ¬tree.RunsThroughItself path) :
    (tree.erase slot.location).slot path = .ok slot := by
  cases there : tree.get? slot.location with
  | none => exact (isEnd_of_get?_eq_none there).slot_erase placed
  | some entry =>
    cases entry with
    | directory => exact absurd there plain
    | file bytes => exact (isEnd_of_file there).slot_erase placed
    | link target =>
      by_contra lost
      rw [← entryAt?_eq_of_slot placed isName] at there
      exact direct ⟨slot, target, placed, there, lost⟩

namespace Artifact

variable {tree after : Tree} {path : Path} {draft slot : Slot} {bytes : List UInt8}
  {name last : String} {parent : List String}

/-! ## The slots of a draft and of an artifact -/

/-- A draft can be put in its slot, and moved to the slot of the artifact. -/
structure Slots (tree : Tree) (path : Path) (draft slot : Slot) : Prop where
  drafted : tree.slot path.draft = .ok draft
  draftFits : draft.Fits
  new : tree.get? draft.location = none
  placed : tree.slot path = .ok slot
  fits : slot.Fits
  plain : tree.get? slot.location ≠ some .directory

theorem Slots.store (h : Slots tree path draft slot)
    (split : path.draft.segments = parent ++ [name]) (named : Path.IsName name)
    (bytes : List UInt8) :
    store tree path bytes = ⟨tree.set slot.location (.file bytes), .ok (), none⟩ := by
  have within : tree.Within (tree.set draft.location (.file bytes)) := within_set h.new
  have written : tree.write path.draft bytes = .ok (tree.set draft.location (.file bytes)) :=
    write_of_slot split named h.drafted h.draftFits h.new
  have moved : (tree.set draft.location (.file bytes)).rename path.draft path =
      .ok (tree.set slot.location (.file bytes)) := by
    refine rename_eq_ok_iff.2 ⟨draft, slot, .file bytes, within.slot_eq_ok h.drafted,
      within.slot_eq_ok h.placed, h.draftFits, h.fits,
      get?_set (not_isPrefixOf_of_get?_eq_none h.new), by simp, ?_, ?_⟩
    · by_cases same : slot.location = draft.location
      · rw [same, get?_set (not_isPrefixOf_of_get?_eq_none h.new)]
        simp
      · rw [get?_set_of_ne same]
        exact h.plain
    · rw [erase_set_of_new h.new]
  simp only [Artifact.store, written, moved]

theorem result_discard (tree : Tree) (path : Path) (fault : Fault) :
    (discard tree path fault).result = .error fault := by
  rw [discard]
  split <;> rfl

theorem exists_slots_of_store (split : path.draft.segments = parent ++ [name])
    (named : Path.IsName name) (absent : tree.entryAt? path.draft = none)
    (h : (store tree path bytes).result = .ok ()) : ∃ draft slot, Slots tree path draft slot := by
  rw [store] at h
  cases written : tree.write path.draft bytes with
  | error fault => simp [written, result_discard] at h
  | ok drafted =>
    obtain ⟨draft, placed, fits, new, rfl⟩ := exists_slot_of_write_new split named absent written
    cases moved : (tree.set draft.location (.file bytes)).rename path.draft path with
    | error fault => simp [written, moved, result_discard] at h
    | ok after =>
      obtain ⟨-, slot, -, -, aimed, -, fits', -, -, plain, -⟩ := rename_eq_ok_iff.1 moved
      have placed' := slot_of_set_file (not_isPrefixOf_of_get?_eq_none new) aimed
      rw [erase_of_get?_eq_none new] at placed'
      exact ⟨draft, slot, placed, fits, new, placed', fits',
        fun directory ↦ plain ((within_set new).get? directory)⟩

/-- Where the directory of an artifact is, the slots of the artifact and of its draft are. -/
theorem slots_of_reaches {directory : Location} (named : path.fileName? = some name)
    (above : Path.parentSegments? path.segments = some parent)
    (child : Path.IsChild parent name path.segments) (isName : Path.IsName name)
    (last : path.segments.getLast? = some name) (limits : path.WithinLimits)
    (draftLimits : path.draft.WithinLimits) (reached : tree.Reaches parent directory)
    (clear : tree.entryAt? path.draft = none) (plain : tree.entryAt? path ≠ some .directory) :
    Slots tree path ⟨directory, name ++ ".partial", false⟩ ⟨directory, name, false⟩ := by
  have split := Path.segments_draft named above child
  have draftName := Path.isName_append_partial name
  have draftLast : path.draft.segments.getLast? = some (name ++ ".partial") := by simp [split]
  have draftChild : Path.IsChild parent (name ++ ".partial") path.draft.segments :=
    split ▸ .concat child.tidy draftName
  have drafted := slot_of_reaches draftChild (Path.tidy_of_getLast? draftLast draftName)
    draftLimits reached
  have placed := slot_of_reaches child (Path.tidy_of_getLast? last isName) limits reached
  have fits : Slot.Fits ⟨directory, name, false⟩ :=
    ⟨(Slot.isName_iff isName.ne_empty).2 isName, limits.short _ (List.mem_of_getLast? last), rfl⟩
  have draftFits : Slot.Fits ⟨directory, name ++ ".partial", false⟩ :=
    ⟨(Slot.isName_iff draftName.ne_empty).2 draftName,
      draftLimits.short _ (List.mem_of_getLast? draftLast), rfl⟩
  refine ⟨drafted, draftFits, ?_, placed, fits, ?_⟩
  · rwa [entryAt?_eq_of_slot drafted draftFits.isName] at clear
  · rwa [entryAt?_eq_of_slot placed fits.isName] at plain

/-! ## When an artifact is written -/

/-- Nothing is in the way of an artifact with this file name. -/
structure Accepts (tree : Tree) (path : Path) (name : String) : Prop where
  ancestors : ∀ ancestor ∈ path.ancestors.tail, tree.Admits ancestor
  plain : tree.entryAt? path ≠ some .directory
  /-- Neither slashes nor dots follow the file name. -/
  last : path.segments.getLast? = some name
  draft : path.draft.WithinLimits

theorem prepare_eq_ok_iff (wellFormed : tree.WellFormed) (ascends : ".." ∉ path.segments)
    (limits : path.WithinLimits) (above : Path.parentSegments? path.segments = some parent)
    (child : Path.IsChild parent name path.segments) :
    (prepare tree path).2 = .ok () ↔ ∀ ancestor ∈ path.ancestors.tail, tree.Admits ancestor := by
  rw [prepare_eq_makeLineage above child]
  exact makeLineage_eq_ok_iff wellFormed (descends_ancestors ascends above child)
    fun _ ↦ limits.of_mem_ancestors

theorem exists_reaches_of_prepare (wellFormed : tree.WellFormed) (ascends : ".." ∉ path.segments)
    (above : Path.parentSegments? path.segments = some parent)
    (child : Path.IsChild parent name path.segments)
    (prepared : (prepare tree path).2 = .ok ()) :
    ∃ location, (prepare tree path).1.Reaches parent location := by
  rw [prepare_eq_makeLineage above child] at prepared ⊢
  exact exists_reaches_of_makeLineage wellFormed (descends_ancestors ascends above child) prepared

theorem write_of_prepare (prepared : (prepare tree path).2 = .ok ()) (bytes : List UInt8) :
    write tree path bytes = store (prepare tree path).1 path bytes := by
  rw [write]
  generalize prepare tree path = found at prepared
  obtain ⟨between, result⟩ := found
  subst prepared
  rfl

theorem write_of_prepare_error {fault : Fault} (prepared : (prepare tree path).2 = .error fault)
    (bytes : List UInt8) : write tree path bytes = ⟨(prepare tree path).1, .error fault, none⟩ := by
  rw [write]
  generalize prepare tree path = found at prepared
  obtain ⟨between, result⟩ := found
  subst prepared
  rfl

theorem prepare_of_write (h : (write tree path bytes).result = .ok ()) :
    (prepare tree path).2 = .ok () := by
  cases prepared : (prepare tree path).2 with
  | error fault => simp [write_of_prepare_error prepared] at h
  | ok => rfl

/-- The limits of a draft are those of its slot. -/
theorem withinLimits_draft (split : path.draft.segments = parent ++ [name])
    (child : Path.IsChild parent last path.segments) (named : Path.IsName name)
    (limits : path.WithinLimits) (drafted : tree.slot path.draft = .ok draft)
    (fits : draft.Fits) : path.draft.WithinLimits := by
  obtain ⟨sound, -, same, -⟩ := (slot_eq_ok_iff split named.ne_empty (by simp)).1 drafted
  refine ⟨sound, fun segment mem ↦ ?_⟩
  rw [split] at mem
  rcases List.mem_append.1 mem with higher | final
  · exact limits.short segment (child.mem_of_mem_parent higher)
  · rw [List.mem_singleton.1 final, ← same]
    exact fits.short

/-- An artifact is written exactly if nothing is in the way. -/
theorem write_eq_ok_iff (wellFormed : tree.WellFormed) (named : path.fileName? = some name)
    (ascends : ".." ∉ path.segments) (limits : path.WithinLimits)
    (clear : tree.entryAt? path.draft = none) (bytes : List UInt8) :
    (write tree path bytes).result = .ok () ↔ Accepts tree path name := by
  obtain ⟨isName, parent, above, child⟩ := Path.isChild_of_fileName? named
  have split := Path.segments_draft named above child
  have draftName := Path.isName_append_partial name
  have spares := spares_prepare wellFormed named ascends clear
  have ready := prepare_eq_ok_iff wellFormed ascends limits above child
  constructor
  · intro h
    have prepared := prepare_of_write h
    rw [write_of_prepare prepared] at h
    obtain ⟨draft, slot, slots⟩ := exists_slots_of_store split draftName spares.draft h
    refine ⟨ready.1 prepared, ?_, getLast?_of_fits child slots.placed slots.fits,
      withinLimits_draft split child draftName limits slots.drafted slots.draftFits⟩
    rw [← spares.output, entryAt?_eq_of_slot slots.placed slots.fits.isName]
    exact slots.plain
  · intro accepts
    have prepared := ready.2 accepts.ancestors
    obtain ⟨directory, reached⟩ :=
      exists_reaches_of_prepare wellFormed ascends above child prepared
    have slots := slots_of_reaches named above child isName accepts.last limits accepts.draft
      reached spares.draft (spares.output ▸ accepts.plain)
    rw [write_of_prepare prepared, slots.store split draftName]

/-! ## The tree after an artifact has been written -/

/-- What an artifact has made of a tree.  `prepared` is the tree with all its directories, and
`slot` is where the path led in it. -/
structure Stores (before after : Tree) (path : Path) (bytes : List UInt8) (prepared : Tree)
    (slot : Slot) : Prop where
  added : AddsDirectories before prepared path.ancestors.tail
  ancestors : ∀ ancestor ∈ path.ancestors.tail, prepared.hasDirectory ancestor
  placed : prepared.slot path = .ok slot
  tree : after = prepared.set slot.location (.file bytes)
  output : ¬before.RunsThroughItself path → after.entryAt? path = some (.file bytes)
  /-- With the link, the way to it is gone. -/
  lost : before.RunsThroughItself path → after.entryAt? path = none
  draft : after.entryAt? path.draft = none

namespace Slots

theorem outside (h : Slots tree path draft slot) : slot.location.isPrefixOf tree.base = false :=
  not_isPrefixOf_of_get?_ne h.plain

/-- With the artifact in its slot, only paths that led there before lead anywhere. -/
theorem slot_eq_of_set (h : Slots tree path draft slot) {other : Path} {found : Slot}
    (placed : (tree.set slot.location (.file bytes)).slot other = .ok found) :
    tree.slot other = .ok found :=
  (within_erase tree _).slot_eq_ok (slot_of_set_file h.outside placed)

/-- What has been put in the slot of a path is found there. -/
theorem entryAt?_output (h : Slots tree path draft slot)
    (direct : ¬tree.RunsThroughItself path) :
    (tree.set slot.location (.file bytes)).entryAt? path = some (.file bytes) := by
  have kept := slot_erase_of_not_runsThroughItself h.placed h.fits.isName h.plain direct
  have placed := (erase_within_set tree slot.location (.file bytes)).slot_eq_ok kept
  rw [entryAt?_eq_of_slot placed h.fits.isName, get?_set h.outside]

/-- With the link that a path runs through, the way to its slot is gone for good: it is not in any
tree that has grown from there. -/
theorem slot_ne_ok_of_within (h : Slots tree path draft slot)
    (through : tree.RunsThroughItself path)
    (within : (tree.set slot.location (.file bytes)).Within after) (found : Slot) :
    after.slot path ≠ .ok found := by
  obtain ⟨slot', target, placed, link, lost⟩ := through
  obtain rfl : slot = slot' := Except.ok.inj (h.placed.symm.trans placed)
  rw [entryAt?_eq_of_slot placed h.fits.isName] at link
  obtain ⟨init, split, named⟩ := exists_segments_of_fits placed h.fits
  obtain ⟨faultless, ⟨left, walked, inside⟩, others⟩ :=
    (slot_eq_ok_iff split named.ne_empty (by simp)).1 placed
  intro leads
  obtain ⟨-, ⟨left', arrived, around⟩, -⟩ :=
    (slot_eq_ok_iff split named.ne_empty (by simp)).1 leads
  rw [within.base] at arrived
  rcases advance_erase_or_blocked link within walked with kept | blocked
  · have still := isDirectory_erase h.plain inside
    exact lost ((slot_eq_ok_iff split named.ne_empty (by simp)).2
      ⟨faultless, ⟨left, kept, still⟩, others⟩)
  · have outside := blocked found.directory left' arrived
    simp [outside] at around

theorem entryAt?_lost (h : Slots tree path draft slot) (through : tree.RunsThroughItself path) :
    (tree.set slot.location (.file bytes)).entryAt? path = none := by
  cases found : (tree.set slot.location (.file bytes)).slot path with
  | error fault => rw [entryAt?, found]
  | ok other => exact absurd found (h.slot_ne_ok_of_within through (.refl _) other)

/-- A draft has another name than its artifact. -/
theorem location_ne (h : Slots tree path draft slot) : draft.location ≠ slot.location := by
  intro same
  obtain ⟨-, lasts⟩ := List.append_inj' same rfl
  rw [(slot_draft h.placed h.fits h.drafted).2] at lasts
  have := congrArg String.length (List.singleton_inj.1 lasts)
  simp [String.length_append] at this

/-- A draft is gone when it has been moved. -/
theorem entryAt?_draft (h : Slots tree path draft slot) :
    (tree.set slot.location (.file bytes)).entryAt? path.draft = none := by
  cases drafted : (tree.set slot.location (.file bytes)).slot path.draft with
  | error fault => rw [entryAt?, drafted]
  | ok other =>
    obtain rfl : draft = other := Except.ok.inj (h.drafted.symm.trans (h.slot_eq_of_set drafted))
    rw [entryAt?_eq_of_slot drafted h.draftFits.isName, get?_set_of_ne h.location_ne, h.new]

end Slots

/-- What was at a path has kept all directories above it from being made. -/
theorem Spares.runsThroughItself_iff (h : Spares tree after path) :
    after.RunsThroughItself path ↔ tree.RunsThroughItself path := by
  by_cases there : tree.entryAt? path = none
  · have nothing {between : Tree} (absent : between.entryAt? path = none) :
        ¬between.RunsThroughItself path := by
      rintro ⟨slot, target, -, found, -⟩
      rw [absent] at found
      cases found
    exact iff_of_false (nothing (h.output.trans there)) (nothing there)
  · rw [h.contents there]

/-- An artifact that is written is put in its slot, when its directories are there. -/
theorem exists_slots_of_write (wellFormed : tree.WellFormed)
    (named : path.fileName? = some name) (ascends : ".." ∉ path.segments)
    (clear : tree.entryAt? path.draft = none) (h : (write tree path bytes).result = .ok ()) :
    Spares tree (prepare tree path).1 path ∧ ∃ draft slot,
      Slots (prepare tree path).1 path draft slot ∧
        (write tree path bytes).tree = (prepare tree path).1.set slot.location (.file bytes) := by
  obtain ⟨-, parent, above, child⟩ := Path.isChild_of_fileName? named
  have split := Path.segments_draft named above child
  have draftName := Path.isName_append_partial name
  have spares := spares_prepare wellFormed named ascends clear
  have prepared := prepare_of_write h
  rw [write_of_prepare prepared] at h ⊢
  obtain ⟨draft, slot, slots⟩ := exists_slots_of_store split draftName spares.draft h
  exact ⟨spares, draft, slot, slots, by rw [slots.store split draftName]⟩

/-- An artifact that is written has its directories, is where its path led, and left no draft. -/
theorem exists_stores_of_write (wellFormed : tree.WellFormed)
    (named : path.fileName? = some name) (ascends : ".." ∉ path.segments)
    (limits : path.WithinLimits) (clear : tree.entryAt? path.draft = none)
    (h : (write tree path bytes).result = .ok ()) :
    ∃ prepared slot, Stores tree (write tree path bytes).tree path bytes prepared slot := by
  obtain ⟨-, parent, above, child⟩ := Path.isChild_of_fileName? named
  obtain ⟨spares, draft, slot, slots, same⟩ :=
    exists_slots_of_write wellFormed named ascends clear h
  refine ⟨(prepare tree path).1, slot, ?_⟩
  rw [same]
  constructor
  case added => exact ⟨spares.within, spares.added⟩
  case ancestors =>
    obtain ⟨location, reached⟩ :=
      exists_reaches_of_prepare wellFormed ascends above child (prepare_of_write h)
    exact reached.hasDirectory (descends_ancestors ascends above child)
      fun _ ↦ limits.of_mem_ancestors
  case placed => exact slots.placed
  case tree => rfl
  case output =>
    rw [← spares.runsThroughItself_iff]
    exact slots.entryAt?_output
  case lost =>
    rw [← spares.runsThroughItself_iff]
    exact slots.entryAt?_lost
  case draft => exact slots.entryAt?_draft

end Artifact

end SoloScript.File
