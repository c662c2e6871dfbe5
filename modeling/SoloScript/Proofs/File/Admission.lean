import SoloScript.Proofs.File.Directories
import SoloScript.Proofs.File.Limits

/-!
# When directories can be made

A walk to a directory arrives, or comes to a place where nothing is, or to something that is not a
directory.  Making a directory and those above it succeeds unless there is such an obstacle: each
of them must be there, or there must be nothing in its place.
-/

namespace SoloScript.File.Tree

variable {tree : Tree} {path : Path} {paths : List Path} {parent segments : List String}
  {last : String} {location : Location} {slot : Slot}

/-! ## Walks to what is missing -/

/-- A walk along segments comes to a place where nothing is. -/
def Misses (tree : Tree) (segments : List String) : Prop :=
  tree.advance maxLinks (Path.origin segments tree.base) segments = .error .notFound

theorem not_misses_nil (tree : Tree) : ¬tree.Misses [] := by
  simp [Misses, advance]

theorem Misses.append (h : tree.Misses segments) (rest : List String) :
    tree.Misses (segments ++ rest) := by
  have nonempty : segments ≠ [] := by
    rintro rfl
    exact not_misses_nil tree h
  rw [Misses] at h ⊢
  rw [Path.origin_append nonempty, advance_append, h]
  rfl

theorem Misses.below (h : tree.Misses parent) (child : Path.IsChild parent last segments) :
    tree.Misses segments := by
  obtain ⟨idle, trailing, rfl, -⟩ := child.split
  exact (h.append idle).append _

theorem Misses.not_reaches (h : tree.Misses segments) : ¬tree.Reaches segments location := by
  rintro ⟨left, walked, -⟩
  rw [Misses, walked] at h
  cases h

/-- A name is missed in a directory that has no such entry. -/
theorem misses_of_absent (reached : tree.Reaches parent location)
    (child : Path.IsChild parent last segments) (tidy : Path.Tidy segments)
    (named : Path.IsName last) (short : ¬isTooLong last)
    (absent : tree.get? (location ++ [last]) = none) : tree.Misses segments := by
  obtain ⟨idle, rfl, still, apart⟩ := child.eq_append_of_tidy tidy
  obtain ⟨left, walked, inside⟩ := (reaches_append_idle apart still).2 reached
  have stops : tree.move location last = .stop .notFound := by
    simp [move, inside, named.1, named.2, short, absent]
  rw [Misses, Path.origin_append_cons child.nonempty, advance_append, walked]
  simp [advance, stops]

/-! ## Slots -/

theorem slot_of_reaches (child : Path.IsChild parent last path.segments)
    (tidy : Path.Tidy path.segments) (limits : path.WithinLimits)
    (reached : tree.Reaches parent location) : tree.slot path = .ok ⟨location, last, false⟩ := by
  obtain ⟨idle, split, still, apart⟩ := child.eq_append_of_tidy tidy
  exact (slot_eq_ok_iff split child.nonempty (by simp)).2
    ⟨limits.sound, (reaches_append_idle apart still).2 reached, rfl, by simp⟩

theorem reaches_of_slot (child : Path.IsChild parent last path.segments)
    (tidy : Path.Tidy path.segments) (placed : tree.slot path = .ok slot) :
    tree.Reaches parent slot.directory := by
  obtain ⟨idle, split, still, apart⟩ := child.eq_append_of_tidy tidy
  obtain ⟨-, reached, -⟩ := (slot_eq_ok_iff split child.nonempty (by simp)).1 placed
  exact (reaches_append_idle apart still).1 reached

theorem slot_of_misses (child : Path.IsChild parent last path.segments)
    (tidy : Path.Tidy path.segments) (limits : path.WithinLimits) (h : tree.Misses parent) :
    tree.slot path = .error .notFound := by
  obtain ⟨idle, split, -⟩ := child.eq_append_of_tidy tidy
  have missed := h.append idle
  rw [Misses] at missed
  rw [slot_eq split child.nonempty (by simp) limits.sound, missed]
  rfl

/-- A name is looked up in the directory that the segments before it lead to. -/
theorem entryAt?_of_split {name : String} (split : path.segments = parent ++ [name])
    (tidy : Path.Tidy parent) (named : Path.IsName name) (limits : path.WithinLimits)
    (reached : tree.Reaches parent location) :
    tree.entryAt? path = tree.get? (location ++ [name]) := by
  have child : Path.IsChild parent name path.segments := split ▸ .concat tidy named
  have last : path.segments.getLast? = some name := by simp [split]
  have placed := slot_of_reaches child (Path.tidy_of_getLast? last named) limits reached
  exact entryAt?_eq_of_slot placed ((Slot.isName_iff named.ne_empty).2 named)

/-! ## One directory -/

/-- A slot for a name that nothing has yet. -/
structure Slot.Free (slot : Slot) (tree : Tree) : Prop where
  isName : slot.isName
  absent : tree.get? slot.location = none

theorem makeDirectory_of_free (placed : tree.slot path = .ok slot) (short : ¬isTooLong slot.last)
    (free : slot.Free tree) : tree.makeDirectory path = .ok (tree.set slot.location .directory) :=
  makeDirectory_eq_ok_iff.2 ⟨slot, placed, free.isName, short, free.absent, rfl⟩

theorem makeDirectory_of_not_free (placed : tree.slot path = .ok slot)
    (short : ¬isTooLong slot.last) (taken : ¬slot.Free tree) :
    tree.makeDirectory path = .error .alreadyExists := by
  rw [makeDirectory, placed]
  cases isName : slot.isName with
  | false => simp [isName]
  | true =>
    obtain ⟨entry, there⟩ := Option.ne_none_iff_exists'.1 fun absent ↦ taken ⟨isName, absent⟩
    simp [isName, Slot.entry?, short, there]

theorem makeDirectory_of_slot_eq_error {fault : Fault} (h : tree.slot path = .error fault) :
    tree.makeDirectory path = .error fault := by
  rw [makeDirectory, h]
  rfl

theorem hasDirectory_of_reaches (limits : path.WithinLimits) (root : path.segments ≠ [""])
    (reached : tree.Reaches path.segments location) : tree.hasDirectory path := by
  obtain ⟨left, walked, inside⟩ := id reached
  rw [hasDirectory, locate_of_reaches limits.sound root reached]
  exact inside

/-! ## A directory and those above it -/

/-- A path leads to a directory, or nothing is there. -/
def Admits (tree : Tree) (path : Path) : Prop :=
  tree.hasDirectory path ∨ tree.entryAt? path = none

/-- Where a directory is reached, all those above it are there. -/
theorem Reaches.hasDirectory (descends : Path.Descends segments paths)
    (limits : ∀ path ∈ paths, path.WithinLimits) (reached : tree.Reaches segments location) :
    ∀ path ∈ paths, tree.hasDirectory path := by
  induction descends generalizing location with
  | top => simp
  | under above child tidy level same ih =>
    subst same
    obtain ⟨within, higher⟩ := List.forall_mem_cons.1 limits
    obtain ⟨directory, arrived, -⟩ := reached.parent child
    exact List.forall_mem_cons.2
      ⟨hasDirectory_of_reaches within child.ne_root reached, ih higher arrived⟩

/-- From where nothing is above them, segments lead to the root or to the working directory. -/
theorem exists_reaches_of_top (top : Path.parentSegments? segments = none) :
    ∃ location, tree.Reaches segments location := by
  cases segments with
  | nil => exact ⟨_, reaches_nil tree⟩
  | cons first others =>
    obtain ⟨idle, split, still⟩ := Path.exists_eq_dropIdle_append others
    simp only [Path.parentSegments?] at top
    split at top
    · rename_i bare
      rw [bare, List.nil_append] at split
      subst split
      obtain rfl : first = "" := by simpa using top
      have inside := isDirectory_iff.2 (get?_root tree)
      have root : tree.Reaches [""] [] :=
        ⟨maxLinks, advance_idle inside (by simp [Path.isIdle]), inside⟩
      exact ⟨[], (reaches_append_idle (by simp) still).2 root⟩
    · cases top

/-- A single dot leads to the working directory. -/
theorem reaches_dot (tree : Tree) : tree.Reaches ["."] tree.base :=
  have inside := isDirectory_iff.2 (get?_base tree)
  ⟨maxLinks, advance_idle inside (by simp [Path.isIdle]), inside⟩

/-- Unless a slot is still free, only a directory can be admitted there. -/
theorem hasDirectory_of_admits (child : Path.IsChild parent last path.segments)
    (tidy : Path.Tidy path.segments) (level : last ≠ "..") (limits : path.WithinLimits)
    (placed : tree.slot path = .ok slot) (taken : ¬slot.Free tree) (admitted : tree.Admits path) :
    tree.hasDirectory path := by
  rcases admitted with there | absent
  · exact there
  obtain ⟨idle, split, -, apart⟩ := child.eq_append_of_tidy tidy
  obtain ⟨-, -, rfl, -⟩ := (slot_eq_ok_iff split child.nonempty (by simp)).1 placed
  rcases child.isName_or level with named | ⟨rfl, dot⟩
  · have isName := (Slot.isName_iff child.nonempty).2 named
    rw [entryAt?_eq_of_slot placed isName] at absent
    exact absurd ⟨isName, absent⟩ taken
  · have single : path.segments = ["."] := by simpa [apart rfl, dot] using split
    exact hasDirectory_of_reaches limits child.ne_root (single.symm ▸ reaches_dot tree)

/-- What is not a directory is an obstacle: without one, a directory is reached or missing. -/
theorem exists_reaches_or_misses (descends : Path.Descends segments paths)
    (limits : ∀ path ∈ paths, path.WithinLimits) (admits : ∀ path ∈ paths, tree.Admits path) :
    (∃ location, tree.Reaches segments location) ∨ tree.Misses segments := by
  induction descends with
  | top top => exact .inl (exists_reaches_of_top top)
  | @under parent segments last path paths above child tidy level same ih =>
    subst same
    obtain ⟨within, higher⟩ := List.forall_mem_cons.1 limits
    obtain ⟨admitted, others⟩ := List.forall_mem_cons.1 admits
    rcases ih higher others with ⟨directory, reached⟩ | missed
    · have placed := slot_of_reaches child tidy within reached
      by_cases free : Slot.Free ⟨directory, last, false⟩ tree
      · have named := (Slot.isName_iff child.nonempty).1 free.isName
        have short : ¬isTooLong last := within.short last (child.mem_of_tidy tidy)
        exact .inr (misses_of_absent reached child tidy named short free.absent)
      · have there := hasDirectory_of_admits child tidy level within placed free admitted
        exact .inl (exists_reaches_of_hasDirectory child.ne_root there)
    · exact .inr (missed.below child)

/-- When making directories succeeds, they are there. -/
theorem exists_reaches_of_makeLineage (wellFormed : tree.WellFormed)
    (descends : Path.Descends segments paths) (h : (tree.makeLineage paths).2 = .ok ()) :
    ∃ location, (tree.makeLineage paths).1.Reaches segments location := by
  induction descends with
  | top top => exact exists_reaches_of_top top
  | @under parent segments last path paths above child tidy level same ih =>
    subst same
    obtain ⟨idle, split, -⟩ := child.eq_append_of_tidy tidy
    have made {between after : Tree} (wellFormed : between.WellFormed)
        (h : between.makeDirectory path = .ok after) :
        ∃ location, after.Reaches path.segments location := by
      obtain ⟨-, location, renews⟩ := renews_of_makeDirectory wellFormed split child.nonempty h
      exact ⟨location, renews.reached⟩
    have found {between : Tree} {fault : Fault}
        (h : (if between.hasDirectory path then .ok () else .error fault) = Except.ok ()) :
        ∃ location, between.Reaches path.segments location := by
      apply exists_reaches_of_hasDirectory child.ne_root
      by_contra absent
      simp [absent] at h
    cases first : tree.makeDirectory path with
    | ok after =>
      rw [makeLineage_of_ok first]
      exact made wellFormed first
    | error fault =>
      by_cases missing : fault = .notFound
      · subst missing
        have kept := wellFormed.makeLineage paths
        simp only [makeLineage, first] at h ⊢
        generalize tree.makeLineage paths = prepared at kept h ⊢
        obtain ⟨between, other | done⟩ := prepared
        · cases h
        · cases second : between.makeDirectory path with
          | ok after =>
            simp only [second]
            exact made kept second
          | error other =>
            simp only [second] at h ⊢
            exact found h
      · rw [makeLineage_of_error first missing] at h ⊢
        exact found h

section Below

variable (child : Path.IsChild parent last path.segments) (tidy : Path.Tidy path.segments)

include child tidy

/-- Where all directories above are there, only this one may have to be made. -/
theorem makeLineage_eq_ok_iff_of_reaches (level : last ≠ "..") (limits : path.WithinLimits)
    (reached : tree.Reaches parent location) :
    (tree.makeLineage (path :: paths)).2 = .ok () ↔ tree.Admits path := by
  have placed := slot_of_reaches child tidy limits reached
  have short : ¬isTooLong last := limits.short last (child.mem_of_tidy tidy)
  by_cases free : Slot.Free ⟨location, last, false⟩ tree
  · have absent : tree.entryAt? path = none :=
      (entryAt?_eq_of_slot placed free.isName).trans free.absent
    rw [makeLineage_of_ok (makeDirectory_of_free placed short free)]
    exact iff_of_true rfl (.inr absent)
  · have settled : tree.Admits path ↔ tree.hasDirectory path :=
      ⟨hasDirectory_of_admits child tidy level limits placed free, .inl⟩
    rw [makeLineage_of_error (makeDirectory_of_not_free placed short free) (by simp), settled]
    by_cases there : tree.hasDirectory path
    · simp [there]
    · simp [there]

/-- When those above have been made, nothing is in the last of them. -/
theorem makeLineage_of_misses (wellFormed : tree.WellFormed) (above : Path.Descends parent paths)
    (level : last ≠ "..") (limits : path.WithinLimits) (missed : tree.Misses parent)
    (finished : (tree.makeLineage paths).2 = .ok ()) :
    (tree.makeLineage (path :: paths)).2 = .ok () := by
  have first := makeDirectory_of_slot_eq_error (slot_of_misses child tidy limits missed)
  have short : ¬isTooLong last := limits.short last (child.mem_of_tidy tidy)
  obtain ⟨directory, reached⟩ := exists_reaches_of_makeLineage wellFormed above finished
  have bare : (tree.makeLineage paths).1.get? (directory ++ [last]) = none := by
    rcases (preparation_makeLineage wellFormed above).eq_or_bare with same | ⟨-, -, bare⟩
    · exact absurd (same ▸ reached) missed.not_reaches
    · exact bare directory reached last
  have named : Path.IsName last := by
    refine (child.isName_or level).resolve_right ?_
    rintro ⟨rfl, -⟩
    exact not_misses_nil tree missed
  have second := makeDirectory_of_free (slot_of_reaches child tidy limits reached) short
    ⟨(Slot.isName_iff child.nonempty).2 named, bare⟩
  rw [makeLineage_of_notFound first finished second]

/-- Where one above is not there and cannot be made, none is made below it. -/
theorem makeLineage_ne_ok_of_not_reaches (apart : ∀ location, ¬tree.Reaches parent location)
    (blocked : (tree.makeLineage paths).2 ≠ .ok ()) :
    (tree.makeLineage (path :: paths)).2 ≠ .ok () := by
  have absent : ¬tree.hasDirectory path := by
    intro found
    obtain ⟨location, reached⟩ := exists_reaches_of_hasDirectory child.ne_root found
    obtain ⟨directory, arrived, -⟩ := reached.parent child
    exact apart directory arrived
  cases first : tree.makeDirectory path with
  | ok after =>
    obtain ⟨slot, placed, -⟩ := makeDirectory_eq_ok_iff.1 first
    exact absurd (reaches_of_slot child tidy placed) (apart _)
  | error fault => exact makeLineage_ne_ok first absent blocked

end Below

/-- Making directories succeeds exactly if no obstacle is in the way. -/
theorem makeLineage_eq_ok_iff (wellFormed : tree.WellFormed)
    (descends : Path.Descends segments paths) (limits : ∀ path ∈ paths, path.WithinLimits) :
    (tree.makeLineage paths).2 = .ok () ↔ ∀ path ∈ paths, tree.Admits path := by
  induction descends with
  | top top => simp [makeLineage]
  | @under parent segments last path paths above child tidy level same ih =>
    subst same
    obtain ⟨within, higher⟩ := List.forall_mem_cons.1 limits
    have done := ih higher
    rw [List.forall_mem_cons]
    by_cases there : ∃ directory, tree.Reaches parent directory
    · obtain ⟨directory, reached⟩ := there
      have others : ∀ path ∈ paths, tree.Admits path := fun ancestor mem ↦
        .inl (reached.hasDirectory above higher ancestor mem)
      rw [makeLineage_eq_ok_iff_of_reaches child tidy level within reached]
      exact (and_iff_left others).symm
    · by_cases admitted : ∀ path ∈ paths, tree.Admits path
      · have missed := (exists_reaches_or_misses above higher admitted).resolve_left there
        have absent : tree.entryAt? path = none := by
          rw [entryAt?, slot_of_misses child tidy within missed]
        exact iff_of_true
          (makeLineage_of_misses child tidy wellFormed above level within missed (done.2 admitted))
          ⟨.inr absent, admitted⟩
      · have blocked := makeLineage_ne_ok_of_not_reaches child tidy (not_exists.1 there)
          (mt done.1 admitted)
        exact iff_of_false blocked fun h ↦ admitted h.2

end SoloScript.File.Tree
