import SoloScript.Proofs.File.Operation

/-!
# Lemmas on making directories

Making a directory and those above it adds directories and nothing else.  If anything is added and
all goes well, the directory is a new one and empty; if it goes wrong, the directory is still
missing.
-/

namespace SoloScript.File.Tree

variable {tree before between after : Tree} {path : Path} {location : Location}
  {segments : List String}

/-! ## Locating directories -/

theorem locate_of_reaches (faultless : path.fault? = none) (root : path.segments ≠ [""])
    (reached : tree.Reaches path.segments location) : tree.locate false path = .ok location := by
  obtain ⟨left, walked, -⟩ := reached
  rw [locate, faultless]
  simp only [Path.start_eq_origin root, follow_false, walked]
  rfl

theorem exists_reaches_of_hasDirectory (root : path.segments ≠ [""])
    (h : tree.hasDirectory path) : ∃ location, tree.Reaches path.segments location := by
  rw [hasDirectory, locate] at h
  cases faultless : path.fault? with
  | some fault => simp [faultless] at h
  | none =>
    simp only [faultless, Path.start_eq_origin root, follow_false] at h
    cases walked : tree.advance maxLinks (Path.origin path.segments tree.base) path.segments with
    | error fault => simp [walked, Except.map] at h
    | ok arrival =>
      obtain ⟨location, left⟩ := arrival
      exact ⟨location, left, walked, by simpa [walked, Except.map] using h⟩

/-- A path leads to the same place in every tree with more entries. -/
theorem Within.locate (h : before.Within after)
    (located : before.locate false path = .ok location) :
    after.locate false path = .ok location := by
  rw [Tree.locate] at located ⊢
  cases faultless : path.fault? with
  | some fault => simp [faultless] at located
  | none =>
    simp only [faultless, follow_false, Outcome.map_eq_ok_iff] at located ⊢
    obtain ⟨⟨_, left⟩, walked, rfl⟩ := located
    exact ⟨(_, left), h.base ▸ h.advance walked, rfl⟩

/-! ## Adding directories -/

/-- Besides the entries of `before`, there are directories in `after`, where `paths` lead to. -/
structure AddsDirectories (before after : Tree) (paths : List Path) : Prop where
  within : before.Within after
  added : ∀ location, before.get? location = none → after.get? location ≠ none →
    after.get? location = some .directory ∧
      ∃ path ∈ paths, after.locate false path = .ok location

namespace AddsDirectories

theorem mono {paths more : List Path} (h : AddsDirectories before after paths)
    (sub : paths ⊆ more) : AddsDirectories before after more := by
  refine ⟨h.within, ?_⟩
  intro location new there
  obtain ⟨directory, path, mem, located⟩ := h.added location new there
  exact ⟨directory, path, sub mem, located⟩

theorem trans {paths : List Path} (first : AddsDirectories before between paths)
    (second : AddsDirectories between after paths) : AddsDirectories before after paths := by
  refine ⟨first.within.trans second.within, ?_⟩
  intro location new there
  by_cases early : between.get? location = none
  · exact second.added location early there
  · obtain ⟨directory, path, mem, located⟩ := first.added location new early
    exact ⟨second.within.get? directory, path, mem, second.within.locate located⟩

end AddsDirectories

/-! ## One directory -/

/-- `after` has a new directory where `segments` lead to, with nothing in it. -/
structure Renews (before after : Tree) (segments : List String) (location : Location) : Prop where
  reached : after.Reaches segments location
  new : before.get? location = none
  empty : ∀ name, after.get? (location ++ [name]) = none

namespace Renews

theorem get?_eq_none {other : Location} (h : Renews before after segments location)
    (reached : after.Reaches segments other) (name : String) :
    after.get? (other ++ [name]) = none := by
  obtain rfl := reached.unique h.reached
  exact h.empty name

theorem not_reaches {other : Location} (h : Renews before after segments location)
    (within : before.Within after) : ¬before.Reaches segments other := by
  intro reached
  obtain rfl := (within.reaches reached).unique h.reached
  obtain ⟨left, walked, inside⟩ := reached
  have new := h.new
  rw [isDirectory_iff.1 inside] at new
  simp at new

/-- The working directory is never new. -/
theorem ne_nil (h : Renews before after segments location) (within : before.Within after) :
    segments ≠ [] := by
  rintro rfl
  exact h.not_reaches within (reaches_nil before)

end Renews

/-- A directory that is made is new, and nothing else is. -/
theorem renews_of_makeDirectory {init : List String} {last : String} (wellFormed : tree.WellFormed)
    (split : path.segments = init ++ [last]) (named : last ≠ "")
    (h : tree.makeDirectory path = .ok after) :
    AddsDirectories tree after [path] ∧ ∃ location, Renews tree after path.segments location := by
  obtain ⟨slot, placed, isName, short, new, rfl⟩ := makeDirectory_eq_ok_iff.1 h
  obtain ⟨faultless, reached, rfl, -⟩ := (slot_eq_ok_iff split named (by simp)).1 placed
  have within : tree.Within (tree.set slot.location .directory) := within_set new
  have made : (tree.set slot.location .directory).get? slot.location = some .directory :=
    get?_set (not_isPrefixOf_of_get?_eq_none new)
  have arrived : (tree.set slot.location .directory).Reaches path.segments slot.location := by
    rw [split]
    exact (within.reaches reached).enter ((Slot.isName_iff named).1 isName) short made
  have root : path.segments ≠ [""] := by
    rw [split]
    exact Path.append_cons_ne_root named
  refine ⟨⟨within, ?_⟩, slot.location, arrived, new, ?_⟩
  · intro location absent there
    obtain rfl : location = slot.location := by
      by_contra other
      rw [get?_set_of_ne other] at there
      exact there absent
    exact ⟨made, path, by simp, locate_of_reaches faultless root arrived⟩
  · intro name
    rw [get?_set_of_ne (by simp [Slot.location])]
    exact wellFormed.get?_append_eq_none new name

/-! ## A directory and those above it -/

/-- What comes of making the directory that `segments` lead to, with those above it. -/
inductive Preparation (tree : Tree) (segments : List String) (paths : List Path) :
    Tree → Except Fault Unit → Prop where
  | unchanged (result : Except Fault Unit) : Preparation tree segments paths tree result
  | made {after : Tree} {location : Location} (adds : AddsDirectories tree after paths)
      (renews : Renews tree after segments location) :
      Preparation tree segments paths after (.ok ())
  | failed {after : Tree} {fault : Fault} (adds : AddsDirectories tree after paths)
      (missing : ∀ location, ¬after.Reaches segments location) :
      Preparation tree segments paths after (.error fault)

/-- Unless nothing has changed, the directory was missing, and it is empty if it is there. -/
theorem Preparation.eq_or_bare {paths : List Path} {result : Except Fault Unit}
    (h : Preparation tree segments paths after result) :
    after = tree ∨ AddsDirectories tree after paths ∧
      (∀ location, ¬tree.Reaches segments location) ∧
      ∀ location, after.Reaches segments location →
        ∀ name, after.get? (location ++ [name]) = none := by
  cases h with
  | unchanged => exact .inl rfl
  | made adds renews =>
    refine .inr ⟨adds, ?_, ?_⟩
    · intro location
      exact renews.not_reaches adds.within
    · intro location reached
      exact renews.get?_eq_none reached
  | failed adds missing =>
    refine .inr ⟨adds, ?_, ?_⟩
    · intro location reached
      exact missing location (adds.within.reaches reached)
    · intro location reached
      exact absurd reached (missing location)

/-- Making a directory and those above it changes nothing, or makes a new one, or fails without
it. -/
theorem preparation_makeLineage {paths : List Path} (wellFormed : tree.WellFormed)
    (descends : Path.Descends segments paths) :
    Preparation tree segments paths (tree.makeLineage paths).1 (tree.makeLineage paths).2 := by
  induction descends with
  | top => exact .unchanged _
  | @under parent segments last path ancestors above child tidy level same ih =>
    subst same
    obtain ⟨idle, split, -⟩ := child.eq_append_of_tidy tidy
    -- Whenever the directory is made, it is new.
    have renewal {between after : Tree} (wellFormed : between.WellFormed)
        (h : between.makeDirectory path = .ok after) :
        AddsDirectories between after (path :: ancestors) ∧
          ∃ location, Renews between after path.segments location := by
      obtain ⟨adds, renews⟩ := renews_of_makeDirectory wellFormed split child.nonempty h
      exact ⟨adds.mono (by simp), renews⟩
    cases first : tree.makeDirectory path with
    | ok after =>
      rw [makeLineage_of_ok first]
      obtain ⟨adds, location, renews⟩ := renewal wellFormed first
      exact .made adds renews
    | error fault =>
      by_cases missing : fault = .notFound
      · subst missing
        have kept := wellFormed.makeLineage ancestors
        simp only [makeLineage, first]
        generalize tree.makeLineage ancestors = prepared at ih kept ⊢
        obtain ⟨between, result⟩ := prepared
        dsimp only at ih
        cases ih with
        | unchanged =>
          cases result with
          | error fault => exact .unchanged _
          | ok =>
            simp only [first]
            exact .unchanged _
        | made adds renews =>
          have adds := adds.mono (List.subset_cons_self path ancestors)
          cases second : between.makeDirectory path with
          | ok after =>
            obtain ⟨more, location, renews⟩ := renewal kept second
            simp only [second]
            exact .made (adds.trans more)
              { renews with new := adds.within.get?_eq_none renews.new }
          | error fault =>
            have named : Path.IsName last := by
              refine ⟨child.busy ?_, level⟩
              rintro rfl
              exact renews.ne_nil adds.within rfl
            -- The parent is new and still empty, so that the directory cannot be in it.
            have absent (location : Location) : ¬between.Reaches path.segments location := by
              intro reached
              obtain ⟨directory, above, there⟩ := reached.parent child
              exact there named (renews.get?_eq_none above last)
            have unmade : between.hasDirectory path = false := by
              by_contra there
              obtain ⟨location, reached⟩ :=
                exists_reaches_of_hasDirectory child.ne_root (by simpa using there)
              exact absent location reached
            simp only [second, unmade, Bool.false_eq_true, if_false]
            exact .failed adds absent
        | failed adds missing =>
          refine .failed (adds.mono (List.subset_cons_self path ancestors)) ?_
          intro location reached
          obtain ⟨directory, above, -⟩ := reached.parent child
          exact missing directory above
      · rw [makeLineage_of_error first missing]
        exact .unchanged _

end SoloScript.File.Tree
