import Mathlib.Tactic.ByContra
import SoloScript.File.Tree

/-!
# Lemmas on file trees

A tree is well formed if every entry lies in a directory.  One tree lies *within* another if all of
its entries are there as well.
-/

namespace SoloScript.File.Tree

variable {tree before between after : Tree} {location : Location} {entry : Entry}

theorem isDirectory_iff : tree.isDirectory location ↔ tree.get? location = some .directory := by
  simp [isDirectory]

theorem get?_base (tree : Tree) : tree.get? tree.base = some .directory := by
  simp [get?]

theorem get?_root (tree : Tree) : tree.get? [] = some .directory := by
  simp [get?]

/-! ## Well-formed trees -/

/-- Every entry lies in a directory. -/
def WellFormed (tree : Tree) : Prop :=
  ∀ location name, tree.get? (location ++ [name]) ≠ none → tree.get? location = some .directory

theorem wellFormed_empty (base : Location) : (empty base).WellFormed := by
  intro location name h
  simp only [empty, get?, List.find?_nil, Option.map_none, List.isPrefixOf_iff_prefix] at h ⊢
  by_cases above : location ++ [name] <+: base
  · rw [if_pos ((List.prefix_append _ _).trans above)]
  · simp [above] at h

/-- Only directories are on the way to the working directory. -/
theorem not_isPrefixOf_of_get?_ne (h : tree.get? location ≠ some .directory) :
    location.isPrefixOf tree.base = false := by
  by_contra above
  exact h (get?_of_isPrefixOf (by simpa using above))

theorem not_isPrefixOf_of_get?_eq_none (h : tree.get? location = none) :
    location.isPrefixOf tree.base = false :=
  not_isPrefixOf_of_get?_ne (by simp [h])

/-- An entry in a directory keeps a tree well formed, unless it replaces a directory. -/
theorem WellFormed.set {name : String} (h : tree.WellFormed)
    (inside : tree.get? location = some .directory)
    (plain : tree.get? (location ++ [name]) ≠ some .directory) :
    (tree.set (location ++ [name]) entry).WellFormed := by
  intro other last there
  have kept : tree.get? other = some .directory →
      (tree.set (location ++ [name]) entry).get? other = some .directory := fun directory ↦ by
    rw [get?_set_of_ne, directory]
    rintro rfl
    exact plain directory
  by_cases same : other ++ [last] = location ++ [name]
  · obtain ⟨rfl, -⟩ := List.append_inj' same rfl
    exact kept inside
  · rw [get?_set_of_ne same] at there
    exact kept (h other last there)

/-- Without an entry that is not a directory, a tree stays well formed. -/
theorem WellFormed.erase (h : tree.WellFormed) (plain : tree.get? location ≠ some .directory) :
    (tree.erase location).WellFormed := by
  have outside := not_isPrefixOf_of_get?_ne plain
  intro other name there
  have different : other ++ [name] ≠ location := by
    intro same
    rw [same, get?_erase outside] at there
    exact there rfl
  rw [get?_erase_of_ne different] at there
  have directory := h other name there
  rw [get?_erase_of_ne, directory]
  rintro rfl
  exact plain directory

/-- Nothing lies below a place where there is nothing. -/
theorem WellFormed.get?_append_eq_none (h : tree.WellFormed) (new : tree.get? location = none)
    (name : String) : tree.get? (location ++ [name]) = none := by
  by_contra there
  have := h location name there
  simp [new] at this

/-! ## Trees within trees -/

/-- All entries of `before` are in `after`, and both have the same working directory. -/
structure Within (before after : Tree) : Prop where
  base : after.base = before.base
  get? : ∀ {location entry}, before.get? location = some entry → after.get? location = some entry

namespace Within

theorem refl (tree : Tree) : tree.Within tree := ⟨rfl, id⟩

theorem trans (first : before.Within between) (second : between.Within after) :
    before.Within after :=
  ⟨second.base.trans first.base, fun h ↦ second.get? (first.get? h)⟩

theorem isDirectory (h : before.Within after) (directory : before.isDirectory location) :
    after.isDirectory location := by
  rw [isDirectory_iff] at directory ⊢
  exact h.get? directory

theorem get?_eq_none (h : before.Within after) (absent : after.get? location = none) :
    before.get? location = none := by
  by_contra there
  obtain ⟨entry, found⟩ := Option.ne_none_iff_exists'.1 there
  rw [h.get? found] at absent
  simp at absent

end Within

/-- A tree lies within the one with a new entry. -/
theorem within_set (new : tree.get? location = none) : tree.Within (tree.set location entry) := by
  refine ⟨rfl, fun {other found} there ↦ ?_⟩
  rw [get?_set_of_ne, there]
  rintro rfl
  simp [new] at there

theorem within_erase (tree : Tree) (location : Location) : (tree.erase location).Within tree := by
  refine ⟨rfl, fun {other found} there ↦ ?_⟩
  by_cases same : other = location
  · subst same
    cases above : other.isPrefixOf tree.base with
    | true =>
      have kept : (tree.erase other).get? other = some .directory := get?_of_isPrefixOf above
      rw [kept] at there
      rw [get?_of_isPrefixOf above, there]
    | false => simp [get?_erase above] at there
  · rwa [get?_erase_of_ne same] at there

theorem isDirectory_erase {directory : Location} (plain : tree.get? location ≠ some .directory)
    (inside : tree.isDirectory directory) : (tree.erase location).isDirectory directory := by
  rw [isDirectory_iff] at inside ⊢
  rw [get?_erase_of_ne, inside]
  rintro rfl
  exact plain inside

/-- Setting an entry and erasing it is erasing what was there. -/
theorem erase_set (tree : Tree) (location : Location) (entry : Entry) :
    (tree.set location entry).erase location = tree.erase location := by
  simp only [Tree.erase, Tree.set, ne_eq, not_true_eq_false, decide_false, Bool.false_eq_true,
    not_false_eq_true, List.filter_cons_of_neg, List.filter_filter, Bool.and_self]

/-- An entry set twice is the one set last. -/
theorem set_set (tree : Tree) (location : Location) (entry other : Entry) :
    (tree.set location entry).set location other = tree.set location other := by
  rw [Tree.set, erase_set]
  rfl

theorem erase_comm (tree : Tree) (location other : Location) :
    (tree.erase location).erase other = (tree.erase other).erase location := by
  simp only [Tree.erase, List.filter_filter, Bool.and_comm]

/-- Erasing what is not there changes nothing. -/
theorem erase_of_get?_eq_none (new : tree.get? location = none) : tree.erase location = tree := by
  have absent : ∀ pair ∈ tree.entries, pair.1 ≠ location := by
    simp only [Tree.get?, not_isPrefixOf_of_get?_eq_none new, Bool.false_eq_true, if_false,
      Option.map_eq_none_iff, List.find?_eq_none, decide_eq_true_eq] at new
    exact new
  have kept : tree.entries.filter (·.1 ≠ location) = tree.entries := by
    rw [List.filter_eq_self]
    simpa using absent
  rw [Tree.erase, kept]

/-- Erasing a new entry gives the old tree back. -/
theorem erase_set_of_new (new : tree.get? location = none) :
    (tree.set location entry).erase location = tree :=
  (erase_set tree location entry).trans (erase_of_get?_eq_none new)

end SoloScript.File.Tree
