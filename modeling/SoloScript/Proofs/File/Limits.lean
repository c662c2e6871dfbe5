import Mathlib.Tactic.SplitIfs
import SoloScript.File.Walk
import SoloScript.Proofs.File.Path

/-!
# Paths within the limits

The segments of every ancestor of a path are the first segments of the path, and its text is a part
that the text of the path starts with.  So the ancestors of a path that is sound are sound as well.
-/

namespace SoloScript.File.Path

open Text

/-! ## Ancestors -/

/-- The segments of a path, and of all above it, are the first of those of the path. -/
theorem prefix_of_mem_lineage {segments ancestor : List String} (mem : ancestor ∈ lineage segments) :
    ancestor <+: segments := by
  induction segments using lineage.induct with
  | case1 segments none =>
    rw [lineage_of_none none] at mem
    simp at mem
  | case2 segments parent above _ ih =>
    rw [lineage_of_some above] at mem
    rcases List.mem_cons.1 mem with rfl | higher
    · exact List.prefix_refl _
    · cases segments with
      | nil => simp [parentSegments?] at above
      | cons first others =>
        obtain ⟨idle, trailing, split, -⟩ := (isChild_of_parentSegments? above).split
        refine (ih higher).trans ?_
        rw [split, List.append_assoc]
        exact List.prefix_append _ _

/-- Only what has a parent is an ancestor. -/
theorem parentSegments?_of_mem_lineage {segments ancestor : List String}
    (mem : ancestor ∈ lineage segments) : ∃ parent, parentSegments? ancestor = some parent := by
  induction segments using lineage.induct with
  | case1 segments none =>
    rw [lineage_of_none none] at mem
    simp at mem
  | case2 segments parent above _ ih =>
    rw [lineage_of_some above] at mem
    rcases List.mem_cons.1 mem with rfl | mem
    · exact ⟨parent, above⟩
    · exact ih mem

/-! ## Texts -/

/-- A path is its segments joined by slashes. -/
theorem text_eq_intercalate (path : Path) : path.text = "/".intercalate path.segments := by
  have slash : "/".toList = ['/'] := rfl
  rw [← String.toList_inj, String.toList_intercalate, slash, Path.segments, List.map_map]
  simpa [Function.comp_def] using (intercalate_pieces '/' path.text.toList).symm

/-- The text of the first segments starts the text of all of them. -/
theorem toList_intercalate_prefix {init segments : List String} (nonempty : init ≠ [])
    (h : init <+: segments) :
    ("/".intercalate init).toList <+: ("/".intercalate segments).toList := by
  obtain ⟨rest, rfl⟩ := h
  by_cases last : rest = []
  · simp [last]
  · rw [String.intercalate_append_of_ne_nil nonempty last]
    simp

theorem fault?_eq_none_iff {path : Path} :
    path.fault? = none ↔ '\x00' ∉ path.text.toList ∧ path.text ≠ "" ∧
      Utf8.size path.text.toList ≤ maxBytes := by
  rw [fault?]
  split_ifs with nul empty long
  · simp [nul]
  · simp [empty]
  · simp [Nat.not_le.2 long]
  · simp [nul, empty, Nat.not_lt.1 long]

/-! ## Limits -/

/-- A path and its names are ones that an operating system takes. -/
structure WithinLimits (path : Path) : Prop where
  sound : path.fault? = none
  short : ∀ segment ∈ path.segments, ¬Tree.isTooLong segment

/-- What starts like a path within the limits is within them. -/
theorem WithinLimits.ofSegments {path : Path} {segments : List String} (h : path.WithinLimits)
    (above : segments <+: path.segments) (nonempty : segments ≠ []) (root : segments ≠ [""]) :
    (ofSegments segments).WithinLimits := by
  have free : ∀ segment ∈ segments, '/' ∉ segment.toList :=
    fun segment mem ↦ slash_notMem_of_mem_segments (above.subset mem)
  obtain ⟨clean, -, small⟩ := fault?_eq_none_iff.1 h.sound
  have starts := toList_intercalate_prefix nonempty above
  rw [← text_eq_intercalate] at starts
  refine ⟨fault?_eq_none_iff.2 ⟨?_, mt (eq_nil_of_text_ofSegments free) nonempty, ?_⟩, ?_⟩
  · rw [ofSegments_of_ne root]
    exact fun mem ↦ clean (starts.subset mem)
  · rw [ofSegments_of_ne root]
    obtain ⟨rest, split⟩ := starts
    rw [← split, Utf8.size_append] at small
    exact Nat.le_of_add_right_le small
  · rw [segments_ofSegments nonempty root free]
    exact fun segment mem ↦ h.short segment (above.subset mem)

theorem WithinLimits.of_mem_ancestors {path ancestor : Path} (h : path.WithinLimits)
    (mem : ancestor ∈ path.ancestors.tail) : ancestor.WithinLimits := by
  obtain ⟨segments, above, rfl⟩ := List.mem_map.1 (List.mem_of_mem_tail mem)
  obtain ⟨parent, some⟩ := parentSegments?_of_mem_lineage above
  refine h.ofSegments (prefix_of_mem_lineage above) ?_ ?_
  · rintro rfl
    simp [parentSegments?] at some
  · rintro rfl
    simp [parentSegments?, dropIdle] at some

end SoloScript.File.Path
