import SoloScript.Proofs.File.Walk

/-!
# Lemmas on slots

The slot of a path lies in the directory that all but its last segment lead to.
-/

namespace SoloScript.File.Tree

variable {tree before after : Tree} {path : Path} {slot : Slot}

/-- A slot for anything but a directory: its name is not too long, and no slashes follow it. -/
structure Slot.Fits (slot : Slot) : Prop where
  isName : slot.isName
  short : ¬isTooLong slot.last
  slash : slot.slash = false

/-! ## The slot of a path -/

/-- The slot of a path whose last segment that is not blank is `last`. -/
theorem slot_eq {segments blank : List String} {last : String}
    (split : path.segments = segments ++ last :: blank) (named : last ≠ "")
    (nothing : ∀ segment ∈ blank, segment = "") (faultless : path.fault? = none) :
    tree.slot path =
      (tree.advance maxLinks (Path.origin segments tree.base) segments).map Prod.fst >>=
        fun directory ↦
          if tree.isDirectory directory then .ok ⟨directory, last, decide (blank ≠ [])⟩
          else .error .notDirectory := by
  have start : path.start tree.base = Path.origin segments tree.base := by
    rw [Path.start_eq_origin, split, Path.origin_append_cons named]
    rw [split]
    exact Path.append_cons_ne_root named
  have reversed : path.segments.reverse = blank.reverse ++ last :: segments.reverse := by
    simp [split]
  have dropped : path.segments.reverse.dropWhile (· = "") = last :: segments.reverse := by
    rw [reversed, List.dropWhile_append_of_pos (by simpa using nothing), List.dropWhile_cons_of_neg]
    simpa using named
  have slash : decide (path.segments.reverse.head? = some "") = decide (blank ≠ []) := by
    rcases List.eq_nil_or_concat' blank with rfl | ⟨init, final, rfl⟩
    · simp [reversed, named]
    · simp [reversed, nothing final]
  rw [Tree.slot, faultless]
  simp only [dropped, start, slash, List.reverse_reverse, follow_false]
  rfl

theorem slot_eq_ok_iff {segments blank : List String} {last : String}
    (split : path.segments = segments ++ last :: blank) (named : last ≠ "")
    (nothing : ∀ segment ∈ blank, segment = "") :
    tree.slot path = .ok slot ↔
      path.fault? = none ∧ tree.Reaches segments slot.directory ∧ slot.last = last ∧
        slot.slash = decide (blank ≠ []) := by
  cases faultless : path.fault? with
  | some fault => simp [Tree.slot, faultless]
  | none =>
    simp only [slot_eq split named nothing faultless, Outcome.bind_eq_ok_iff,
      Outcome.map_eq_ok_iff, true_and]
    obtain ⟨directory, name, slashed⟩ := slot
    constructor
    · rintro ⟨_, ⟨⟨_, left⟩, walked, rfl⟩, placed⟩
      split at placed
      · rename_i inside
        cases placed
        exact ⟨⟨left, walked, inside⟩, rfl, rfl⟩
      · cases placed
    · rintro ⟨⟨left, walked, inside⟩, rfl, rfl⟩
      exact ⟨directory, ⟨(directory, left), walked, rfl⟩, by rw [if_pos inside]⟩

/-- The slot of a path of slashes only. -/
theorem slot_eq_ok_iff_of_blank (blank : ∀ segment ∈ path.segments, segment = "") :
    tree.slot path = .ok slot ↔
      path.fault? = none ∧ slot = ⟨path.start tree.base, ".", true⟩ := by
  have bare : path.segments.reverse.dropWhile (· = "") = [] := by
    rw [List.dropWhile_eq_nil_iff]
    simpa using blank
  simp only [Tree.slot, bare]
  cases path.fault? with
  | some fault => simp
  | none => simp [eq_comm]

/-- A path leads to the same slot where its segments lead to the same directories. -/
theorem slot_eq_ok_of_reaches (base : after.base = before.base)
    (reaches : ∀ segments location, before.Reaches segments location →
      after.Reaches segments location)
    (placed : before.slot path = .ok slot) : after.slot path = .ok slot := by
  obtain ⟨blank, nothing, root | ⟨init, last, split, named⟩⟩ :=
    Path.exists_eq_append_blank path.segments
  · rw [← root] at nothing
    rw [slot_eq_ok_iff_of_blank nothing] at placed ⊢
    rwa [base]
  · rw [List.append_assoc, List.singleton_append] at split
    rw [slot_eq_ok_iff split named nothing] at placed ⊢
    obtain ⟨faultless, reached, others⟩ := placed
    exact ⟨faultless, reaches _ _ reached, others⟩

/-- A path leads to the same slot in every tree with more entries. -/
theorem Within.slot_eq_ok (h : before.Within after) (placed : before.slot path = .ok slot) :
    after.slot path = .ok slot :=
  slot_eq_ok_of_reaches h.base (fun _ _ reached ↦ h.reaches reached) placed

/-- A path with a file name leads to a slot in the directory of its parent, which holds that name
if the slot is not the one for it. -/
theorem exists_reaches_of_slot {parent : List String} {name : String}
    (child : Path.IsChild parent name path.segments) (named : Path.IsName name)
    (h : tree.slot path = .ok slot) :
    ∃ directory, tree.Reaches parent directory ∧
      (slot.directory = directory ∧ slot.last = name ∨ tree.get? (directory ++ [name]) ≠ none) := by
  obtain ⟨idle, trailing, split, still, -, apart⟩ := child.split
  obtain ⟨blank, nothing, rfl | ⟨init, last, rfl, busy⟩⟩ := Path.exists_eq_append_blank trailing
  · -- Only slashes stand behind the name.
    obtain ⟨-, reached, last, -⟩ := (slot_eq_ok_iff split child.nonempty nothing).1 h
    exact ⟨_, (reaches_append_idle apart still).1 reached, .inl ⟨rfl, last⟩⟩
  · -- The walk to the slot goes through the name.
    have deeper : path.segments = (parent ++ idle ++ name :: init) ++ last :: blank := by
      simp [split]
    obtain ⟨-, reached, -⟩ := (slot_eq_ok_iff deeper busy nothing).1 h
    obtain ⟨directory, above, found⟩ := reached.of_append_cons child.nonempty
    exact ⟨directory, (reaches_append_idle apart still).1 above, .inr (found named)⟩

/-! ## What is at a path -/

theorem Slot.isName_iff (nonempty : slot.last ≠ "") :
    slot.isName ↔ Path.IsName slot.last := by
  simp [Slot.isName, Path.IsName, Path.isIdle, nonempty]

theorem Slot.entry?_eq_ok_iff {found : Option Entry} :
    slot.entry? tree = .ok found ↔ ¬isTooLong slot.last ∧ tree.get? slot.location = found := by
  rw [Slot.entry?]
  split
  · simp_all
  · simp_all

/-- The location that a slot stands for. -/
def Slot.place (slot : Slot) : Location :=
  if slot.last = "." then slot.directory
  else if slot.last = ".." then slot.directory.dropLast
  else slot.location

/-- What is at a path; a link at its end is not followed, and slashes there make no difference. -/
def entryAt? (tree : Tree) (path : Path) : Option Entry :=
  match tree.slot path with
  | .ok slot => tree.get? slot.place
  | .error _ => none

theorem place_of_isName (h : slot.isName) : slot.place = slot.location := by
  simp only [Slot.isName, Bool.and_eq_true, decide_eq_true_eq] at h
  rw [Slot.place, if_neg h.1, if_neg h.2]

theorem entryAt?_eq_of_slot (placed : tree.slot path = .ok slot) (isName : slot.isName) :
    tree.entryAt? path = tree.get? slot.location := by
  simp only [entryAt?, placed, place_of_isName isName]

/-- What is at a path is there in every tree with more entries. -/
theorem Within.entryAt? (h : before.Within after) {entry : Entry}
    (there : before.entryAt? path = some entry) : after.entryAt? path = some entry := by
  cases placed : before.slot path with
  | error fault => simp [Tree.entryAt?, placed] at there
  | ok slot =>
    simp only [Tree.entryAt?, placed, h.slot_eq_ok placed] at there ⊢
    exact h.get? there

/-- Nothing is at a path if its name is not in the directory that its parent leads to. -/
theorem entryAt?_eq_none {parent : List String} {name : String}
    (child : Path.IsChild parent name path.segments) (named : Path.IsName name)
    (absent : ∀ directory, tree.Reaches parent directory → tree.get? (directory ++ [name]) = none) :
    tree.entryAt? path = none := by
  rw [entryAt?]
  split
  · rename_i slot placed
    obtain ⟨directory, reached, ⟨rfl, rfl⟩ | found⟩ := exists_reaches_of_slot child named placed
    · rw [place_of_isName ((Slot.isName_iff named.ne_empty).2 named)]
      exact absent _ reached
    · exact absurd (absent _ reached) found
  · rfl

end SoloScript.File.Tree
