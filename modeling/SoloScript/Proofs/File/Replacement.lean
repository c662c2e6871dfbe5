import SoloScript.Proofs.File.Slot

/-!
# Walks past an entry

A walk to a directory goes through directories and links.  So nothing else is in its way: it goes
the same way when such an entry is erased.
-/

namespace SoloScript.File.Tree

variable {tree : Tree} {place directory location : Location} {segments : List String}
  {name : String} {rest : List String} {links : Nat} {path : Path} {slot : Slot}

/-- No walk leads on from this place. -/
def IsEnd (tree : Tree) (place : Location) : Prop :=
  ∀ entry, tree.get? place = some entry → ∃ bytes, entry = .file bytes

theorem isEnd_of_get?_eq_none (absent : tree.get? place = none) : tree.IsEnd place := by
  intro entry there
  rw [absent] at there
  cases there

theorem isEnd_of_file {bytes : List UInt8} (file : tree.get? place = some (.file bytes)) :
    tree.IsEnd place := by
  intro entry there
  rw [file] at there
  exact ⟨bytes, (Option.some.inj there).symm⟩

theorem IsEnd.plain (h : tree.IsEnd place) : tree.get? place ≠ some .directory := by
  intro directory
  obtain ⟨bytes, same⟩ := h _ directory
  cases same

theorem IsEnd.ne_of_link {target : Path} (h : tree.IsEnd place)
    (link : tree.get? location = some (.link target)) : location ≠ place := by
  rintro rfl
  obtain ⟨bytes, same⟩ := h _ link
  cases same

theorem IsEnd.isDirectory_eq_false (h : tree.IsEnd place) : tree.isDirectory place = false := by
  simpa [isDirectory] using h.plain

theorem IsEnd.outside (h : tree.IsEnd place) : place.isPrefixOf tree.base = false :=
  not_isPrefixOf_of_get?_ne h.plain

theorem IsEnd.erase (h : tree.IsEnd place) (other : Location) : (tree.erase other).IsEnd place :=
  fun entry there ↦ h entry ((within_erase tree other).get? there)

theorem erase_within_set (tree : Tree) (place : Location) (entry : Entry) :
    (tree.erase place).Within (tree.set place entry) :=
  erase_set tree place entry ▸ within_erase (tree.set place entry) place

/-! ## Walks -/

/-- Only from a directory does a walk get to a directory. -/
theorem isDirectory_of_advance {links left : Nat}
    (walked : tree.advance links directory segments = .ok (location, left))
    (inside : tree.isDirectory location) : tree.isDirectory directory := by
  cases segments with
  | nil =>
    rw [advance] at walked
    cases walked
    exact inside
  | cons name rest => exact isDirectory_of_move (move_ne_stop_of_advance walked)

/-- A move to a directory, or through a link, does not depend on an end. -/
theorem IsEnd.move_erase (h : tree.IsEnd place)
    (moved : ∀ fault, tree.move directory name ≠ .stop fault)
    (inside : ∀ location, tree.move directory name = .to location → tree.isDirectory location) :
    (tree.erase place).move directory name = tree.move directory name := by
  have around := isDirectory_of_move moved
  have kept := isDirectory_erase h.plain around
  refine move_congr (kept.trans around.symm) fun named short ↦ get?_erase_of_ne ?_
  rintro rfl
  rw [move_of_isName around named short] at moved inside
  cases found : tree.get? (directory ++ [name]) with
  | none => simp [found] at moved
  | some entry =>
    obtain ⟨bytes, rfl⟩ := h entry found
    simp [found, isDirectory] at inside

/-- A walk to a directory does not depend on an end. -/
theorem IsEnd.advance_erase (h : tree.IsEnd place) {links left : Nat}
    (walked : tree.advance links directory segments = .ok (location, left))
    (inside : tree.isDirectory location) :
    (tree.erase place).advance links directory segments = .ok (location, left) := by
  refine advance_of_moves (fun links directory name rest arrived ↦ ?_) walked
  refine h.move_erase (move_ne_stop_of_advance arrived) fun next moved ↦ ?_
  rw [advance, moved] at arrived
  exact isDirectory_of_advance arrived inside

theorem IsEnd.reaches_erase (h : tree.IsEnd place) (reached : tree.Reaches segments location) :
    (tree.erase place).Reaches segments location := by
  obtain ⟨left, walked, inside⟩ := reached
  exact ⟨left, h.advance_erase walked inside, isDirectory_erase h.plain inside⟩

/-! ## Walks that come to no directory -/

/-- No directory is at the end of a walk. -/
def Blocked (tree : Tree) (links : Nat) (directory : Location) (segments : List String) : Prop :=
  ∀ location left, tree.advance links directory segments = .ok (location, left) →
    tree.isDirectory location = false

theorem blocked_of_not_isDirectory (outside : tree.isDirectory directory = false) (links : Nat)
    (segments : List String) : tree.Blocked links directory segments := by
  intro location left walked
  by_contra inside
  have around := isDirectory_of_advance walked (by simpa using inside)
  simp [outside] at around

/-- A walk is blocked if it is blocked behind its first move. -/
theorem blocked_cons
    (h : match tree.move directory name with
      | .stop _ => True
      | .to location => tree.Blocked links location rest
      | .through target => ∀ fewer, links = fewer + 1 →
        tree.Blocked fewer (target.start directory) (target.segments ++ rest)) :
    tree.Blocked links directory (name :: rest) := by
  intro location left walked
  rw [advance] at walked
  rcases moved : tree.move directory name with fault | next | target
  · simp [moved] at walked
  · simp only [moved] at h walked
    exact h location left walked
  · simp only [moved] at h walked
    cases links with
    | zero => simp at walked
    | succ fewer => exact h fewer rfl location left walked

theorem blocked_of_move_to (moved : tree.move directory name = .to location)
    (outside : tree.isDirectory location = false) :
    tree.Blocked links directory (name :: rest) := by
  refine blocked_cons ?_
  rw [moved]
  exact blocked_of_not_isDirectory outside links rest

/-! ## Links replaced by files -/

section Link

variable {after : Tree} {target : Path} {bytes : List UInt8}
  (link : tree.get? place = some (.link target))
  (within : (tree.set place (.file bytes)).Within after)

include link within

/-- A move depends on a link only if it comes to the file that has replaced the link. -/
theorem move_erase_or_enters (moved : ∀ fault, tree.move directory name ≠ .stop fault) :
    (tree.erase place).move directory name = tree.move directory name ∨
      after.move directory name = .to place := by
  have around := isDirectory_of_move moved
  have kept : (tree.erase place).isDirectory directory :=
    isDirectory_erase (by simp [link]) around
  by_cases enters : Path.IsName name ∧ ¬isTooLong name ∧ directory ++ [name] = place
  · right
    obtain ⟨named, short, same⟩ := enters
    have inside := ((erase_within_set tree place _).trans within).isDirectory kept
    have file : after.get? place = some (.file bytes) :=
      within.get? (get?_set (not_isPrefixOf_of_get?_ne (by simp [link])))
    rw [move_of_isName inside named short, same, file]
  · left
    exact move_congr (kept.trans around.symm) fun named short ↦
      get?_erase_of_ne fun same ↦ enters ⟨named, short, same⟩

/-- A walk depends on a link only if it comes to no directory when a file has replaced the link. -/
theorem advance_erase_or_blocked {links left : Nat}
    (walked : tree.advance links directory segments = .ok (location, left)) :
    (tree.erase place).advance links directory segments = .ok (location, left) ∨
      after.Blocked links directory segments := by
  have file : after.isDirectory place = false := by
    have there := within.get? (get?_set (not_isPrefixOf_of_get?_ne (by simp [link])))
    simp [isDirectory, there]
  have more := (erase_within_set tree place _).trans within
  fun_induction Tree.advance tree links directory segments with
  | case1 =>
    left
    rwa [advance]
  | case2 => simp at walked
  | case3 links directory name segments next moved ih =>
    have onward : ∀ fault, tree.move directory name ≠ .stop fault := by simp [moved]
    rcases move_erase_or_enters link within onward with same | entered
    · rcases ih walked with kept | blocked
      · left
        rw [advance, same, moved]
        exact kept
      · right
        refine blocked_cons ?_
        rw [more.move_eq (by simp [same, moved]), same, moved]
        exact blocked
    · exact .inr (blocked_of_move_to entered file)
  | case4 => simp at walked
  | case5 directory name segments target moved links ih =>
    have onward : ∀ fault, tree.move directory name ≠ .stop fault := by simp [moved]
    rcases move_erase_or_enters link within onward with same | entered
    · rcases ih walked with kept | blocked
      · left
        rw [advance, same, moved]
        exact kept
      · right
        refine blocked_cons ?_
        rw [more.move_eq (by simp [same, moved]), same, moved]
        intro fewer one
        cases one
        exact blocked
    · exact .inr (blocked_of_move_to entered file)

end Link

/-! ## Slots -/

theorem IsEnd.slot_erase (h : tree.IsEnd place) (placed : tree.slot path = .ok slot) :
    (tree.erase place).slot path = .ok slot :=
  slot_eq_ok_of_reaches (base_erase tree place) (fun _ _ reached ↦ h.reaches_erase reached) placed

/-- Putting a file in a place opens no way to a slot. -/
theorem slot_of_set_file {bytes : List UInt8} (outside : place.isPrefixOf tree.base = false)
    (placed : (tree.set place (.file bytes)).slot path = .ok slot) :
    (tree.erase place).slot path = .ok slot := by
  rw [← erase_set tree place (.file bytes)]
  exact (isEnd_of_file (get?_set outside)).slot_erase placed

end SoloScript.File.Tree
