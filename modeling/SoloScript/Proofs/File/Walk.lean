import Mathlib.Tactic.ByContra
import Mathlib.Tactic.SplitIfs
import SoloScript.File.Walk
import SoloScript.Proofs.File.Path
import SoloScript.Proofs.File.Tree
import SoloScript.Proofs.Outcome

/-!
# Lemmas on walks

A walk is a sequence of moves, one for each segment, and a move through a link puts the segments of
its target in the way.  `advance` is a walk through segments that must all be there; it tells how
many links it may still follow.  Any walk is such a walk through all but its last segment, and then
one more step.  A walk that succeeds in a tree goes the same way in every tree that has more
entries.
-/

namespace SoloScript.File.Tree

variable {tree before after : Tree}

/-! ## Moves -/

/-- What a walk does at one segment. -/
inductive Move where
  | stop (fault : Fault)
  | to (location : Location)
  | through (target : Path)

/-- The move from a directory along a segment that must be there. -/
def move (tree : Tree) (directory : Location) (name : String) : Move :=
  if !tree.isDirectory directory then .stop .notDirectory
  else if Path.isIdle name then .to directory
  else if name = ".." then .to directory.dropLast
  else if isTooLong name then .stop .nameTooLong
  else
    match tree.get? (directory ++ [name]) with
    | none => .stop .notFound
    | some (.link target) => .through target
    | some _ => .to (directory ++ [name])

theorem move_of_isName {directory : Location} {name : String} (inside : tree.isDirectory directory)
    (named : Path.IsName name) (short : ¬isTooLong name) :
    tree.move directory name =
      match tree.get? (directory ++ [name]) with
      | none => .stop .notFound
      | some (.link target) => .through target
      | some _ => .to (directory ++ [name]) := by
  simp only [move, inside, Bool.not_true, Bool.false_eq_true, if_false, if_neg named.1,
    if_neg named.2, if_neg short]

theorem isDirectory_of_move {directory : Location} {name : String}
    (moved : ∀ fault, tree.move directory name ≠ .stop fault) : tree.isDirectory directory := by
  by_contra outside
  exact moved .notDirectory (by simp [move, outside])

/-- A move depends on nothing but the directory that it begins in and the entry that it comes to. -/
theorem move_congr {directory : Location} {name : String}
    (same : after.isDirectory directory = before.isDirectory directory)
    (found : Path.IsName name → ¬isTooLong name →
      after.get? (directory ++ [name]) = before.get? (directory ++ [name])) :
    after.move directory name = before.move directory name := by
  simp only [move, same]
  split_ifs with outside idle up long
  · rfl
  · rfl
  · rfl
  · rfl
  · rw [found ⟨idle, up⟩ long]

/-- Walks from a directory along `segments`: where that leads, and how many of `links` are left. -/
def advance (tree : Tree) (links : Nat) (directory : Location) (segments : List String) :
    Except Fault (Location × Nat) :=
  match segments with
  | [] => .ok (directory, links)
  | name :: rest =>
    match tree.move directory name with
    | .stop fault => .error fault
    | .to location => tree.advance links location rest
    | .through target =>
      match links with
      | 0 => .error .tooManyLinks
      | links + 1 => tree.advance links (target.start directory) (target.segments ++ rest)
termination_by (links, segments.length)

/-- A walk makes the move at its first segment, unless that is the last one of a file that may have
to be created. -/
theorem follow_cons (tree : Tree) {create : Bool} (links : Nat) (directory : Location)
    (name : String) {rest : List String} (more : create = true → ∃ segment ∈ rest, segment ≠ "") :
    tree.follow create links directory (name :: rest) =
      match tree.move directory name with
      | .stop fault => .error fault
      | .to location => tree.follow create links location rest
      | .through target =>
        match links with
        | 0 => .error .tooManyLinks
        | links + 1 =>
          tree.follow create links (target.start directory) (target.segments ++ rest) := by
  have unfinished : ¬(create ∧ rest ≠ [] ∧ rest.all (· = "")) := by
    rintro ⟨creating, -, blank⟩
    obtain ⟨segment, mem, named⟩ := more creating
    exact named (by simpa using List.all_eq_true.1 blank segment mem)
  have onward : ¬(create ∧ rest = []) := by
    rintro ⟨creating, rfl⟩
    simp at more
    exact absurd creating (by simp [more])
  rw [follow, if_neg unfinished, move]
  simp only [if_neg onward]
  split_ifs with outside idle up long
  · rfl
  · rfl
  · rfl
  · rfl
  · rcases tree.get? (directory ++ [name]) with _ | _ | _ | target
    · rfl
    · rfl
    · rfl
    · cases links <;> rfl

/-- A walk that gets somewhere stops only at a file that may have to be created. -/
theorem move_of_follow {create : Bool} {links : Nat} {directory place : Location} {name : String}
    {rest : List String} (h : tree.follow create links directory (name :: rest) = .ok place) :
    match tree.move directory name with
    | .stop _ => place = directory ++ [name]
    | .to location => tree.follow create links location rest = .ok place
    | .through target => ∃ fewer, links = fewer + 1 ∧
      tree.follow create fewer (target.start directory) (target.segments ++ rest) = .ok place := by
  rw [follow] at h
  rw [move]
  by_cases outside : !tree.isDirectory directory
  · rw [if_pos outside] at h
    cases h
  rw [if_neg outside] at h ⊢
  by_cases idle : Path.isIdle name
  · rwa [if_pos idle] at h ⊢
  rw [if_neg idle] at h ⊢
  by_cases up : name = ".."
  · rwa [if_pos up] at h ⊢
  rw [if_neg up] at h ⊢
  split at h
  · cases h
  by_cases long : isTooLong name
  · rw [if_pos long] at h
    cases h
  rw [if_neg long] at h ⊢
  dsimp only at h
  generalize tree.get? (directory ++ [name]) = found at h ⊢
  rcases found with _ | _ | _ | target
  · dsimp only at h ⊢
    split at h
    · exact (Except.ok.inj h).symm
    · cases h
  · exact h
  · exact h
  · cases links with
    | zero => cases h
    | succ fewer => exact ⟨fewer, rfl, h⟩

/-! ## Walks in stages -/

/-- A walk through some segments and then more walks through the first and goes on from there. -/
theorem follow_append (tree : Tree) (create : Bool) (links : Nat) (directory : Location)
    (segments : List String) {rest : List String} (more : ∃ segment ∈ rest, segment ≠ "") :
    tree.follow create links directory (segments ++ rest) =
      tree.advance links directory segments >>= fun (location, left) ↦
        tree.follow create left location rest := by
  have later (segments : List String) : ∃ segment ∈ segments ++ rest, segment ≠ "" := by
    obtain ⟨segment, mem, named⟩ := more
    exact ⟨segment, by simp [mem], named⟩
  fun_induction advance tree links directory segments with
  | case1 => rfl
  | case2 links directory name segments fault stopped =>
    rw [List.cons_append, follow_cons _ _ _ _ fun _ ↦ later segments, stopped]
    rfl
  | case3 links directory name segments location moved ih =>
    rw [List.cons_append, follow_cons _ _ _ _ fun _ ↦ later segments, moved]
    exact ih
  | case4 directory name segments target moved =>
    rw [List.cons_append, follow_cons _ _ _ _ fun _ ↦ later segments, moved]
    rfl
  | case5 directory name segments target moved links ih =>
    rw [List.cons_append, follow_cons _ _ _ _ fun _ ↦ later segments, moved]
    rw [List.append_assoc] at ih
    exact ih

/-- A walk to something that is there is one through all of its segments. -/
theorem follow_false (tree : Tree) (links : Nat) (directory : Location) (segments : List String) :
    tree.follow false links directory segments =
      (tree.advance links directory segments).map Prod.fst := by
  fun_induction advance tree links directory segments with
  | case1 =>
    rw [follow]
    rfl
  | case2 links directory name segments fault stopped =>
    rw [follow_cons _ _ _ _ (by simp), stopped]
    rfl
  | case3 links directory name segments location moved ih =>
    rw [follow_cons _ _ _ _ (by simp), moved]
    exact ih
  | case4 directory name segments target moved =>
    rw [follow_cons _ _ _ _ (by simp), moved]
    rfl
  | case5 directory name segments target moved links ih =>
    rw [follow_cons _ _ _ _ (by simp), moved]
    exact ih

/-- The last step to a file that may have to be created is one in a directory. -/
theorem follow_name {links : Nat} {directory location : Location} {name : String}
    (named : Path.IsName name) (h : tree.follow true links directory [name] = .ok location) :
    tree.isDirectory directory ∧ ¬isTooLong name := by
  rw [follow, if_neg named.1, if_neg named.2] at h
  by_cases inside : tree.isDirectory directory
  · by_cases long : isTooLong name
    · simp [inside, long] at h
    · exact ⟨inside, long⟩
  · simp [inside] at h

/-- That step goes on through a link, and ends at anything else. -/
theorem follow_name_eq (links : Nat) {directory : Location} {name : String}
    (named : Path.IsName name) (inside : tree.isDirectory directory) (short : ¬isTooLong name) :
    tree.follow true links directory [name] =
      match tree.get? (directory ++ [name]) with
      | some (.link target) =>
        match links with
        | 0 => .error .tooManyLinks
        | links + 1 => tree.follow true links (target.start directory) target.segments
      | _ => .ok (directory ++ [name]) := by
  rw [follow, if_neg named.1, if_neg named.2]
  simp only [inside, short, Bool.not_true, Bool.false_eq_true, if_false, ne_eq, not_true_eq_false,
    false_and, and_false, and_self, if_true, List.append_nil]
  rcases tree.get? (directory ++ [name]) with _ | _ | _ | target
  · rfl
  · exact follow.eq_1 ..
  · exact follow.eq_1 ..
  · cases links <;> rfl

theorem advance_append (tree : Tree) (links : Nat) (directory : Location)
    (segments rest : List String) :
    tree.advance links directory (segments ++ rest) =
      tree.advance links directory segments >>= fun (location, left) ↦
        tree.advance left location rest := by
  fun_induction advance tree links directory segments with
  | case1 => rfl
  | case2 links directory name segments fault stopped =>
    rw [List.cons_append, advance, stopped]
    rfl
  | case3 links directory name segments location moved ih =>
    rw [List.cons_append, advance, moved]
    exact ih
  | case4 directory name segments target moved =>
    rw [List.cons_append, advance, moved]
    rfl
  | case5 directory name segments target moved links ih =>
    rw [List.cons_append, advance, moved]
    rw [List.append_assoc] at ih
    exact ih

theorem advance_append_eq_ok_iff {links : Nat} {directory : Location} {segments rest : List String}
    {arrival : Location × Nat} :
    tree.advance links directory (segments ++ rest) = .ok arrival ↔
      ∃ location left, tree.advance links directory segments = .ok (location, left) ∧
        tree.advance left location rest = .ok arrival := by
  rw [advance_append, Outcome.bind_eq_ok_iff, Prod.exists]

/-! ## Walks in trees with more entries -/

/-- A move that does not stop is the same in every tree with more entries. -/
theorem Within.move_eq {directory : Location} {name : String} (h : before.Within after)
    (moved : ∀ fault, before.move directory name ≠ .stop fault) :
    after.move directory name = before.move directory name := by
  have inside := isDirectory_of_move moved
  refine move_congr ((h.isDirectory inside).trans inside.symm) fun named short ↦ ?_
  cases found : before.get? (directory ++ [name]) with
  | none =>
    rw [move_of_isName inside named short, found] at moved
    exact absurd rfl (moved .notFound)
  | some entry => exact h.get? found

theorem move_ne_stop_of_advance {links : Nat} {directory : Location} {name : String}
    {rest : List String} {arrival : Location × Nat}
    (walked : tree.advance links directory (name :: rest) = .ok arrival) (fault : Fault) :
    tree.move directory name ≠ .stop fault := by
  intro stops
  simp [advance, stops] at walked

/-- A walk that succeeds goes the same way in a tree where each of its moves is the same. -/
theorem advance_of_moves {links : Nat} {directory : Location} {segments : List String}
    {arrival : Location × Nat}
    (same : ∀ links directory name rest,
      before.advance links directory (name :: rest) = .ok arrival →
        after.move directory name = before.move directory name)
    (walked : before.advance links directory segments = .ok arrival) :
    after.advance links directory segments = .ok arrival := by
  fun_induction Tree.advance before links directory segments with
  | case1 => rwa [Tree.advance]
  | case2 => cases walked
  | case3 links directory name rest next moved ih =>
    have arrived : before.advance links directory (name :: rest) = .ok arrival := by
      rwa [Tree.advance, moved]
    rw [Tree.advance, same _ _ _ _ arrived, moved]
    exact ih walked
  | case4 => cases walked
  | case5 directory name rest target moved links ih =>
    have arrived : before.advance (links + 1) directory (name :: rest) = .ok arrival := by
      rwa [Tree.advance, moved]
    rw [Tree.advance, same _ _ _ _ arrived, moved]
    exact ih walked

/-- A walk that succeeds goes the same way in every tree with more entries. -/
theorem Within.advance (h : before.Within after) {links left : Nat}
    {directory location : Location} {segments : List String}
    (walked : before.advance links directory segments = .ok (location, left)) :
    after.advance links directory segments = .ok (location, left) :=
  advance_of_moves (fun _ _ _ _ arrived ↦ h.move_eq (move_ne_stop_of_advance arrived)) walked

/-- A walk along idle segments stays where it is. -/
theorem advance_idle {links : Nat} {directory : Location} {segments : List String}
    (inside : tree.isDirectory directory) (idle : ∀ segment ∈ segments, Path.isIdle segment) :
    tree.advance links directory segments = .ok (directory, links) := by
  induction segments with
  | nil => rw [advance]
  | cons segment segments ih =>
    obtain ⟨still, idle⟩ := List.forall_mem_cons.1 idle
    have stays : tree.move directory segment = .to directory := by simp [move, inside, still]
    rw [advance, stays]
    exact ih idle

/-- A walk cannot enter what is not there. -/
theorem advance_of_get?_eq_none {directory : Location} {name : String} (links : Nat)
    (rest : List String) (named : Path.IsName name)
    (absent : tree.get? (directory ++ [name]) = none) :
    ∃ fault, tree.advance links directory (name :: rest) = .error fault := by
  have stops : ∃ fault, tree.move directory name = .stop fault := by
    simp only [move, absent, if_neg named.1, if_neg named.2]
    split_ifs
    · exact ⟨_, rfl⟩
    · exact ⟨_, rfl⟩
    · exact ⟨_, rfl⟩
  obtain ⟨fault, stops⟩ := stops
  exact ⟨fault, by rw [advance, stops]⟩

/-! ## Reaching directories -/

/-- The directory that segments lead to from the working directory of a tree, or from its root. -/
def Reaches (tree : Tree) (segments : List String) (location : Location) : Prop :=
  ∃ left, tree.advance maxLinks (Path.origin segments tree.base) segments = .ok (location, left) ∧
    tree.isDirectory location

theorem reaches_nil (tree : Tree) : tree.Reaches [] tree.base :=
  ⟨maxLinks, by simp [advance, Path.origin], isDirectory_iff.2 (get?_base tree)⟩

theorem Reaches.unique {segments : List String} {location other : Location}
    (h : tree.Reaches segments location) (h' : tree.Reaches segments other) : location = other := by
  obtain ⟨left, walked, -⟩ := h
  obtain ⟨left', walked', -⟩ := h'
  rw [walked] at walked'
  cases walked'
  rfl

theorem Within.reaches (h : before.Within after) {segments : List String} {location : Location}
    (reached : before.Reaches segments location) : after.Reaches segments location := by
  obtain ⟨left, walked, directory⟩ := reached
  exact ⟨left, h.base ▸ h.advance walked, h.isDirectory directory⟩

/-- A directory in a directory is reached by its name. -/
theorem Reaches.enter {segments : List String} {directory : Location} {name : String}
    (h : tree.Reaches segments directory) (named : Path.IsName name) (short : ¬isTooLong name)
    (found : tree.get? (directory ++ [name]) = some .directory) :
    tree.Reaches (segments ++ [name]) (directory ++ [name]) := by
  obtain ⟨left, walked, inside⟩ := h
  have moves : tree.move directory name = .to (directory ++ [name]) := by
    simp [move, inside, named.1, named.2, short, found]
  have nonempty := named.ne_empty
  refine ⟨left, ?_, isDirectory_iff.2 found⟩
  rw [Path.origin_append_cons nonempty, advance_append_eq_ok_iff]
  exact ⟨directory, left, walked, by simp [advance, moves]⟩

/-- A step further down passes through a directory, and enters something if it has a name. -/
theorem Reaches.of_append_cons {segments rest : List String} {name : String} {location : Location}
    (named : name ≠ "") (h : tree.Reaches (segments ++ name :: rest) location) :
    ∃ directory, tree.Reaches segments directory ∧
      (Path.IsName name → tree.get? (directory ++ [name]) ≠ none) := by
  obtain ⟨left, walked, -⟩ := h
  rw [Path.origin_append_cons named, advance_append_eq_ok_iff] at walked
  obtain ⟨directory, links, arrived, onward⟩ := walked
  refine ⟨directory, ⟨links, arrived, ?_⟩, fun entered absent ↦ ?_⟩
  · exact isDirectory_of_move (move_ne_stop_of_advance onward)
  · obtain ⟨fault, failed⟩ := advance_of_get?_eq_none links rest entered absent
    simp [failed] at onward

/-- Idle segments more lead to the same directory. -/
theorem reaches_append_idle {segments idle : List String} {location : Location}
    (apart : segments = [] → idle = []) (still : ∀ segment ∈ idle, Path.isIdle segment) :
    tree.Reaches (segments ++ idle) location ↔ tree.Reaches segments location := by
  have origin : Path.origin (segments ++ idle) tree.base = Path.origin segments tree.base := by
    by_cases bare : segments = []
    · simp [bare, apart bare]
    · exact Path.origin_append bare idle tree.base
  simp only [Reaches, origin, advance_append_eq_ok_iff]
  constructor
  · rintro ⟨left, ⟨directory, links, arrived, onward⟩, inside⟩
    by_cases there : tree.isDirectory directory
    · rw [advance_idle there still] at onward
      cases onward
      exact ⟨_, arrived, inside⟩
    · cases idle with
      | nil =>
        rw [advance] at onward
        cases onward
        exact absurd inside there
      | cons name rest =>
        exact absurd (isDirectory_of_move (move_ne_stop_of_advance onward)) there
  · rintro ⟨left, arrived, inside⟩
    exact ⟨left, ⟨location, left, arrived, advance_idle inside still⟩, inside⟩

/-- Where a directory is reached, its parent is, and the name is found there. -/
theorem Reaches.parent {parent segments : List String} {last : String} {location : Location}
    (child : Path.IsChild parent last segments) (h : tree.Reaches segments location) :
    ∃ directory, tree.Reaches parent directory ∧
      (Path.IsName last → tree.get? (directory ++ [last]) ≠ none) := by
  obtain ⟨idle, trailing, rfl, still, -, apart⟩ := child.split
  obtain ⟨directory, reached, found⟩ := h.of_append_cons child.nonempty
  exact ⟨directory, (reaches_append_idle apart still).1 reached, found⟩

end SoloScript.File.Tree
