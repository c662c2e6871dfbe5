import SoloScript.File.Operation
import SoloScript.Proofs.File.Slot

/-!
# Lemmas on operations

What a successful operation has found, and the tree that it leaves.  Every operation keeps a tree
well formed.
-/

namespace SoloScript.File.Tree

variable {tree after : Tree} {path source target : Path} {location : Location} {slot : Slot}
  {bytes : List UInt8}

/-! ## Where paths lead -/

theorem get?_start_ne_none {directory : Location} (there : tree.get? directory ≠ none) :
    tree.get? (path.start directory) ≠ none := by
  rw [Path.start]
  split
  · simp [get?_root]
  · exact there

theorem get?_dropLast_ne_none (wellFormed : tree.WellFormed) {directory : Location}
    (there : tree.get? directory ≠ none) : tree.get? directory.dropLast ≠ none := by
  rcases List.eq_nil_or_concat' directory with rfl | ⟨parent, name, rfl⟩
  · exact there
  · simp [wellFormed parent name there]

/-- Wherever a walk ends, there is a directory around it. -/
theorem get?_of_follow (wellFormed : tree.WellFormed) {create : Bool} {links : Nat}
    {directory parent : Location} {segments : List String} {name : String}
    (there : tree.get? directory ≠ none)
    (h : tree.follow create links directory segments = .ok (parent ++ [name])) :
    tree.get? parent = some .directory := by
  fun_induction follow tree create links directory segments with
  | case1 links directory =>
    cases h
    exact wellFormed parent name there
  | case3 links directory name rest inside idle ih => exact ih there h
  | case4 links directory rest inside idle ih =>
    exact ih (get?_dropLast_ne_none wellFormed there) h
  | case7 links directory name rest inside =>
    obtain ⟨rfl, -⟩ := List.append_inj' (Except.ok.inj h) rfl
    exact isDirectory_iff.1 (by simpa using inside)
  | case10 directory name rest inside idle up blank short place target found links ih =>
    exact ih (get?_start_ne_none there) h
  | case11 links directory name rest inside idle up blank short place entry plain found ih =>
    exact ih (by simp [found]) h
  | _ => cases h

theorem get?_directory_of_slot (placed : tree.slot path = .ok slot) :
    tree.get? slot.directory = some .directory := by
  obtain ⟨blank, nothing, root | ⟨init, last, split, named⟩⟩ :=
    Path.exists_eq_append_blank path.segments
  · rw [← root] at nothing
    obtain ⟨-, rfl⟩ := (slot_eq_ok_iff_of_blank nothing).1 placed
    simp only [Path.start]
    split
    · exact get?_root tree
    · exact get?_base tree
  · rw [List.append_assoc, List.singleton_append] at split
    obtain ⟨-, ⟨left, -, inside⟩, -⟩ := (slot_eq_ok_iff split named nothing).1 placed
    exact isDirectory_iff.1 inside

/-! ## Writing -/

theorem write_eq_ok_iff :
    tree.write path bytes = .ok after ↔
      ∃ location, tree.locate true path = .ok location ∧ tree.isDirectory location = false ∧
        after = tree.set location (.file bytes) := by
  simp only [write, Outcome.bind_eq_ok_iff]
  refine exists_congr fun location ↦ and_congr_right fun located ↦ ?_
  cases occupied : tree.isDirectory location with
  | true => simp
  | false => simp [eq_comm]

/-- Where a walk to a path of a name begins, and how it ends. -/
theorem locate_of_split {parent : List String} {name : String}
    (split : path.segments = parent ++ [name]) (named : Path.IsName name)
    (faultless : path.fault? = none) :
    tree.locate true path =
      tree.advance maxLinks (Path.origin parent tree.base) parent >>= fun (location, left) ↦
        tree.follow true left location [name] := by
  have nonempty := named.ne_empty
  have root : path.segments ≠ [""] := by
    rw [split]
    exact Path.append_cons_ne_root nonempty
  rw [locate, faultless]
  simp only [Path.start_eq_origin root, split, Path.origin_append_cons nonempty]
  exact follow_append _ _ _ _ _ ⟨name, List.mem_singleton_self _, nonempty⟩

section Named

variable {parent : List String} {name : String} (split : path.segments = parent ++ [name])
  (named : Path.IsName name)

include split named

/-- Where a path of a name leads to, it has a slot. -/
theorem exists_slot_of_locate (located : tree.locate true path = .ok location) :
    ∃ slot, tree.slot path = .ok slot ∧ slot.Fits := by
  cases faultless : path.fault? with
  | some fault => simp [locate, faultless] at located
  | none =>
    simp only [locate_of_split split named faultless, Outcome.bind_eq_ok_iff,
      Prod.exists] at located
    obtain ⟨directory, left, walked, entered⟩ := located
    obtain ⟨inside, short⟩ := follow_name named entered
    have placed : tree.slot path = .ok ⟨directory, name, false⟩ :=
      (slot_eq_ok_iff split named.ne_empty (by simp)).2
        ⟨faultless, ⟨left, walked, inside⟩, rfl, by simp⟩
    exact ⟨_, placed, ⟨(Slot.isName_iff named.ne_empty).2 named, short, rfl⟩⟩

/-- A path of a name leads to its slot, and on from there through a link. -/
theorem exists_locate_eq (placed : tree.slot path = .ok slot) (short : ¬isTooLong slot.last) :
    ∃ links, tree.locate true path =
      match tree.get? slot.location with
      | some (.link target) =>
        match links with
        | 0 => .error .tooManyLinks
        | links + 1 => tree.follow true links (target.start slot.directory) target.segments
      | _ => .ok slot.location := by
  obtain ⟨faultless, ⟨left, walked, inside⟩, rfl, -⟩ :=
    (slot_eq_ok_iff split named.ne_empty (by simp)).1 placed
  refine ⟨left, ?_⟩
  rw [locate_of_split split named faultless, walked]
  exact follow_name_eq left named inside short

theorem locate_of_slot (placed : tree.slot path = .ok slot) (short : ¬isTooLong slot.last)
    (plain : ∀ target, tree.get? slot.location ≠ some (.link target)) :
    tree.locate true path = .ok slot.location := by
  obtain ⟨links, located⟩ := exists_locate_eq split named placed short
  rw [located]
  split
  · rename_i target link
    exact absurd link (plain target)
  · rfl

theorem exists_follow_of_link {target : Path} (placed : tree.slot path = .ok slot)
    (short : ¬isTooLong slot.last) (link : tree.get? slot.location = some (.link target))
    (located : tree.locate true path = .ok location) :
    ∃ links, tree.follow true links (target.start slot.directory) target.segments =
      .ok location := by
  obtain ⟨left, here⟩ := exists_locate_eq split named placed short
  rw [located, link] at here
  cases left with
  | zero => cases here
  | succ links => exact ⟨links, here.symm⟩

/-- Where nothing is at a path of a name, a file is written into the slot of the path. -/
theorem exists_slot_of_write_new (absent : tree.entryAt? path = none)
    (h : tree.write path bytes = .ok after) :
    ∃ slot, tree.slot path = .ok slot ∧ slot.Fits ∧ tree.get? slot.location = none ∧
      after = tree.set slot.location (.file bytes) := by
  obtain ⟨location, located, -, rfl⟩ := write_eq_ok_iff.1 h
  obtain ⟨slot, placed, fits⟩ := exists_slot_of_locate split named located
  rw [entryAt?_eq_of_slot placed fits.isName] at absent
  have here := locate_of_slot split named placed fits.short (by simp [absent])
  obtain rfl : location = slot.location := Except.ok.inj (located.symm.trans here)
  exact ⟨slot, placed, fits, absent, rfl⟩

theorem write_of_slot (placed : tree.slot path = .ok slot) (fits : slot.Fits)
    (absent : tree.get? slot.location = none) :
    tree.write path bytes = .ok (tree.set slot.location (.file bytes)) := by
  have located := locate_of_slot split named placed fits.short (by simp [absent])
  exact write_eq_ok_iff.2 ⟨slot.location, located, by simp [isDirectory, absent], rfl⟩

end Named

theorem WellFormed.write (wellFormed : tree.WellFormed) (h : tree.write path bytes = .ok after) :
    after.WellFormed := by
  obtain ⟨location, located, plain, rfl⟩ := write_eq_ok_iff.1 h
  rcases List.eq_nil_or_concat' location with rfl | ⟨parent, name, rfl⟩
  · simp [isDirectory, get?_root] at plain
  · have inside : tree.get? parent = some .directory := by
      rw [locate] at located
      split at located
      · cases located
      · exact get?_of_follow wellFormed (get?_start_ne_none (by simp [get?_base])) located
    exact wellFormed.set inside (by simpa [isDirectory] using plain)

/-! ## Moving -/

/-- What is moved into the slot of another path is not a directory, and replaces none. -/
theorem rename_eq_ok_iff :
    tree.rename source target = .ok after ↔
      ∃ origin goal entry, tree.slot source = .ok origin ∧ tree.slot target = .ok goal ∧
        origin.Fits ∧ goal.Fits ∧ tree.get? origin.location = some entry ∧ entry ≠ .directory ∧
        tree.get? goal.location ≠ some .directory ∧
        after = (tree.erase origin.location).set goal.location entry := by
  constructor
  · intro h
    obtain ⟨origin, found, h⟩ := Outcome.bind_eq_ok_iff.1 h
    obtain ⟨goal, aimed, h⟩ := Outcome.bind_eq_ok_iff.1 h
    cases named : (!origin.isName || !goal.isName) with
    | true => simp [named] at h
    | false =>
      cases looked : origin.entry? tree with
      | error fault => simp [named, looked] at h
      | ok moved =>
        obtain ⟨short, rfl⟩ := Slot.entry?_eq_ok_iff.1 looked
        cases there : tree.get? origin.location with
        | none => simp [named, looked, there] at h
        | some entry =>
          by_cases directory : entry = .directory
          · simp [named, looked, there, directory] at h
          · cases aside : goal.entry? tree with
            | error fault => cases entry <;> simp [named, looked, there, aside] at h
            | ok occupant =>
              obtain ⟨short', rfl⟩ := Slot.entry?_eq_ok_iff.1 aside
              by_cases slash : origin.slash || goal.slash
              · cases entry <;> simp [named, looked, there, aside, slash] at h
              · by_cases occupied : tree.get? goal.location = some .directory
                · cases entry <;> simp [named, looked, there, aside, slash, occupied] at h
                · simp only [Bool.or_eq_false_iff, Bool.not_eq_false'] at named
                  simp only [Bool.or_eq_true, not_or, Bool.not_eq_true] at slash
                  refine ⟨origin, goal, entry, found, aimed, ⟨named.1, short, slash.1⟩,
                    ⟨named.2, short', slash.2⟩, there, directory, occupied, ?_⟩
                  cases entry <;> simp [named, looked, there, aside, slash, occupied] at h
                  all_goals exact h.symm
  · rintro ⟨origin, goal, entry, found, aimed, fits, fits', there, plain, occupied, rfl⟩
    cases entry with
    | directory => exact absurd rfl plain
    | file | link =>
      simp [rename, found, aimed, fits.isName, fits'.isName, fits.short, fits'.short, fits.slash,
        fits'.slash, Slot.entry?, there, occupied]

theorem WellFormed.rename (wellFormed : tree.WellFormed)
    (h : tree.rename source target = .ok after) : after.WellFormed := by
  obtain ⟨origin, goal, entry, -, aimed, -, -, there, plain, occupied, rfl⟩ :=
    rename_eq_ok_iff.1 h
  have plainOrigin : tree.get? origin.location ≠ some .directory := by
    rw [there]
    simpa using plain
  refine (wellFormed.erase plainOrigin).set ?_ ?_
  · have inside := get?_directory_of_slot aimed
    rw [get?_erase_of_ne, inside]
    intro same
    rw [same] at inside
    exact plainOrigin inside
  · by_cases same : goal.location = origin.location
    · rw [← Slot.location, same, get?_erase]
      · simp
      · exact not_isPrefixOf_of_get?_ne plainOrigin
    · rwa [← Slot.location, get?_erase_of_ne same]

/-! ## Removing -/

/-- What is removed is not a directory. -/
theorem remove_eq_ok_iff :
    tree.remove path = .ok after ↔
      ∃ slot entry, tree.slot path = .ok slot ∧ slot.Fits ∧
        tree.get? slot.location = some entry ∧ entry ≠ .directory ∧
        after = tree.erase slot.location := by
  constructor
  · intro h
    obtain ⟨slot, placed, h⟩ := Outcome.bind_eq_ok_iff.1 h
    cases isName : slot.isName with
    | false => simp [isName] at h
    | true =>
      cases looked : slot.entry? tree with
      | error fault => simp [isName, looked] at h
      | ok found =>
        obtain ⟨short, rfl⟩ := Slot.entry?_eq_ok_iff.1 looked
        cases there : tree.get? slot.location with
        | none => simp [isName, looked, there] at h
        | some entry =>
          by_cases directory : entry = .directory
          · simp [isName, looked, there, directory] at h
          · cases slash : slot.slash with
            | true => cases entry <;> simp [isName, looked, there, slash] at h
            | false =>
              refine ⟨slot, entry, placed, ⟨isName, short, slash⟩, there, directory, ?_⟩
              cases entry <;> simp [isName, looked, there, slash] at h
              all_goals exact h.symm
  · rintro ⟨slot, entry, placed, fits, there, plain, rfl⟩
    cases entry with
    | directory => exact absurd rfl plain
    | file | link => simp [remove, placed, fits.isName, fits.short, fits.slash, Slot.entry?, there]

/-- What is not there cannot be removed. -/
theorem exists_fault_of_remove (absent : tree.entryAt? path = none) :
    ∃ fault, tree.remove path = .error fault := by
  cases removed : tree.remove path with
  | error fault => exact ⟨fault, rfl⟩
  | ok after =>
    obtain ⟨slot, entry, placed, fits, there, -, -⟩ := remove_eq_ok_iff.1 removed
    rw [entryAt?_eq_of_slot placed fits.isName, there] at absent
    simp at absent

theorem WellFormed.remove (wellFormed : tree.WellFormed) (h : tree.remove path = .ok after) :
    after.WellFormed := by
  obtain ⟨slot, entry, -, -, there, plain, rfl⟩ := remove_eq_ok_iff.1 h
  refine wellFormed.erase ?_
  rw [there]
  simpa using plain

/-! ## Making directories -/

theorem makeDirectory_eq_ok_iff :
    tree.makeDirectory path = .ok after ↔
      ∃ slot, tree.slot path = .ok slot ∧ slot.isName ∧ ¬isTooLong slot.last ∧
        tree.get? slot.location = none ∧ after = tree.set slot.location .directory := by
  simp only [makeDirectory, Outcome.bind_eq_ok_iff]
  refine exists_congr fun slot ↦ and_congr_right fun placed ↦ ?_
  cases isName : slot.isName with
  | false => simp
  | true =>
    by_cases long : isTooLong slot.last
    · simp [Slot.entry?, long]
    · cases there : tree.get? slot.location with
      | none => simp [Slot.entry?, long, there, eq_comm]
      | some entry => simp [Slot.entry?, long, there]

theorem WellFormed.makeDirectory (wellFormed : tree.WellFormed)
    (h : tree.makeDirectory path = .ok after) : after.WellFormed := by
  obtain ⟨slot, placed, -, -, new, rfl⟩ := makeDirectory_eq_ok_iff.1 h
  exact wellFormed.set (get?_directory_of_slot placed) (new.trans_ne (by simp))

theorem within_makeDirectory (h : tree.makeDirectory path = .ok after) : tree.Within after := by
  obtain ⟨slot, -, -, -, new, rfl⟩ := makeDirectory_eq_ok_iff.1 h
  exact within_set new

theorem makeLineage_of_ok {ancestors : List Path} (h : tree.makeDirectory path = .ok after) :
    tree.makeLineage (path :: ancestors) = (after, .ok ()) := by
  simp only [makeLineage, h]

theorem makeLineage_of_error {ancestors : List Path} {fault : Fault}
    (h : tree.makeDirectory path = .error fault) (other : fault ≠ .notFound) :
    tree.makeLineage (path :: ancestors) =
      (tree, if tree.hasDirectory path then .ok () else .error fault) := by
  rw [makeLineage, h]
  cases fault <;> first | rfl | exact absurd rfl other

theorem makeLineage_of_notFound {ancestors : List Path}
    (first : tree.makeDirectory path = .error .notFound)
    (above : (tree.makeLineage ancestors).2 = .ok ())
    (second : (tree.makeLineage ancestors).1.makeDirectory path = .ok after) :
    tree.makeLineage (path :: ancestors) = (after, .ok ()) := by
  simp only [makeLineage, first]
  generalize tree.makeLineage ancestors = prepared at above second
  obtain ⟨between, result⟩ := prepared
  subst above
  simp only [second]

/-- A directory that cannot be made, is not there, and has others missing above it. -/
theorem makeLineage_ne_ok {ancestors : List Path} {fault : Fault}
    (first : tree.makeDirectory path = .error fault) (absent : ¬tree.hasDirectory path)
    (above : (tree.makeLineage ancestors).2 ≠ .ok ()) :
    (tree.makeLineage (path :: ancestors)).2 ≠ .ok () := by
  by_cases missing : fault = .notFound
  · subst missing
    simp only [makeLineage, first]
    generalize tree.makeLineage ancestors = prepared at above
    obtain ⟨between, other | done⟩ := prepared
    · simp
    · exact absurd rfl above
  · rw [makeLineage_of_error first missing]
    simp [absent]

/-- What making one directory keeps, making any number of them keeps. -/
theorem makeLineage_preserves {P : Tree → Prop}
    (keeps : ∀ {between after : Tree} {path : Path}, P between →
      between.makeDirectory path = .ok after → P after)
    (start : P tree) (paths : List Path) : P (tree.makeLineage paths).1 := by
  induction paths with
  | nil => exact start
  | cons path ancestors ih =>
    cases first : tree.makeDirectory path with
    | ok after =>
      rw [makeLineage_of_ok first]
      exact keeps start first
    | error fault =>
      by_cases missing : fault = .notFound
      · subst missing
        simp only [Tree.makeLineage, first]
        generalize tree.makeLineage ancestors = prepared at ih ⊢
        obtain ⟨between, fault | done⟩ := prepared
        · exact ih
        · cases second : between.makeDirectory path with
          | ok after =>
            simp only [second]
            exact keeps ih second
          | error fault =>
            simp only [second]
            exact ih
      · rwa [makeLineage_of_error first missing]

theorem WellFormed.makeLineage (wellFormed : tree.WellFormed) (paths : List Path) :
    (tree.makeLineage paths).1.WellFormed :=
  makeLineage_preserves (fun kept made ↦ kept.makeDirectory made) wellFormed paths

theorem within_makeLineage (tree : Tree) (paths : List Path) :
    tree.Within (tree.makeLineage paths).1 :=
  makeLineage_preserves (fun kept made ↦ kept.trans (within_makeDirectory made)) (.refl tree) paths

end SoloScript.File.Tree
