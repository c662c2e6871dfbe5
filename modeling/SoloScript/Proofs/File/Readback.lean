import SoloScript.Proofs.File.Overwrite

/-!
# Reading an artifact back

An artifact that has been stored can be read at its path, unless the path leads there through itself
or the draft was a link.  In the second case the link has been moved to the artifact's place.  The
walk through it ends at a file or comes back to it again and again, so that no directory is ever
reached through it.
-/

namespace SoloScript.File

namespace Tree

variable {tree before after : Tree} {path link : Path} {draft slot : Slot}
  {directory place location : Location} {segments rest : List String} {name : String}
  {links left : Nat} {bytes : List UInt8} {found : Slot}

/-! ## Reading -/

/-- A file in the slot of a path is read there. -/
theorem read_of_slot (placed : tree.slot path = .ok slot) (fits : slot.Fits)
    (file : tree.get? slot.location = some (.file bytes)) : tree.read path = .ok bytes := by
  obtain ⟨init, split, named⟩ := exists_segments_of_fits placed fits
  obtain ⟨faultless, ⟨left, walked, inside⟩, -, -⟩ :=
    (slot_eq_ok_iff split named.ne_empty (by simp)).1 placed
  have found : tree.get? (slot.directory ++ [slot.last]) = some (.file bytes) := file
  have moves : tree.move slot.directory slot.last = .to slot.location := by
    simp [move, inside, named.1, named.2, fits.short, found, Slot.location]
  have root : path.segments ≠ [""] := by
    rw [split]
    exact Path.append_cons_ne_root named.ne_empty
  have located : tree.locate false path = .ok slot.location := by
    rw [locate, faultless]
    simp only [Path.start_eq_origin root, follow_false, split,
      Path.origin_append_cons named.ne_empty, advance_append, walked, Outcome.ok_bind, advance,
      moves]
    rfl
  rw [read, located, Outcome.ok_bind, file]
  rfl

/-- What can be read is in the slot of its path. -/
theorem exists_slot_of_read (split : path.segments = segments ++ [name]) (named : Path.IsName name)
    (h : tree.read path = .ok bytes) :
    ∃ slot, tree.slot path = .ok slot ∧ tree.get? slot.location ≠ none := by
  obtain ⟨location, located, -⟩ := Outcome.bind_eq_ok_iff.1 h
  have root : path.segments ≠ [""] := by
    rw [split]
    exact Path.append_cons_ne_root named.ne_empty
  cases faultless : path.fault? with
  | some fault => simp [locate, faultless] at located
  | none =>
    rw [locate, faultless] at located
    simp only [Path.start_eq_origin root, follow_false, split,
      Path.origin_append_cons named.ne_empty, Outcome.map_eq_ok_iff, Prod.exists,
      advance_append_eq_ok_iff] at located
    obtain ⟨_, _, ⟨directory, left, walked, entered⟩, -⟩ := located
    have inside := isDirectory_of_move (move_ne_stop_of_advance entered)
    refine ⟨⟨directory, name, false⟩, (slot_eq_ok_iff split named.ne_empty (by simp)).2
      ⟨faultless, ⟨left, walked, inside⟩, rfl, by simp⟩, fun absent ↦ ?_⟩
    obtain ⟨fault, failed⟩ := advance_of_get?_eq_none left [] named absent
    simp [failed] at entered

/-! ## Moved links -/

/-- `after` is `before` with a file at the place that a link leads to, and with the link moved to
another slot of the same directory. -/
structure Relinks (before after : Tree) (place : Location) (draft slot : Slot) (link : Path) :
    Prop where
  base : after.base = before.base
  end_ : before.IsEnd place
  linked : before.get? draft.location = some (.link link)
  plain : before.get? slot.location ≠ some .directory
  leads : ∃ links, before.follow true links (link.start slot.directory) link.segments = .ok place
  moved : after.get? slot.location = some (.link link)
  gone : draft.location ≠ slot.location → after.get? draft.location = none
  file : place ≠ slot.location → ∃ bytes, after.get? place = some (.file bytes)
  others : ∀ location, location ≠ place → location ≠ draft.location → location ≠ slot.location →
    after.get? location = before.get? location

namespace Relinks

variable (h : Relinks before after place draft slot link)

include h

theorem isDirectory_eq (location : Location) :
    after.isDirectory location = before.isDirectory location := by
  by_cases target : location = slot.location
  · simp [target, isDirectory, h.moved, h.plain]
  · by_cases source : location = draft.location
    · simp [source, isDirectory, h.gone (source ▸ target), h.linked]
    · by_cases written : location = place
      · obtain ⟨bytes, file⟩ := h.file (written ▸ target)
        rw [written, h.end_.isDirectory_eq_false]
        simp [isDirectory, file]
      · rw [isDirectory, h.others location written source target, isDirectory]

/-- Unless a move is as before, no directory comes of it, supposed that none comes of the moved link
with fewer links left. -/
theorem move_eq_or_blocked
    (fewer : ∀ less < links, ∀ rest,
      after.Blocked less (link.start slot.directory) (link.segments ++ rest))
    (directory : Location) (name : String) (rest : List String) :
    after.move directory name = before.move directory name ∨
      after.Blocked links directory (name :: rest) := by
  cases inside : after.isDirectory directory with
  | false => exact .inr (blocked_of_not_isDirectory inside links _)
  | true =>
    by_cases enters : Path.IsName name ∧ ¬isTooLong name ∧
        directory ++ [name] ∈ [slot.location, draft.location, place]
    · right
      obtain ⟨named, short, changed⟩ := enters
      have moves := move_of_isName inside named short
      by_cases target : directory ++ [name] = slot.location
      · rw [target, h.moved] at moves
        obtain ⟨rfl, -⟩ := List.append_inj' target rfl
        refine blocked_cons ?_
        rw [moves]
        rintro less rfl
        exact fewer less (Nat.lt_succ_self less) rest
      · by_cases source : directory ++ [name] = draft.location
        · rw [source, h.gone (source ▸ target)] at moves
          refine blocked_cons ?_
          rw [moves]
          trivial
        · have written : directory ++ [name] = place := by simpa [target, source] using changed
          obtain ⟨bytes, file⟩ := h.file (written ▸ target)
          rw [written, file] at moves
          exact blocked_of_move_to moves (by simp [isDirectory, file])
    · left
      refine move_congr (h.isDirectory_eq directory) fun named short ↦ h.others _ ?_ ?_ ?_
      all_goals exact fun same ↦ enters ⟨named, short, by simp [same]⟩

/-- Where a walk led to the file before, it comes to no directory now. -/
theorem blocked_of_follow {budget : Nat} (more : List String)
    (fewer : ∀ less < links, ∀ rest,
      after.Blocked less (link.start slot.directory) (link.segments ++ rest))
    (walked : before.follow true budget directory segments = .ok place) :
    after.Blocked links directory (segments ++ more) := by
  -- The induction is on the walk before; how many links it had left is another matter.
  fun_induction Tree.advance before budget directory segments generalizing links with
  | case1 budget directory =>
    rw [follow] at walked
    obtain rfl := Except.ok.inj walked
    refine blocked_of_not_isDirectory ?_ links _
    rw [h.isDirectory_eq, h.end_.isDirectory_eq_false]
  | case2 budget directory name rest fault stops =>
    rcases h.move_eq_or_blocked fewer directory name (rest ++ more) with same | blocked
    · refine blocked_cons ?_
      rw [same, stops]
      trivial
    · exact blocked
  | case3 budget directory name rest next moves ih =>
    have onward := move_of_follow walked
    rw [moves] at onward
    rcases h.move_eq_or_blocked fewer directory name (rest ++ more) with same | blocked
    · refine blocked_cons ?_
      rw [same, moves]
      exact ih fewer onward
    · exact blocked
  | case4 directory name rest target moves =>
    have onward := move_of_follow walked
    rw [moves] at onward
    obtain ⟨_, same, -⟩ := onward
    cases same
  | case5 directory name rest target moves budget ih =>
    have onward := move_of_follow walked
    rw [moves] at onward
    obtain ⟨_, same, onward⟩ := onward
    cases same
    rcases h.move_eq_or_blocked fewer directory name (rest ++ more) with same | blocked
    · refine blocked_cons ?_
      rw [same, moves]
      rintro less rfl
      have later := ih (fun fewest under ↦ fewer fewest (Nat.lt_succ_of_lt under)) onward
      rw [List.append_assoc] at later
      exact later
    · exact blocked

/-- Through the moved link no directory is reached, however many links may be followed. -/
theorem blocked (links : Nat) (rest : List String) :
    after.Blocked links (link.start slot.directory) (link.segments ++ rest) := by
  obtain ⟨budget, leads⟩ := h.leads
  -- Whenever the walk comes back to the link, it may follow fewer links than before.
  induction links using Nat.strongRecOn generalizing rest with
  | ind links fewer => exact h.blocked_of_follow rest fewer leads

/-- What is reached now was reached before. -/
theorem advance (walked : after.advance links directory segments = .ok (location, left))
    (inside : after.isDirectory location) :
    before.advance links directory segments = .ok (location, left) := by
  refine advance_of_moves (fun links directory name rest arrived ↦ ?_) walked
  rcases h.move_eq_or_blocked (fun less _ ↦ h.blocked less) directory name rest with same | blocked
  · exact same.symm
  · have outside := blocked location left arrived
    simp [outside] at inside

theorem slot_eq (placed : after.slot path = .ok found) : before.slot path = .ok found := by
  refine slot_eq_ok_of_reaches h.base.symm ?_ placed
  rintro segments location ⟨left, walked, inside⟩
  refine ⟨left, ?_, ?_⟩
  · rw [← h.base]
    exact h.advance walked inside
  · rwa [← h.isDirectory_eq]

end Relinks

end Tree

namespace Artifact

open SoloScript.File.Tree

variable {tree : Tree} {path target : Path} {bytes : List UInt8} {place : Location}
  {draft slot : Slot}

namespace Places

variable (h : Places tree path place draft slot)

include h

/-- A link in the place of the draft is moved, and the file is where it leads to. -/
theorem relinks (link : tree.get? draft.location = some (.link target)) (bytes : List UInt8) :
    tree.Relinks
      (((tree.set place (.file bytes)).erase draft.location).set slot.location (.link target))
      place draft slot target := by
  have apart : place ≠ draft.location := (h.end_.ne_of_link link).symm
  have outside := not_isPrefixOf_of_get?_ne h.plain
  have draftOutside : draft.location.isPrefixOf tree.base = false :=
    not_isPrefixOf_of_get?_ne (by simp [link])
  obtain ⟨parent, name, split, named⟩ := Path.exists_segments_draft path
  constructor
  case base => rfl
  case end_ => exact h.end_
  case linked => exact link
  case plain => exact h.plain
  case leads =>
    rw [← (slot_draft h.placed h.fits h.drafted).1]
    exact exists_follow_of_link split named h.drafted h.draftFits.short link h.located
  case moved => exact get?_set outside
  case gone =>
    intro other
    rw [get?_set_of_ne other]
    exact get?_erase draftOutside
  case file =>
    intro other
    exact ⟨bytes, by rw [get?_set_of_ne other, get?_erase_of_ne apart, get?_set h.end_.outside]⟩
  case others =>
    intro location unwritten undrafted elsewhere
    rw [get?_set_of_ne elsewhere, get?_erase_of_ne undrafted, get?_set_of_ne unwritten]

/-- Where the draft is a file or new, its place might as well have been free. -/
theorem slots (unlinked : ∀ target, tree.get? draft.location ≠ some (.link target)) :
    Slots (tree.erase draft.location) path draft slot := by
  obtain rfl := h.place_eq unlinked
  exact ⟨h.end_.slot_erase h.drafted, h.draftFits, get?_erase h.end_.outside,
    h.end_.slot_erase h.placed, h.fits,
    fun directory ↦ h.plain ((within_erase tree _).get? directory)⟩

end Places

/-- An artifact that has been stored can be read at its path, and is not a link, unless its draft
was one or the path runs through itself. -/
theorem read_store_iff (h : Places tree path place draft slot) :
    ((store tree path bytes).tree.read path = .ok bytes ∧
        ∀ target, (store tree path bytes).tree.entryAt? path ≠ some (.link target)) ↔
      (∀ target, tree.entryAt? path.draft ≠ some (.link target)) ∧
        ¬tree.RunsThroughItself path := by
  obtain ⟨init, split, named⟩ := exists_segments_of_fits h.placed h.fits
  rw [entryAt?_eq_of_slot h.drafted h.draftFits.isName]
  by_cases linked : ∃ target, tree.get? draft.location = some (.link target)
  · -- What can be read is in the slot of the path, and there the link is.
    obtain ⟨target, link⟩ := linked
    refine iff_of_false ?_ fun kept ↦ kept.1 target link
    rw [h.store_of_link link]
    have relinks := h.relinks link bytes
    rintro ⟨read, unlinked⟩
    obtain ⟨found, placed, -⟩ := exists_slot_of_read split named read
    obtain rfl : slot = found := Except.ok.inj (h.placed.symm.trans (relinks.slot_eq placed))
    exact unlinked target ((entryAt?_eq_of_slot placed h.fits.isName).trans relinks.moved)
  · have unlinked : ∀ target, tree.get? draft.location ≠ some (.link target) := not_exists.1 linked
    obtain rfl := h.place_eq unlinked
    have slots := h.slots unlinked
    rw [h.store_of_not_link unlinked, and_iff_right unlinked, ← h.end_.runsThroughItself_erase]
    constructor
    · rintro ⟨read, -⟩ through
      obtain ⟨found, placed, there⟩ := exists_slot_of_read split named read
      obtain rfl : slot = found :=
        Except.ok.inj (slots.placed.symm.trans (slots.slot_eq_of_set placed))
      have lost : ((tree.erase draft.location).set slot.location (.file bytes)).entryAt? path =
          none := slots.entryAt?_lost through
      rw [entryAt?_eq_of_slot placed h.fits.isName] at lost
      exact there lost
    · intro direct
      have kept := slot_erase_of_not_runsThroughItself slots.placed h.fits.isName slots.plain direct
      have placed := (erase_within_set _ _ (.file bytes)).slot_eq_ok kept
      refine ⟨read_of_slot placed h.fits (get?_set slots.outside), fun target link ↦ ?_⟩
      rw [slots.entryAt?_output direct] at link
      cases link

end Artifact

end SoloScript.File
