import SoloScript.Failure
import SoloScript.Log.Event

/-!
# Resolving assets

All assets are fetched at once.  Time passes in rounds: in each round every fetch that is not done
is looked at, in the order of the sources, and a fetch with delay `n` comes to its end in round
`n`.  The first failure ends everything on the spot.

This is what is assumed of the executor that joins the fetches: it looks at all that are not done
whenever it looks at one, from the first source to the last, and it stops at the first failure that
it sees.  An executor may also look at those alone that have news, in the order in which the news
came, as some do for more than thirty fetches.  With one of that kind the delays still tell which
round a fetch comes to its end in, but two that end in the same round may be seen in another order;
then another of their failures may be the one that ends everything, and their events may change
places.  A configuration has four sources.
-/

namespace SoloScript

open Log

/-- What a fetch will come to, after how many rounds. -/
structure Fetching where
  delay : Nat
  outcome : Except Failure Asset
deriving Repr

/-- A way of fetching assets. -/
abbrev Fetcher := Asset.Source → Fetching

namespace Resolution

/-! ## Slots -/

/-- The state of one fetch. -/
inductive Slot where
  | pending (source : Asset.Source) (fetching : Fetching)
  | done (name : String) (asset : Asset)

namespace Slot

/-- The number of rounds until a fetch is done. -/
def weight : Slot → Nat
  | pending _ fetching => fetching.delay + 1
  | done .. => 0

def isDone : Slot → Bool
  | pending .. => false
  | done .. => true

/-- The asset of a fetch that is done, with its name. -/
def asset? : Slot → Option (String × Asset)
  | pending .. => none
  | done name asset => some (name, asset)

end Slot

def weight : List Slot → Nat
  | [] => 0
  | slot :: slots => slot.weight + weight slots

/-- An asset is taken only if it is of the kind that its source promises. -/
def accept (source : Asset.Source) (outcome : Except Failure Asset) : Except Failure Asset := do
  let asset ← outcome
  if asset.kind = source.kind then return asset else throw (.wrongKind source.name source.kind)

/-! ## Progress -/

/-- The share of assets that have come, in percent, rounded up. -/
def percent (completed total : Nat) : Nat := (100 * completed + total - 1) / total

/-- The events of an asset that has come as the `completed`-th. -/
def arrival (name : String) (asset : Asset) (completed total : Nat) : List Event :=
  (if asset.isEmpty then [.emptyAsset name] else []) ++ [.progress (percent completed total)]

/-! ## Rounds -/

/-- What a round does: the slots after it, or the failure that ended it, the names of the sources
that were looked at, the number of assets that have come so far, and the events. -/
structure Round where
  slots : Except Failure (List Slot)
  seen : List String
  completed : Nat
  events : List Event

namespace Round

/-- A round in which one more slot comes before the others. -/
def cons (slot : Slot) (seen : List String) (events : List Event) (round : Round) : Round :=
  ⟨round.slots.map (slot :: ·), seen ++ round.seen, round.completed, events ++ round.events⟩

end Round

theorem slots_cons_eq_ok_iff {slot : Slot} {seen : List String} {events : List Event}
    {round : Round} {next : List Slot} :
    (round.cons slot seen events).slots = .ok next ↔
      ∃ rest, round.slots = .ok rest ∧ slot :: rest = next := by
  cases met : round.slots <;> simp [Round.cons, met, Except.map]

/-- Looks at the slots from the first to the last; `total` is the number of all slots. -/
def round (total completed : Nat) : List Slot → Round
  | [] => ⟨.ok [], [], completed, []⟩
  | .done name asset :: slots => (round total completed slots).cons (.done name asset) [] []
  | .pending source ⟨delay + 1, outcome⟩ :: slots =>
    (round total completed slots).cons (.pending source ⟨delay, outcome⟩) [source.name] []
  | .pending source ⟨0, outcome⟩ :: slots =>
    match accept source outcome with
    | .error failure => ⟨.error failure, [source.name], completed, []⟩
    | .ok asset =>
      (round total (completed + 1) slots).cons (.done source.name asset) [source.name]
        (arrival source.name asset (completed + 1) total)

theorem weight_round_le (total completed : Nat) (slots next : List Slot)
    (h : (round total completed slots).slots = .ok next) : weight next ≤ weight slots := by
  fun_induction round total completed slots generalizing next with
  | case1 completed =>
    cases h
    exact Nat.le_refl _
  | case2 completed name asset slots ih =>
    obtain ⟨rest, hr, rfl⟩ := slots_cons_eq_ok_iff.1 h
    exact Nat.add_le_add_left (ih rest hr) _
  | case3 completed source delay outcome slots ih =>
    obtain ⟨rest, hr, rfl⟩ := slots_cons_eq_ok_iff.1 h
    exact Nat.add_le_add (Nat.le_succ _) (ih rest hr)
  | case4 completed source outcome slots failure refused => cases h
  | case5 completed source outcome slots asset accepted ih =>
    obtain ⟨rest, hr, rfl⟩ := slots_cons_eq_ok_iff.1 h
    exact Nat.add_le_add (Nat.zero_le _) (ih rest hr)

theorem weight_round_lt (total completed : Nat) (slots next : List Slot)
    (h : (round total completed slots).slots = .ok next) (busy : slots.all Slot.isDone = false) :
    weight next < weight slots := by
  fun_induction round total completed slots generalizing next with
  | case1 completed => cases busy
  | case2 completed name asset slots ih =>
    obtain ⟨rest, hr, rfl⟩ := slots_cons_eq_ok_iff.1 h
    exact Nat.add_lt_add_left (ih rest hr busy) _
  | case3 completed source delay outcome slots ih =>
    obtain ⟨rest, hr, rfl⟩ := slots_cons_eq_ok_iff.1 h
    exact Nat.add_lt_add_of_lt_of_le (Nat.lt_succ_self _) (weight_round_le _ _ _ _ hr)
  | case4 completed source outcome slots failure refused => cases h
  | case5 completed source outcome slots asset accepted ih =>
    obtain ⟨rest, hr, rfl⟩ := slots_cons_eq_ok_iff.1 h
    exact Nat.add_lt_add_of_lt_of_le (Nat.zero_lt_one) (weight_round_le _ _ _ _ hr)

/-- Goes on for as many rounds as it takes: the assets in the order of the sources, or the failure
that ended it all, and the events. -/
def rounds (total completed : Nat) (slots : List Slot) :
    Except Failure (List (String × Asset)) × List Event :=
  if busy : slots.all Slot.isDone = false then
    let first := round total completed slots
    match h : first.slots with
    | .error failure => (.error failure, first.events)
    | .ok next =>
      have := weight_round_lt total completed slots next h busy
      let later := rounds total first.completed next
      (later.1, first.events ++ later.2)
  else (.ok (slots.filterMap Slot.asset?), [])
termination_by weight slots

end Resolution

/-! ## Resolutions -/

/-- What a resolution came to, the names of the fetches that were started, and the events. -/
structure Resolution where
  result : Except Failure Assets
  started : List String
  events : List Event

/-- Resolves sources that each come with what their fetch will come to. -/
def resolve (fetches : List (Asset.Source × Fetching)) : Resolution :=
  let slots := fetches.map fun (source, fetching) ↦ Resolution.Slot.pending source fetching
  let (result, events) := Resolution.rounds slots.length 0 slots
  ⟨result.map Assets.ofList, (Resolution.round slots.length 0 slots).seen,
    (if fetches = [] then [] else [.progress 0]) ++ events⟩

end SoloScript
