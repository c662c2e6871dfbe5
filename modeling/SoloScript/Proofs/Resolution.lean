import SoloScript.Proofs.Outcome
import SoloScript.Resolution

/-!
# What a resolution comes to

Each slot has an outcome that no round changes: the asset that its fetch will bring, or the failure
that it will end with.  A resolution succeeds exactly if every outcome is an asset, and its assets
are those of the outcomes in the order of the sources, whatever the delays.
-/

namespace SoloScript.Resolution

open Outcome

/-! ## Outcomes -/

theorem accept_eq_ok_iff {source : Asset.Source} {outcome : Except Failure Asset} {asset : Asset} :
    accept source outcome = .ok asset ↔ outcome = .ok asset ∧ asset.kind = source.kind := by
  cases outcome with
  | error failure => simp [accept, bind, Except.bind]
  | ok found =>
    simp only [accept, bind, Except.bind, Except.ok.injEq]
    split
    · rename_i fits
      exact ⟨fun h ↦ by cases h; exact ⟨rfl, fits⟩, fun h ↦ by rw [h.1]; rfl⟩
    · rename_i unfit
      exact ⟨nofun, fun ⟨h, fits⟩ ↦ absurd (h ▸ fits) unfit⟩

/-- What a fetch comes to, with the name of its source. -/
def outcome (source : Asset.Source) (fetching : Fetching) : Except Failure (String × Asset) :=
  (accept source fetching.outcome).map (source.name, ·)

theorem outcome_eq_ok_iff {source : Asset.Source} {fetching : Fetching} {name : String}
    {asset : Asset} :
    outcome source fetching = .ok (name, asset) ↔
      name = source.name ∧ fetching.outcome = .ok asset ∧ asset.kind = source.kind := by
  simp only [outcome, map_eq_ok_iff, accept_eq_ok_iff, Prod.mk.injEq]
  constructor
  · rintro ⟨found, ⟨fetched, fits⟩, rfl, rfl⟩
    exact ⟨rfl, fetched, fits⟩
  · rintro ⟨rfl, fetched, fits⟩
    exact ⟨asset, ⟨fetched, fits⟩, rfl, rfl⟩

/-- What the fetch of a slot comes to or has come to. -/
def Slot.outcome : Slot → Except Failure (String × Asset)
  | pending source fetching => Resolution.outcome source fetching
  | done name asset => .ok (name, asset)

/-! ## One round -/

theorem slots_cons_eq_error_iff {slot : Slot} {seen : List String} {events : List Log.Event}
    {round : Round} {failure : Failure} :
    (round.cons slot seen events).slots = .error failure ↔ round.slots = .error failure :=
  map_eq_error_iff

/-- A round that goes through changes no outcome. -/
theorem map_outcome_of_round {total completed : Nat} {slots next : List Slot}
    (h : (round total completed slots).slots = .ok next) :
    next.map Slot.outcome = slots.map Slot.outcome := by
  fun_induction round total completed slots generalizing next with
  | case1 completed =>
    cases h
    rfl
  | case2 completed name asset slots ih =>
    obtain ⟨rest, hr, rfl⟩ := slots_cons_eq_ok_iff.1 h
    simp [ih hr]
  | case3 completed source delay fetched slots ih =>
    obtain ⟨rest, hr, rfl⟩ := slots_cons_eq_ok_iff.1 h
    simp [ih hr, Slot.outcome, outcome]
  | case4 completed source fetched slots failure refused => cases h
  | case5 completed source fetched slots asset accepted ih =>
    obtain ⟨rest, hr, rfl⟩ := slots_cons_eq_ok_iff.1 h
    simp [ih hr, Slot.outcome, outcome, accepted, Except.map]

/-- The failure that ends a round is the outcome of one of its slots. -/
theorem outcome_of_round_error {total completed : Nat} {slots : List Slot} {failure : Failure}
    (h : (round total completed slots).slots = .error failure) :
    ∃ slot ∈ slots, slot.outcome = .error failure := by
  fun_induction round total completed slots with
  | case1 completed => cases h
  | case2 completed name asset slots ih =>
    obtain ⟨slot, mem, hs⟩ := ih (slots_cons_eq_error_iff.1 h)
    exact ⟨slot, List.mem_cons_of_mem _ mem, hs⟩
  | case3 completed source delay fetched slots ih =>
    obtain ⟨slot, mem, hs⟩ := ih (slots_cons_eq_error_iff.1 h)
    exact ⟨slot, List.mem_cons_of_mem _ mem, hs⟩
  | case4 completed source fetched slots refusal refused =>
    obtain rfl : refusal = failure := by simpa using h
    exact ⟨_, List.mem_cons_self, by simp [Slot.outcome, outcome, refused, Except.map]⟩
  | case5 completed source fetched slots asset accepted ih =>
    obtain ⟨slot, mem, hs⟩ := ih (slots_cons_eq_error_iff.1 h)
    exact ⟨slot, List.mem_cons_of_mem _ mem, hs⟩

/-! ## All rounds -/

theorem map_outcome_of_all_done {slots : List Slot} (done : slots.all Slot.isDone) :
    slots.map Slot.outcome = (slots.filterMap Slot.asset?).map .ok := by
  induction slots with
  | nil => rfl
  | cons slot slots ih =>
    rw [List.all_cons, Bool.and_eq_true] at done
    cases slot with
    | pending source fetching => simp [Slot.isDone] at done
    | done name asset => simp [Slot.outcome, Slot.asset?, ih done.2]

/-- If the rounds come to an end with assets, these are the outcomes of all slots. -/
theorem map_outcome_of_rounds {total completed : Nat} {slots : List Slot}
    {pairs : List (String × Asset)} (h : (rounds total completed slots).1 = .ok pairs) :
    slots.map Slot.outcome = pairs.map .ok := by
  fun_induction rounds total completed slots with
  | case1 completed slots busy first failure hr => cases h
  | case2 completed slots busy first next hr _ later ih =>
    rw [← map_outcome_of_round hr]
    exact ih h
  | case3 completed slots idle =>
    obtain rfl := Except.ok.inj h
    exact map_outcome_of_all_done (by simpa using idle)

/-- If the rounds come to an end with a failure, it is the outcome of some slot. -/
theorem outcome_of_rounds_error {total completed : Nat} {slots : List Slot} {failure : Failure}
    (h : (rounds total completed slots).1 = .error failure) :
    ∃ slot ∈ slots, slot.outcome = .error failure := by
  fun_induction rounds total completed slots with
  | case1 completed slots busy first refusal hr =>
    obtain rfl : refusal = failure := by simpa using h
    exact outcome_of_round_error hr
  | case2 completed slots busy first next hr _ later ih =>
    obtain ⟨slot, mem, hs⟩ := ih h
    have same : slot.outcome ∈ next.map Slot.outcome := List.mem_map_of_mem mem
    rw [map_outcome_of_round hr, hs] at same
    exact List.mem_map.1 same
  | case3 completed slots idle => cases h

theorem rounds_eq_ok_iff {total completed : Nat} {slots : List Slot}
    {pairs : List (String × Asset)} :
    (rounds total completed slots).1 = .ok pairs ↔ slots.map Slot.outcome = pairs.map .ok := by
  refine ⟨map_outcome_of_rounds, fun h ↦ ?_⟩
  cases hr : (rounds total completed slots).1 with
  | error failure =>
    obtain ⟨slot, mem, hs⟩ := outcome_of_rounds_error hr
    have : slot.outcome ∈ slots.map Slot.outcome := List.mem_map_of_mem mem
    rw [h, hs] at this
    simp at this
  | ok found =>
    have same := (map_outcome_of_rounds hr).symm.trans h
    rw [(List.map_inj_right fun _ _ ↦ Except.ok.inj).1 same]

end Resolution

open Resolution Outcome in
/-- A resolution succeeds exactly if every fetch brings an asset of its source's kind, and then the
assets are those of the sources, the last one counting where names are the same. -/
theorem resolve_eq_ok_iff {fetches : List (Asset.Source × Fetching)} {assets : Assets} :
    (resolve fetches).result = .ok assets ↔
      ∃ pairs, fetches.map (fun (source, fetching) ↦ outcome source fetching) = pairs.map .ok ∧
        Assets.ofList pairs = assets := by
  simp only [resolve, map_eq_ok_iff, rounds_eq_ok_iff, List.map_map]
  rfl

end SoloScript
