import SoloScript.Proofs.Resolution

/-!
# The first failure of a resolution

A resolution with sources that fail ends with the failure of the one that comes first: the one with
the least delay, and among those the one that is first in the list.  Each round brings all failures
one round nearer, until the first of them is due.  Everything is started in the first round, unless
that round is the one that fails.
-/

namespace SoloScript

open Outcome

namespace Resolution

/-! ## Failures of fetches -/

/-- How a fetch fails: by a failure of its own, or with an asset of another kind than its source
promises. -/
inductive FailsWith : Asset.Source × Fetching → Failure → Prop where
  | fetch (source : Asset.Source) (delay : Nat) (failure : Failure) :
      FailsWith (source, ⟨delay, .error failure⟩) failure
  | kind {source : Asset.Source} {asset : Asset} (delay : Nat) (other : asset.kind ≠ source.kind) :
      FailsWith (source, ⟨delay, .ok asset⟩) (.wrongKind source.name source.kind)

/-- The fetch at `index` fails with `failure`, and every other that fails takes more rounds, or as
many and comes later in the list. -/
def FirstFailure (fetches : List (Asset.Source × Fetching)) (index : Nat) (failure : Failure) :
    Prop :=
  ∃ fetch, fetches[index]? = some fetch ∧ FailsWith fetch failure ∧
    ∀ (other : Nat) (fetch' : Asset.Source × Fetching) (failure' : Failure),
      fetches[other]? = some fetch' → FailsWith fetch' failure' →
        fetch.2.delay < fetch'.2.delay ∨ fetch.2.delay = fetch'.2.delay ∧ index ≤ other

/-- The fetch fails in the first round. -/
def FailsAtOnce (fetch : Asset.Source × Fetching) : Prop :=
  fetch.2.delay = 0 ∧ ∃ failure, FailsWith fetch failure

theorem failsWith_iff {source : Asset.Source} {fetching : Fetching} {failure : Failure} :
    FailsWith (source, fetching) failure ↔ accept source fetching.outcome = .error failure := by
  obtain ⟨delay, outcome⟩ := fetching
  cases outcome with
  | error other =>
    constructor
    · rintro ⟨⟩
      rfl
    · rintro ⟨⟩
      exact .fetch ..
  | ok asset =>
    by_cases fits : asset.kind = source.kind
    · have accepted : accept source (.ok asset) = .ok asset := accept_eq_ok_iff.2 ⟨rfl, fits⟩
      simp only [accepted, reduceCtorEq, iff_false]
      rintro ⟨⟩
      contradiction
    · have refused : accept source (.ok asset) =
          .error (.wrongKind source.name source.kind) := by
        simp [accept, fits]
      simp only [refused, Except.error.injEq]
      constructor
      · rintro ⟨⟩
        rfl
      · rintro rfl
        exact .kind delay fits

/-! ## Failures to come -/

/-- The failure that the fetch of a slot will end with, and in how many rounds. -/
def Slot.failure? : Slot → Option (Nat × Failure)
  | pending source fetching =>
    match accept source fetching.outcome with
    | .error failure => some (fetching.delay, failure)
    | .ok _ => none
  | done .. => none

/-- The same failure one round later. -/
def later (failure? : Option (Nat × Failure)) : Option (Nat × Failure) :=
  failure?.map fun (delay, failure) ↦ (delay + 1, failure)

/-- The first of the failures to come is the one at `index`. -/
structure FirstIn (failures : List (Option (Nat × Failure))) (index delay : Nat)
    (failure : Failure) : Prop where
  there : failures[index]? = some (some (delay, failure))
  least : ∀ other delay' failure', failures[other]? = some (some (delay', failure')) →
    delay < delay' ∨ delay = delay' ∧ index ≤ other

variable {failures : List (Option (Nat × Failure))} {index delay total completed : Nat}
  {failure : Failure} {slots next : List Slot}

/-- The order of failures does not change as time passes. -/
theorem FirstIn.later (h : FirstIn failures index delay failure) :
    FirstIn (failures.map Resolution.later) index (delay + 1) failure where
  there := by simp [h.there, Resolution.later]
  least other delay' failure' found := by
    rw [List.getElem?_map, Option.map_eq_some_iff] at found
    obtain ⟨failure?, found, moved⟩ := found
    obtain ⟨⟨sooner, refusal⟩, rfl, same⟩ := Option.map_eq_some_iff.1 moved
    obtain ⟨rfl, rfl⟩ := Prod.mk.inj same
    have := h.least other sooner refusal found
    omega

/-- A failure that is due comes before all that are not and all that are behind it. -/
theorem firstIn_of_due {before after : List (Option (Nat × Failure))}
    (early : ∀ failure, some (0, failure) ∉ before) :
    FirstIn (before ++ some (0, failure) :: after) before.length 0 failure where
  there := by simp
  least other delay' failure' found := by
    by_cases due : delay' = 0
    · subst due
      refine .inr ⟨rfl, Nat.le_of_not_lt fun earlier ↦ ?_⟩
      rw [List.getElem?_append_left earlier] at found
      exact early failure' (List.mem_of_getElem? found)
    · exact .inl (Nat.pos_of_ne_zero due)

/-! ## One round -/

/-- A round that goes through has no failure that is due, and brings all others nearer. -/
theorem map_failure?_of_round (h : (round total completed slots).slots = .ok next) :
    slots.map Slot.failure? = (next.map Slot.failure?).map later := by
  fun_induction round total completed slots generalizing next with
  | case1 completed =>
    cases h
    rfl
  | case2 completed name asset slots ih =>
    obtain ⟨rest, hr, rfl⟩ := slots_cons_eq_ok_iff.1 h
    simp [ih hr, Slot.failure?, later]
  | case3 completed source delay fetched slots ih =>
    obtain ⟨rest, hr, rfl⟩ := slots_cons_eq_ok_iff.1 h
    simp only [List.map_cons, ih hr, Slot.failure?]
    cases accept source fetched <;> rfl
  | case4 completed source fetched slots failure refused => cases h
  | case5 completed source fetched slots asset accepted ih =>
    obtain ⟨rest, hr, rfl⟩ := slots_cons_eq_ok_iff.1 h
    simp [ih hr, Slot.failure?, later, accepted]

/-- A round that ends with a failure ends with the first that is due. -/
theorem exists_due_of_round_error (h : (round total completed slots).slots = .error failure) :
    ∃ before after, slots.map Slot.failure? = before ++ some (0, failure) :: after ∧
      ∀ other, some (0, other) ∉ before := by
  have further {first : Option (Nat × Failure)} {slots : List Slot}
      (waits : ∀ other, some (0, other) ≠ first)
      (h : ∃ before after, slots.map Slot.failure? = before ++ some (0, failure) :: after ∧
        ∀ other, some (0, other) ∉ before) :
      ∃ before after, first :: slots.map Slot.failure? = before ++ some (0, failure) :: after ∧
        ∀ other, some (0, other) ∉ before := by
    obtain ⟨before, after, split, early⟩ := h
    exact ⟨first :: before, after, by rw [split, List.cons_append], by simp [waits, early]⟩
  fun_induction round total completed slots with
  | case1 completed => cases h
  | case2 completed name asset slots ih =>
    exact further (by simp [Slot.failure?]) (ih (slots_cons_eq_error_iff.1 h))
  | case3 completed source delay fetched slots ih =>
    refine further (fun other ↦ ?_) (ih (slots_cons_eq_error_iff.1 h))
    simp only [Slot.failure?]
    cases accept source fetched <;> simp
  | case4 completed source fetched slots refusal refused =>
    obtain rfl : refusal = failure := by simpa using h
    exact ⟨[], slots.map Slot.failure?, by simp [Slot.failure?, refused], by simp⟩
  | case5 completed source fetched slots asset accepted ih =>
    exact further (by simp [Slot.failure?, accepted]) (ih (slots_cons_eq_error_iff.1 h))

/-! ## All rounds -/

/-- The failure that rounds end with is the first of those to come. -/
theorem firstIn_of_rounds_error (h : (rounds total completed slots).1 = .error failure) :
    ∃ index delay, FirstIn (slots.map Slot.failure?) index delay failure := by
  fun_induction rounds total completed slots with
  | case1 completed slots busy first refusal hr =>
    obtain rfl : refusal = failure := by simpa using h
    obtain ⟨before, after, split, early⟩ := exists_due_of_round_error hr
    rw [split]
    exact ⟨_, _, firstIn_of_due early⟩
  | case2 completed slots busy first next hr _ later ih =>
    obtain ⟨index, delay, first⟩ := ih h
    rw [map_failure?_of_round hr]
    exact ⟨index, delay + 1, first.later⟩
  | case3 completed slots idle => cases h

/-! ## What is started -/

variable {fetches : List (Asset.Source × Fetching)}

/-- The slots before the first round. -/
def slotsOf (fetches : List (Asset.Source × Fetching)) : List Slot :=
  fetches.map fun (source, fetching) ↦ .pending source fetching

/-- Looking at a fetch that fails at once ends the round. -/
theorem seen_round_of_failsAtOnce {source : Asset.Source} {fetching : Fetching}
    (fails : FailsAtOnce (source, fetching)) :
    (round total completed (.pending source fetching :: slots)).seen = [source.name] := by
  obtain ⟨due, failure, failed⟩ := fails
  obtain ⟨delay, outcome⟩ := fetching
  obtain rfl : delay = 0 := due
  have refused : accept source outcome = .error failure := failsWith_iff.1 failed
  simp only [round, refused]

/-- The round goes on behind a fetch that does not fail at once. -/
theorem exists_seen_round_eq_cons (total completed : Nat) (slots : List Slot)
    {source : Asset.Source} {fetching : Fetching} (goes : ¬FailsAtOnce (source, fetching)) :
    ∃ arrived, (round total completed (.pending source fetching :: slots)).seen =
      source.name :: (round total arrived slots).seen := by
  obtain ⟨delay, outcome⟩ := fetching
  cases delay with
  | zero =>
    cases taken : accept source outcome with
    | ok asset => exact ⟨completed + 1, by simp [round, taken, Round.cons]⟩
    | error failure => exact absurd ⟨rfl, failure, failsWith_iff.2 taken⟩ goes
  | succ delay => exact ⟨completed, by simp [round, Round.cons]⟩

/-- In the first round all fetches are looked at, or all up to the first that fails at once. -/
theorem seen_round_slotsOf (total completed : Nat) (fetches : List (Asset.Source × Fetching)) :
    (∀ fetch ∈ fetches, ¬FailsAtOnce fetch) ∧
        (round total completed (slotsOf fetches)).seen = fetches.map (·.1.name) ∨
      ∃ before fetch after, fetches = before ++ fetch :: after ∧ FailsAtOnce fetch ∧
        (∀ earlier ∈ before, ¬FailsAtOnce earlier) ∧
        (round total completed (slotsOf fetches)).seen = (before ++ [fetch]).map (·.1.name) := by
  induction fetches generalizing completed with
  | nil => exact .inl ⟨by simp, rfl⟩
  | cons fetch fetches ih =>
    obtain ⟨source, fetching⟩ := fetch
    have slots : slotsOf ((source, fetching) :: fetches) =
        .pending source fetching :: slotsOf fetches := rfl
    by_cases fails : FailsAtOnce (source, fetching)
    · refine .inr ⟨[], _, fetches, rfl, fails, by simp, ?_⟩
      rw [slots, seen_round_of_failsAtOnce fails]
      rfl
    · obtain ⟨arrived, seen⟩ :=
        exists_seen_round_eq_cons total completed (slotsOf fetches) fails
      rw [slots, seen]
      rcases ih arrived with ⟨free, same⟩ | ⟨before, last, after, rfl, due, free, same⟩
      · exact .inl ⟨List.forall_mem_cons.2 ⟨fails, free⟩, by rw [same, List.map_cons]⟩
      · refine .inr ⟨(source, fetching) :: before, last, after, rfl, due, ?_, ?_⟩
        · exact List.forall_mem_cons.2 ⟨fails, free⟩
        · rw [same, List.cons_append, List.map_cons]

/-! ## First failures -/

theorem failure?_pending_eq_some_iff {source : Asset.Source} {fetching : Fetching} :
    (Slot.pending source fetching).failure? = some (delay, failure) ↔
      fetching.delay = delay ∧ FailsWith (source, fetching) failure := by
  rw [failsWith_iff, Slot.failure?]
  cases accept source fetching.outcome <;> simp

theorem getElem?_failure?_slotsOf :
    ((slotsOf fetches).map Slot.failure?)[index]? = some (some (delay, failure)) ↔
      ∃ fetch, fetches[index]? = some fetch ∧ fetch.2.delay = delay ∧ FailsWith fetch failure := by
  simp only [slotsOf, List.getElem?_map, Option.map_map, Option.map_eq_some_iff, Function.comp_apply,
    failure?_pending_eq_some_iff]

/-- The first of the failures to come is that of the fetch that fails first. -/
theorem firstFailure_of_firstIn
    (h : FirstIn ((slotsOf fetches).map Slot.failure?) index delay failure) :
    FirstFailure fetches index failure := by
  obtain ⟨fetch, found, rfl, fails⟩ := getElem?_failure?_slotsOf.1 h.there
  refine ⟨fetch, found, fails, fun other fetch' failure' found' fails' ↦ ?_⟩
  exact h.least other _ failure' (getElem?_failure?_slotsOf.2 ⟨fetch', found', rfl, fails'⟩)

/-- Where all outcomes are assets, nothing fails. -/
theorem not_failsWith_of_resolve {assets : Assets} (h : (resolve fetches).result = .ok assets)
    {fetch : Asset.Source × Fetching} (mem : fetch ∈ fetches) (failure : Failure) :
    ¬FailsWith fetch failure := by
  intro fails
  obtain ⟨pairs, same, -⟩ := resolve_eq_ok_iff.1 h
  have brought : outcome fetch.1 fetch.2 ∈
      fetches.map fun (source, fetching) ↦ outcome source fetching := List.mem_map_of_mem mem
  rw [same, outcome, failsWith_iff.1 fails] at brought
  obtain ⟨pair, -, impossible⟩ := List.mem_map.1 brought
  cases impossible

end Resolution

open Resolution in
/-- Either no source fails, and the resolution succeeds; or it ends with the failure of the source
that fails first, and nothing else.  Each source is started once, in the order of the list: all of
them, or all up to the first that fails at once. -/
theorem first_failure_decides (fetches : List (Asset.Source × Fetching)) :
    ((∀ fetch ∈ fetches, ∀ failure, ¬FailsWith fetch failure) ∧
        (∃ assets, (resolve fetches).result = .ok assets) ∨
      ∃ index failure, FirstFailure fetches index failure ∧
        (resolve fetches).result = .error failure) ∧
    ((∀ fetch ∈ fetches, ¬FailsAtOnce fetch) ∧
        (resolve fetches).started = fetches.map (·.1.name) ∨
      ∃ before fetch after, fetches = before ++ fetch :: after ∧ FailsAtOnce fetch ∧
        (∀ earlier ∈ before, ¬FailsAtOnce earlier) ∧
        (resolve fetches).started = (before ++ [fetch]).map (·.1.name)) := by
  refine ⟨?_, seen_round_slotsOf _ _ _⟩
  cases resolved : (resolve fetches).result with
  | ok assets =>
    refine .inl ⟨fun fetch mem failure ↦ ?_, assets, rfl⟩
    exact not_failsWith_of_resolve resolved mem failure
  | error failure =>
    obtain ⟨index, delay, first⟩ := firstIn_of_rounds_error (map_eq_error_iff.1 resolved)
    exact .inr ⟨index, failure, firstFailure_of_firstIn first, rfl⟩

end SoloScript
