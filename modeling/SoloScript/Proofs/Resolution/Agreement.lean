import SoloScript.Proofs.Asset
import SoloScript.Proofs.Resolution

/-!
# Resolutions do not depend on delays

What a resolution comes to is decided by the responses alone.  If each of them is an asset of the
kind that its source promises, the resolution brings the same assets under all delays, and of two
sources with one name the later in the list counts, whichever asset comes first.  If not, it fails
under all delays.
-/

namespace SoloScript

open Resolution Outcome

variable {responses : List (Asset.Source × Except Failure Asset)}

namespace Resolution

/-! ## Responses and delays -/

/-- Responses as fetches, the `i`-th with the `i`-th delay. -/
def schedule (responses : List (Asset.Source × Except Failure Asset)) (delay : Nat → Nat) :
    List (Asset.Source × Fetching) :=
  responses.mapIdx fun i (source, response) ↦ (source, ⟨delay i, response⟩)

/-- All responses are assets of the kinds that their sources promise. -/
def Delivered (responses : List (Asset.Source × Except Failure Asset)) : Prop :=
  ∀ response ∈ responses, ∃ asset, response.2 = .ok asset ∧ asset.kind = response.1.kind

/-- The assets are those of the responses, each once under the name of its source; for a name that
several sources have it is the asset of the last of them. -/
structure Collects (assets : Assets) (responses : List (Asset.Source × Except Failure Asset)) :
    Prop where
  nodup : assets.names.Nodup
  isSome_iff : ∀ name, (assets.get? name).isSome ↔ ∃ response ∈ responses, response.1.name = name
  eq_some_iff : ∀ name asset, assets.get? name = some asset ↔
    ∃ before source after, responses = before ++ (source, .ok asset) :: after ∧
      source.name = name ∧ ∀ later ∈ after, later.1.name ≠ name

/-! ## What responses bring -/

/-- What a response comes to, with the name of its source; the delay does not matter. -/
def delivery (response : Asset.Source × Except Failure Asset) : Except Failure (String × Asset) :=
  outcome response.1 ⟨0, response.2⟩

theorem delivery_eq_ok_iff {response : Asset.Source × Except Failure Asset}
    {pair : String × Asset} :
    delivery response = .ok pair ↔
      pair.1 = response.1.name ∧ response.2 = .ok pair.2 ∧ pair.2.kind = response.1.kind :=
  outcome_eq_ok_iff

theorem map_outcome_schedule (delay : Nat → Nat) :
    (schedule responses delay).map (fun (source, fetching) ↦ outcome source fetching) =
      responses.map delivery := by
  apply List.ext_getElem?
  intro i
  simp only [schedule, List.getElem?_map, List.getElem?_mapIdx, Option.map_map]
  rfl

theorem resolve_schedule_eq_ok_iff {delay : Nat → Nat} {assets : Assets} :
    (resolve (schedule responses delay)).result = .ok assets ↔
      ∃ pairs, responses.map delivery = pairs.map .ok ∧ Assets.ofList pairs = assets := by
  rw [resolve_eq_ok_iff, map_outcome_schedule]

theorem delivered_iff :
    Delivered responses ↔ ∃ pairs : List (String × Asset), responses.map delivery = pairs.map .ok := by
  rw [exists_map_eq_map_ok_iff]
  constructor
  · intro all response mem
    obtain ⟨asset, fetched, fits⟩ := all response mem
    exact ⟨(response.1.name, asset), delivery_eq_ok_iff.2 ⟨rfl, fetched, fits⟩⟩
  · intro all response mem
    obtain ⟨pair, brought⟩ := all response mem
    obtain ⟨-, fetched, fits⟩ := delivery_eq_ok_iff.1 brought
    exact ⟨pair.2, fetched, fits⟩

section Pairs

variable {pairs : List (String × Asset)} (same : responses.map delivery = pairs.map .ok)

include same

/-- The names of the pairs are those of the sources. -/
theorem map_name_eq_map_fst : responses.map (·.1.name) = pairs.map (·.1) := by
  induction responses generalizing pairs with
  | nil =>
    obtain rfl := List.map_eq_nil_iff.1 same.symm
    rfl
  | cons response responses ih =>
    obtain ⟨pair, others, rfl, brought, rest⟩ := List.map_eq_cons_iff.1 same.symm
    rw [List.map_cons, List.map_cons, ih rest.symm, (delivery_eq_ok_iff.1 brought.symm).1]

/-- The last pair of a name comes from the last source of that name. -/
theorem exists_last_pair_iff {name : String} {asset : Asset} :
    (∃ before after, pairs = before ++ (name, asset) :: after ∧ ∀ later ∈ after, later.1 ≠ name) ↔
      ∃ before source after, responses = before ++ (source, .ok asset) :: after ∧
        source.name = name ∧ ∀ later ∈ after, later.1.name ≠ name := by
  constructor
  · rintro ⟨before, after, rfl, free⟩
    rw [List.map_append, List.map_cons] at same
    obtain ⟨first, rest, rfl, -, same⟩ := List.map_eq_append_iff.1 same
    obtain ⟨⟨source, response⟩, others, rfl, brought, behind⟩ := List.map_eq_cons_iff.1 same
    obtain ⟨named, rfl, -⟩ := delivery_eq_ok_iff.1 brought
    refine ⟨first, source, others, rfl, named.symm, fun later mem ↦ ?_⟩
    have there : later.1.name ∈ others.map (·.1.name) := List.mem_map_of_mem mem
    rw [map_name_eq_map_fst behind] at there
    obtain ⟨pair, mem, same⟩ := List.mem_map.1 there
    rw [← same]
    exact free pair mem
  · rintro ⟨before, source, after, rfl, rfl, free⟩
    rw [List.map_append, List.map_cons] at same
    obtain ⟨first, rest, rfl, -, same⟩ := List.map_eq_append_iff.1 same.symm
    obtain ⟨pair, others, rfl, brought, behind⟩ := List.map_eq_cons_iff.1 same
    obtain ⟨named, fetched, -⟩ := delivery_eq_ok_iff.1 brought.symm
    obtain rfl := Except.ok.inj fetched
    refine ⟨first, others, by rw [← named], fun later mem ↦ ?_⟩
    have there : later.1 ∈ others.map (·.1) := List.mem_map_of_mem mem
    rw [← map_name_eq_map_fst behind.symm] at there
    obtain ⟨response, mem, same⟩ := List.mem_map.1 there
    rw [← same]
    exact free response mem

theorem collects_ofList : Collects (Assets.ofList pairs) responses where
  nodup := Assets.nodup_names_ofList pairs
  isSome_iff name := by
    rw [Assets.get?_ofList_isSome_iff, ← map_name_eq_map_fst same, List.mem_map]
  eq_some_iff name asset := by
    rw [Assets.get?_ofList_eq_some_iff, exists_last_pair_iff same]

end Pairs

end Resolution

/-- Whatever the responses, they are all delivered and the same assets come of them under all
delays, or they are not and every resolution fails.  The assets have the names of the sources, each
once, and each with the asset of the last source of that name. -/
theorem resolve_agrees (responses : List (Asset.Source × Except Failure Asset)) :
    (∀ delay delay' assets, (resolve (schedule responses delay)).result = .ok assets ↔
      (resolve (schedule responses delay')).result = .ok assets) ∧
    (Delivered responses ∧ (∃ assets, Collects assets responses ∧
        ∀ delay, (resolve (schedule responses delay)).result = .ok assets) ∨
      ¬Delivered responses ∧
        ∀ delay, ∃ failure, (resolve (schedule responses delay)).result = .error failure) := by
  refine ⟨fun delay delay' assets ↦ ?_, ?_⟩
  · rw [resolve_schedule_eq_ok_iff, resolve_schedule_eq_ok_iff]
  · by_cases delivered : Delivered responses
    · obtain ⟨pairs, same⟩ := delivered_iff.1 delivered
      exact .inl ⟨delivered, _, collects_ofList same,
        fun delay ↦ resolve_schedule_eq_ok_iff.2 ⟨pairs, same, rfl⟩⟩
    · refine .inr ⟨delivered, fun delay ↦ ?_⟩
      cases resolved : (resolve (schedule responses delay)).result with
      | error failure => exact ⟨failure, rfl⟩
      | ok assets =>
        obtain ⟨pairs, same, -⟩ := resolve_schedule_eq_ok_iff.1 resolved
        exact absurd (delivered_iff.2 ⟨pairs, same⟩) delivered

end SoloScript
