import Mathlib.Data.List.Sort
import SoloScript.Proofs.Resolution.FirstFailure

/-!
# The order in which assets come

A fetch ends in the round of its delay, and the fetches of one round end in the order of the
sources.  The assets that have come when a resolution ends are those of the fetches in this order,
up to the first that fails, and they are what the resolution reports.  A round takes the first of
the endings away and brings the others nearer, so their order stays.
-/

namespace SoloScript

open Log

namespace Resolution

/-! ## Endings -/

/-- How a fetch ends: after how many rounds, the place of its source in the list and the source's
name, and what the resolution has of it. -/
structure Ending where
  delay : Nat
  index : Nat
  name : String
  result : Except Failure Asset

namespace Ending

def ofFetch (index : Nat) (fetch : Asset.Source × Fetching) : Ending :=
  ⟨fetch.2.delay, index, fetch.1.name, accept fetch.1 fetch.2.outcome⟩

/-- Fewer rounds, or as many and not behind in the list. -/
def Le (first second : Ending) : Prop :=
  first.delay < second.delay ∨ first.delay = second.delay ∧ first.index ≤ second.index

instance : DecidableRel Le := fun first second ↦
  inferInstanceAs (Decidable (first.delay < second.delay ∨
    first.delay = second.delay ∧ first.index ≤ second.index))

instance : IsTrans Ending Le where
  trans first second third h h' := by
    rw [Le] at *
    omega

instance : Std.Total Le where
  total first second := by
    rw [Le, Le]
    omega

/-- The same ending one round later. -/
def later (ending : Ending) : Ending := { ending with delay := ending.delay + 1 }

theorem le_iff_later_le {first second : Ending} :
    first.Le second ↔ first.later.Le second.later := by
  simp only [Le, later]
  omega

end Ending

/-- Endings in the order in which they happen. -/
def inOrder (endings : List Ending) : List Ending := endings.insertionSort Ending.Le

/-- The endings of all fetches, in their order. -/
def completions (fetches : List (Asset.Source × Fetching)) : List Ending :=
  inOrder (fetches.mapIdx Ending.ofFetch)

/-- The assets that come before the first failure, with the names of their sources. -/
def arrived : List Ending → List (String × Asset)
  | [] => []
  | ending :: endings =>
    match ending.result with
    | .ok asset => (ending.name, asset) :: arrived endings
    | .error _ => []

/-- The events of assets that come one after another, `completed` others having come before. -/
def reports (total completed : Nat) (assets : List (String × Asset)) : List Event :=
  (assets.zipIdx (completed + 1)).flatMap fun ((name, asset), k) ↦ arrival name asset k total

variable {endings endings' : List Ending} {total completed index : Nat} {slots next : List Slot}
  {failure : Failure}

theorem arrived_map_later : arrived (endings.map Ending.later) = arrived endings := by
  induction endings with
  | nil => rfl
  | cons ending endings ih => simp only [List.map_cons, arrived, Ending.later, ih]

/-- Whatever follows assets that have all come goes on behind them. -/
theorem arrived_append (h : ∀ ending ∈ endings, ∃ asset, ending.result = .ok asset) :
    arrived (endings ++ endings') = arrived endings ++ arrived endings' := by
  induction endings with
  | nil => rfl
  | cons ending endings ih =>
    obtain ⟨⟨asset, brought⟩, others⟩ := List.forall_mem_cons.1 h
    simp only [List.cons_append, arrived, brought, ih others]

/-- Nothing comes behind a failure. -/
theorem arrived_append_of_failure
    (h : ∃ ending ∈ endings, ∃ failure, ending.result = .error failure) :
    arrived (endings ++ endings') = arrived endings := by
  induction endings with
  | nil => simp at h
  | cons ending endings ih =>
    cases result : ending.result with
    | error failure => simp only [List.cons_append, arrived, result]
    | ok asset =>
      have further : ∃ ending ∈ endings, ∃ failure, ending.result = .error failure := by
        simpa [result] using h
      simp only [List.cons_append, arrived, result, ih further]

theorem length_arrived_le : (arrived endings).length ≤ endings.length := by
  induction endings with
  | nil => exact Nat.le_refl _
  | cons ending endings ih =>
    cases result : ending.result with
    | error failure => simp [arrived, result]
    | ok asset => simpa [arrived, result] using ih

/-- All assets have come exactly if no ending is a failure. -/
theorem length_arrived_eq_iff :
    (arrived endings).length = endings.length ↔
      ∀ ending ∈ endings, ∃ asset, ending.result = .ok asset := by
  induction endings with
  | nil => simp [arrived]
  | cons ending endings ih =>
    cases result : ending.result with
    | error failure => simp [arrived, result]
    | ok asset => simp [arrived, result, ih]

theorem reports_cons (name : String) (asset : Asset) (others : List (String × Asset)) :
    reports total completed ((name, asset) :: others) =
      arrival name asset (completed + 1) total ++ reports total (completed + 1) others := rfl

theorem reports_append (first second : List (String × Asset)) :
    reports total completed (first ++ second) =
      reports total completed first ++ reports total (completed + first.length) second := by
  rw [reports, List.zipIdx_append, List.flatMap_append, Nat.add_right_comm]
  rfl

/-! ## The order of endings -/

theorem inOrder_perm : (inOrder endings).Perm endings := List.perm_insertionSort ..

theorem pairwise_inOrder : (inOrder endings).Pairwise Ending.Le := List.pairwise_insertionSort ..

theorem inOrder_map_later : inOrder (endings.map Ending.later) = (inOrder endings).map .later :=
  (List.map_insertionSort Ending.Le Ending.Le .later endings fun _ _ _ _ ↦
    Ending.le_iff_later_le).symm

/-- The endings that are due come first, in the order of the list, and then the others. -/
theorem inOrder_eq_append
    (sorted : endings.Pairwise fun first second ↦ first.index < second.index) :
    inOrder endings = endings.filter (·.delay = 0) ++ inOrder (endings.filter (¬ ·.delay = 0)) := by
  have split : (inOrder endings).Perm
      (endings.filter (·.delay = 0) ++ inOrder (endings.filter (¬ ·.delay = 0))) := by
    have parts := List.filter_append_perm (fun ending : Ending ↦ decide (ending.delay = 0)) endings
    simp only [← decide_not] at parts
    exact (inOrder_perm.trans parts.symm).trans (.append_left _ inOrder_perm.symm)
  have nodup : (endings.map Ending.index).Nodup := List.pairwise_map.2 (sorted.imp Nat.ne_of_lt)
  refine split.eq_of_pairwise (fun first second mem mem' h h' ↦ ?_) pairwise_inOrder
    (List.pairwise_append.2 ⟨?_, pairwise_inOrder, fun first mem second mem' ↦ ?_⟩)
  · rw [Ending.Le] at h h'
    exact List.inj_on_of_nodup_map nodup (inOrder_perm.subset mem)
      (inOrder_perm.subset (split.symm.subset mem')) (by omega)
  · refine (sorted.filter _).imp_of_mem fun mem mem' before ↦ ?_
    have due := of_decide_eq_true (List.mem_filter.1 mem).2
    have due' := of_decide_eq_true (List.mem_filter.1 mem').2
    rw [Ending.Le]
    omega
  · have due := of_decide_eq_true (List.mem_filter.1 mem).2
    have waits := of_decide_eq_true (List.mem_filter.1 (inOrder_perm.subset mem')).2
    rw [Ending.Le]
    omega

/-! ## Endings of slots -/

/-- The endings to come, the first slot being that of the source at `index`. -/
def toCome (index : Nat) : List Slot → List Ending
  | [] => []
  | .pending source fetching :: slots =>
    .ofFetch index (source, fetching) :: toCome (index + 1) slots
  | .done .. :: slots => toCome (index + 1) slots

/-- The endings of this round. -/
def due (index : Nat) (slots : List Slot) : List Ending := (toCome index slots).filter (·.delay = 0)

theorem toCome_slotsOf (index : Nat) (fetches : List (Asset.Source × Fetching)) :
    toCome index (slotsOf fetches) = fetches.mapIdx fun i ↦ Ending.ofFetch (index + i) := by
  induction fetches generalizing index with
  | nil => rfl
  | cons fetch fetches ih =>
    have first : toCome index (slotsOf (fetch :: fetches)) =
        .ofFetch index fetch :: toCome (index + 1) (slotsOf fetches) := rfl
    rw [first, ih, List.mapIdx_cons]
    simp only [Nat.add_zero, Nat.add_assoc, Nat.add_comm 1]

theorem toCome_of_all_done (done : slots.all Slot.isDone) : toCome index slots = [] := by
  induction slots generalizing index with
  | nil => rfl
  | cons slot slots ih =>
    rw [List.all_cons, Bool.and_eq_true] at done
    cases slot with
    | pending source fetching => simp [Slot.isDone] at done
    | done name asset => exact ih done.2

theorem le_index_of_mem_toCome {ending : Ending} (mem : ending ∈ toCome index slots) :
    index ≤ ending.index := by
  induction slots generalizing index with
  | nil => cases mem
  | cons slot slots ih =>
    cases slot with
    | pending source fetching =>
      rcases List.mem_cons.1 mem with rfl | mem
      · exact Nat.le_refl _
      · exact Nat.le_of_succ_le (ih mem)
    | done name asset => exact Nat.le_of_succ_le (ih mem)

theorem pairwise_toCome (index : Nat) (slots : List Slot) :
    (toCome index slots).Pairwise fun first second ↦ first.index < second.index := by
  induction slots generalizing index with
  | nil => exact .nil
  | cons slot slots ih =>
    cases slot with
    | pending source fetching =>
      exact .cons (fun ending mem ↦ le_index_of_mem_toCome mem) (ih (index + 1))
    | done name asset => exact ih (index + 1)

theorem inOrder_toCome (index : Nat) (slots : List Slot) :
    inOrder (toCome index slots) =
      due index slots ++ inOrder ((toCome index slots).filter (¬ ·.delay = 0)) :=
  inOrder_eq_append (pairwise_toCome index slots)

theorem due_cons_of_zero {source : Asset.Source} {outcome : Except Failure Asset} :
    due index (.pending source ⟨0, outcome⟩ :: slots) =
      ⟨0, index, source.name, accept source outcome⟩ :: due (index + 1) slots := rfl

/-! ## One round -/

/-- A round reports what is due, up to the first failure. -/
theorem reports_of_round (index total completed : Nat) (slots : List Slot) :
    (round total completed slots).events = reports total completed (arrived (due index slots)) ∧
      (round total completed slots).completed =
        completed + (arrived (due index slots)).length := by
  fun_induction round total completed slots generalizing index with
  | case1 completed => exact ⟨rfl, rfl⟩
  | case2 completed name asset slots ih => exact ih (index + 1)
  | case3 completed source delay fetched slots ih => exact ih (index + 1)
  | case4 completed source fetched slots failure refused =>
    rw [due_cons_of_zero]
    simp only [arrived, refused]
    exact ⟨rfl, rfl⟩
  | case5 completed source fetched slots asset accepted ih =>
    obtain ⟨events, count⟩ := ih (index + 1)
    rw [due_cons_of_zero]
    simp only [arrived, accepted, Round.cons, events, count, List.length_cons, reports_cons]
    exact ⟨trivial, by omega⟩

/-- A round that goes through has no failure that is due, and brings the other endings nearer. -/
theorem toCome_of_round (index : Nat) (h : (round total completed slots).slots = .ok next) :
    (∀ ending ∈ due index slots, ∃ asset, ending.result = .ok asset) ∧
      (toCome index slots).filter (¬ ·.delay = 0) = (toCome index next).map .later := by
  fun_induction round total completed slots generalizing index next with
  | case1 completed =>
    cases h
    exact ⟨by simp [due, toCome], rfl⟩
  | case2 completed name asset slots ih =>
    obtain ⟨rest, hr, rfl⟩ := slots_cons_eq_ok_iff.1 h
    exact ih (index + 1) hr
  | case3 completed source delay fetched slots ih =>
    obtain ⟨rest, hr, rfl⟩ := slots_cons_eq_ok_iff.1 h
    obtain ⟨brought, waiting⟩ := ih (index + 1) hr
    exact ⟨brought, congrArg (Ending.ofFetch index (source, ⟨delay + 1, fetched⟩) :: ·) waiting⟩
  | case4 completed source fetched slots failure refused => cases h
  | case5 completed source fetched slots asset accepted ih =>
    obtain ⟨rest, hr, rfl⟩ := slots_cons_eq_ok_iff.1 h
    obtain ⟨brought, waiting⟩ := ih (index + 1) hr
    exact ⟨by simpa [due_cons_of_zero, accepted] using brought, waiting⟩

/-- A round that ends with a failure has one that is due. -/
theorem exists_failure_due_of_round (index : Nat)
    (h : (round total completed slots).slots = .error failure) :
    ∃ ending ∈ due index slots, ∃ failure, ending.result = .error failure := by
  fun_induction round total completed slots generalizing index with
  | case1 completed => cases h
  | case2 completed name asset slots ih => exact ih (index + 1) (slots_cons_eq_error_iff.1 h)
  | case3 completed source delay fetched slots ih =>
    exact ih (index + 1) (slots_cons_eq_error_iff.1 h)
  | case4 completed source fetched slots refusal refused =>
    exact ⟨_, List.mem_cons_self, refusal, refused⟩
  | case5 completed source fetched slots asset accepted ih =>
    obtain ⟨ending, mem, failed⟩ := ih (index + 1) (slots_cons_eq_error_iff.1 h)
    exact ⟨ending, List.mem_cons_of_mem _ mem, failed⟩

/-! ## All rounds -/

/-- The rounds report the assets in the order of the endings, up to the first failure. -/
theorem events_rounds (index total completed : Nat) (slots : List Slot) :
    (rounds total completed slots).2 =
      reports total completed (arrived (inOrder (toCome index slots))) := by
  fun_induction rounds total completed slots with
  | case1 completed slots busy first failure hr =>
    rw [inOrder_toCome, arrived_append_of_failure (exists_failure_due_of_round index hr)]
    exact (reports_of_round index total completed slots).1
  | case2 completed slots busy first next hr _ later ih =>
    obtain ⟨brought, waiting⟩ := toCome_of_round index hr
    obtain ⟨events, count⟩ := reports_of_round index total completed slots
    rw [inOrder_toCome, waiting, inOrder_map_later, arrived_append brought, arrived_map_later,
      reports_append, ← events, ← count]
    exact congrArg (first.events ++ ·) ih
  | case3 completed slots idle =>
    rw [toCome_of_all_done (by simpa using idle), inOrder, List.insertionSort_nil]
    rfl

end Resolution

end SoloScript
