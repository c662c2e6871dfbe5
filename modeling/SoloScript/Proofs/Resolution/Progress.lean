import Mathlib.Data.Rat.Floor
import Mathlib.Tactic.Linarith
import SoloScript.Proofs.Resolution.Arrivals

/-!
# What a resolution reports

The log of a resolution tells the share of the assets that have come, rounded up, each time that one
more has come.  The shares grow up to a hundred percent, which a resolution reports when it is done.
As shares are rounded up, one of more than a hundred sources also reports it before.
-/

namespace SoloScript

open Log Outcome

namespace Resolution

/-! ## Shares -/

variable {total completed k k' : Nat}

theorem percent_le_iff (pos : 0 < total) (share : Nat) :
    percent completed total ≤ share ↔ 100 * completed ≤ share * total := by
  rw [percent, Nat.div_le_iff_le_mul_add_pred pos, Nat.mul_comm total]
  omega

/-- A share is the least whole number that is not below the exact one. -/
theorem percent_eq_ceil (pos : 0 < total) :
    percent completed total = ⌈(100 * completed : ℚ) / total⌉₊ := by
  refine eq_of_forall_ge_iff fun share ↦ ?_
  have positive : (0 : ℚ) < total := Nat.cast_pos.2 pos
  rw [percent_le_iff pos, Nat.ceil_le, div_le_iff₀ positive]
  exact_mod_cast Iff.rfl

theorem percent_mono (pos : 0 < total) (le : k ≤ k') : percent k total ≤ percent k' total := by
  have least := (percent_le_iff pos (percent k' total)).1 (Nat.le_refl _)
  rw [percent_le_iff pos]
  omega

theorem percent_le_hundred (pos : 0 < total) (le : k ≤ total) : percent k total ≤ 100 :=
  (percent_le_iff pos 100).2 (Nat.mul_le_mul_left 100 le)

/-- A share is reported as a hundred percent as soon as it is above ninety-nine. -/
theorem percent_eq_hundred_iff (pos : 0 < total) (le : k ≤ total) :
    percent k total = 100 ↔ 99 * total / 100 < k := by
  have most := percent_le_hundred pos le
  have less : percent k total ≤ 99 ↔ 100 * k ≤ 99 * total := percent_le_iff pos 99
  omega

/-! ## Logs -/

/-- The share that an event tells. -/
def percent? : Event → Option Nat
  | .progress percent => some percent
  | _ => none

/-- The shares that a log tells. -/
def percentages (events : List Event) : List Nat := events.filterMap percent?

theorem percentages_append (events events' : List Event) :
    percentages (events ++ events') = percentages events ++ percentages events' :=
  List.filterMap_append

theorem percentages_arrival (name : String) (asset : Asset) :
    percentages (arrival name asset k total) = [percent k total] := by
  rw [arrival, percentages_append]
  cases asset.isEmpty <;> rfl

theorem percentages_reports (assets : List (String × Asset)) :
    percentages (reports total completed assets) =
      (List.range' (completed + 1) assets.length).map (percent · total) := by
  induction assets generalizing completed with
  | nil => rfl
  | cons pair assets ih =>
    rw [reports_cons, percentages_append, percentages_arrival, ih]
    rfl

theorem count_percentages (events : List Event) (share : Nat) :
    (percentages events).count share = events.count (.progress share) := by
  induction events with
  | nil => rfl
  | cons event events ih =>
    rw [percentages] at ih ⊢
    cases event <;> simp [List.filterMap_cons, percent?, List.count_cons, ih]

theorem reports_eq_flatMap_ceil (pos : 0 < total) (assets : List (String × Asset)) :
    reports total 0 assets = (assets.zipIdx 1).flatMap fun ((name, asset), k) ↦
      (if asset.size = 0 then [.emptyAsset name] else []) ++
        [.progress ⌈(100 * k : ℚ) / total⌉₊] := by
  refine congrArg ((assets.zipIdx 1).flatMap ·) (funext fun ((name, asset), k) ↦ ?_)
  simp only [arrival, percent_eq_ceil pos, Asset.isEmpty, decide_eq_true_eq]

/-! ## The log of a resolution -/

variable {fetches : List (Asset.Source × Fetching)}

/-- The assets that come before the first failure, in the order in which they come. -/
def arrivals (fetches : List (Asset.Source × Fetching)) : List (String × Asset) :=
  arrived (completions fetches)

theorem events_resolve (fetches : List (Asset.Source × Fetching)) :
    (resolve fetches).events = (if fetches = [] then [] else [.progress 0]) ++
      reports fetches.length 0 (arrivals fetches) := by
  have endings : toCome 0 (slotsOf fetches) = fetches.mapIdx Ending.ofFetch := by
    simp [toCome_slotsOf]
  have events := events_rounds 0 fetches.length 0 (slotsOf fetches)
  rw [endings] at events
  rw [arrivals, completions, ← events, resolve]
  simp only [List.length_map]
  rfl

theorem length_completions : (completions fetches).length = fetches.length := by
  rw [completions, inOrder_perm.length_eq, List.length_mapIdx]

theorem length_arrivals_le : (arrivals fetches).length ≤ fetches.length :=
  length_arrived_le.trans_eq length_completions

/-- A resolution succeeds exactly if all assets come. -/
theorem exists_ok_iff_length_arrivals :
    (∃ assets, (resolve fetches).result = .ok assets) ↔
      (arrivals fetches).length = fetches.length := by
  calc (∃ assets, (resolve fetches).result = .ok assets)
    _ ↔ ∃ pairs : List (String × Asset),
          fetches.map (fun fetch ↦ outcome fetch.1 fetch.2) = pairs.map .ok := by
        simp [resolve_eq_ok_iff]
    _ ↔ ∀ fetch ∈ fetches, ∃ asset, accept fetch.1 fetch.2.outcome = .ok asset := by
        simp [exists_map_eq_map_ok_iff, outcome, map_eq_ok_iff]
    _ ↔ ∀ ending ∈ completions fetches, ∃ asset, ending.result = .ok asset := by
        simp only [completions, inOrder_perm.mem_iff, List.forall_mem_iff_getElem,
          List.getElem_mapIdx, List.length_mapIdx, Ending.ofFetch]
    _ ↔ (arrivals fetches).length = fetches.length := by
        rw [arrivals, ← length_completions, length_arrived_eq_iff]

/-- The shares that are reported are those of all counts of assets, from none to what has come. -/
theorem percentages_resolve (nonempty : fetches ≠ []) :
    percentages (resolve fetches).events =
      (List.range ((arrivals fetches).length + 1)).map (percent · fetches.length) := by
  have none : percent 0 fetches.length = 0 :=
    Nat.le_zero.1 ((percent_le_iff (List.length_pos_iff.2 nonempty) 0).2 (Nat.zero_le _))
  rw [events_resolve, if_neg nonempty, percentages_append, percentages_reports,
    List.range_eq_range', List.range'_succ, List.map_cons, none]
  rfl

theorem exists_le_of_mem_percentages (nonempty : fetches ≠ []) {share : Nat}
    (mem : share ∈ percentages (resolve fetches).events) :
    ∃ k ≤ fetches.length, percent k fetches.length = share := by
  rw [percentages_resolve nonempty, List.mem_map] at mem
  obtain ⟨k, counted, same⟩ := mem
  exact ⟨k, (Nat.lt_succ_iff.1 (List.mem_range.1 counted)).trans length_arrivals_le, same⟩

theorem pairwise_percentages (nonempty : fetches ≠ []) :
    (percentages (resolve fetches).events).Pairwise (· ≤ ·) := by
  rw [percentages_resolve nonempty, List.pairwise_map]
  exact List.pairwise_le_range.imp (percent_mono (List.length_pos_iff.2 nonempty))

/-- A resolution that succeeds ends its report with a hundred percent. -/
theorem percentages_of_ok (nonempty : fetches ≠ []) {assets : Assets}
    (resolved : (resolve fetches).result = .ok assets) :
    ∃ before, before.length = fetches.length ∧
      percentages (resolve fetches).events = before ++ [100] := by
  have pos := List.length_pos_iff.2 nonempty
  have full : percent fetches.length fetches.length = 100 := by
    rw [percent_eq_hundred_iff pos (Nat.le_refl _)]
    omega
  refine ⟨(List.range fetches.length).map (percent · fetches.length), by simp, ?_⟩
  rw [percentages_resolve nonempty, exists_ok_iff_length_arrivals.1 ⟨assets, resolved⟩,
    List.range_succ, List.map_append, List.map_singleton, full]

/-- The `k`-th asset of `n` is reported as a hundred percent if `100 * k` is more than `99 * n`. -/
theorem count_full_share (nonempty : fetches ≠ []) :
    (resolve fetches).events.count (.progress 100) =
      (arrivals fetches).length - 99 * fetches.length / 100 := by
  have above (bound count : Nat) : (List.range (count + 1)).countP (bound < ·) = count - bound := by
    induction count with
    | zero => simp
    | succ count ih =>
      rw [List.range_succ, List.countP_append, ih, List.countP_singleton]
      simp only [decide_eq_true_eq]
      split <;> omega
  have full {k : Nat} (counted : k ∈ List.range ((arrivals fetches).length + 1)) :
      percent k fetches.length = 100 ↔ 99 * fetches.length / 100 < k :=
    percent_eq_hundred_iff (List.length_pos_iff.2 nonempty)
      ((Nat.lt_succ_iff.1 (List.mem_range.1 counted)).trans length_arrivals_le)
  rw [← count_percentages, percentages_resolve nonempty, List.count_eq_countP, List.countP_map,
    ← above]
  refine List.countP_congr fun k counted ↦ ?_
  simpa using full counted

theorem getLast?_reports (assets : List (String × Asset)) (name : String) (asset : Asset) :
    (reports total completed (assets ++ [(name, asset)])).getLast? =
      some (.progress (percent (completed + assets.length + 1) total)) := by
  rw [reports_append, reports_cons, arrival]
  simp [reports]

end Resolution

open Resolution

/-- Nothing is reported where there are no sources.  Otherwise the log begins with no percent, and
of the assets that come before the first failure, in the order of their rounds and of the sources,
the `k`-th is reported as `100 * k` percent of the number of sources, rounded up, behind a warning
if it is empty.  The shares never fall, are a hundred at most, and a resolution that succeeds tells all
of them, the last one being a hundred. -/
theorem log_follows_arrivals (fetches : List (Asset.Source × Fetching)) :
    (resolve fetches).events = (if fetches = [] then [] else
      .progress 0 :: ((arrivals fetches).zipIdx 1).flatMap fun ((name, asset), k) ↦
        (if asset.size = 0 then [.emptyAsset name] else []) ++
          [.progress ⌈(100 * k : ℚ) / fetches.length⌉₊]) ∧
    (∀ share, (Event.progress share).render = "INFO " ++ toString share ++ "%") ∧
    (∀ name, (Event.emptyAsset name).render =
      "WARN asset downloaded with no content name=" ++ Text.quote name) ∧
    (percentages (resolve fetches).events).Pairwise (· ≤ ·) ∧
    (∀ share ∈ percentages (resolve fetches).events, share ≤ 100) ∧
    ∀ assets, fetches ≠ [] → (resolve fetches).result = .ok assets →
      (percentages (resolve fetches).events).length = fetches.length + 1 ∧
      (percentages (resolve fetches).events).getLast? = some 100 := by
  rcases eq_or_ne fetches [] with rfl | nonempty
  · have silent : (resolve []).events = [] := events_resolve []
    refine ⟨silent, fun _ ↦ rfl, fun _ ↦ rfl, ?_⟩
    simp [silent, percentages]
  · refine ⟨?_, fun _ ↦ rfl, fun _ ↦ rfl, pairwise_percentages nonempty, fun share mem ↦ ?_,
      fun assets _ resolved ↦ ?_⟩
    · have pos := List.length_pos_iff.2 nonempty
      rw [events_resolve, if_neg nonempty, if_neg nonempty, reports_eq_flatMap_ceil pos]
      rfl
    · obtain ⟨k, le, rfl⟩ := exists_le_of_mem_percentages nonempty mem
      exact percent_le_hundred (List.length_pos_iff.2 nonempty) le
    · obtain ⟨before, length, same⟩ := percentages_of_ok nonempty resolved
      rw [same, List.length_append, length, List.getLast?_concat]
      exact ⟨rfl, rfl⟩

/-- Two assets of the second round, around one of the first that is empty. -/
theorem log_of_three_sources :
    let fetches : List (Asset.Source × Fetching) :=
      [(⟨"b", "b"⟩, ⟨1, .ok (.text "x")⟩), (⟨"a", "a"⟩, ⟨0, .ok (.text "")⟩),
        (⟨"c", "c.mem"⟩, ⟨1, .ok (.binary [0])⟩)]
    (resolve fetches).events =
        [.progress 0, .emptyAsset "a", .progress 34, .progress 67, .progress 100] ∧
      ∃ assets, (resolve fetches).result = .ok assets ∧
        (percentages (resolve fetches).events).length = fetches.length + 1 := by
  intro fetches
  have nonempty : fetches ≠ [] := List.cons_ne_nil _ _
  have come : arrivals fetches = [("a", .text ""), ("b", .text "x"), ("c", .binary [0])] := by
    decide +kernel
  obtain ⟨assets, resolved⟩ : ∃ assets, (resolve fetches).result = .ok assets := by
    rw [exists_ok_iff_length_arrivals, come]
    rfl
  obtain ⟨log, -, -, -, -, shares⟩ := log_follows_arrivals fetches
  refine ⟨?_, assets, resolved, (shares assets nonempty resolved).1⟩
  rw [log, if_neg nonempty, ← reports_eq_flatMap_ceil (by decide), come]
  decide +kernel

/-- A hundred percent is reported once for each asset beyond ninety-nine percent of the sources.  So
a resolution that succeeds, which is one that all assets come to, reports it at its end; and of up
to a hundred sources no resolution that fails does, and one that succeeds does it once. -/
theorem full_share_reports (fetches : List (Asset.Source × Fetching)) (nonempty : fetches ≠ []) :
    (resolve fetches).events.count (.progress 100) =
      (arrivals fetches).length - 99 * fetches.length / 100 ∧
    ((∃ assets, (resolve fetches).result = .ok assets) ↔
      (arrivals fetches).length = fetches.length) ∧
    ((∃ assets, (resolve fetches).result = .ok assets) →
      (resolve fetches).events.getLast? = some (.progress 100)) ∧
    (fetches.length ≤ 100 →
      (.progress 100 ∈ (resolve fetches).events ↔
        ∃ assets, (resolve fetches).result = .ok assets) ∧
      ((∃ assets, (resolve fetches).result = .ok assets) →
        (resolve fetches).events.count (.progress 100) = 1)) := by
  have count := count_full_share nonempty
  have pos := List.length_pos_iff.2 nonempty
  have most : (arrivals fetches).length ≤ fetches.length := length_arrivals_le
  refine ⟨count, exists_ok_iff_length_arrivals, fun resolved ↦ ?_,
    fun few ↦ ⟨?_, fun resolved ↦ ?_⟩⟩
  · have all := exists_ok_iff_length_arrivals.1 resolved
    obtain ⟨before, ⟨name, asset⟩, split⟩ : ∃ before last, arrivals fetches = before ++ [last] :=
      (List.eq_nil_or_concat' _).resolve_left (List.length_pos_iff.1 (all ▸ pos))
    have full : percent (0 + before.length + 1) fetches.length = 100 := by
      rw [split, List.length_append, List.length_singleton] at all
      rw [percent_eq_hundred_iff pos (by omega)]
      omega
    rw [events_resolve, List.getLast?_append, split, getLast?_reports, full]
    rfl
  · rw [← List.count_pos_iff, count, exists_ok_iff_length_arrivals]
    omega
  · rw [count, exists_ok_iff_length_arrivals.1 resolved]
    omega

/-- Of a hundred and one sources that all bring an asset, the last but one makes it a hundred. -/
theorem full_share_reported_twice :
    let fetches : List (Asset.Source × Fetching) :=
      List.replicate 101 (⟨"a", "a"⟩, ⟨0, .ok (.text "a")⟩)
    fetches ≠ [] ∧ (resolve fetches).events.count (.progress 100) = 2 ∧
      (resolve fetches).events.getLast? = some (.progress 100) := by
  intro fetches
  have come : (arrivals fetches).length = 101 := by decide +kernel
  have size : fetches.length = 101 := List.length_replicate
  have nonempty : fetches ≠ [] := List.length_pos_iff.1 (by omega)
  obtain ⟨count, success, last, -⟩ := full_share_reports fetches nonempty
  exact ⟨nonempty, by rw [count, come, size], last (success.2 (come.trans size.symm))⟩

/-- The last of a hundred and one sources fails when a hundred percent has been reported. -/
theorem full_share_before_failure :
    let fetches : List (Asset.Source × Fetching) :=
      List.replicate 100 (⟨"a", "a"⟩, ⟨0, .ok (.text "a")⟩) ++
        [(⟨"b", "b"⟩, ⟨0, .error (.status ⟨"b", "b"⟩ 404)⟩)]
    .progress 100 ∈ (resolve fetches).events ∧
      ¬∃ assets, (resolve fetches).result = .ok assets := by
  intro fetches
  have come : (arrivals fetches).length = 100 := by decide +kernel
  have size : fetches.length = 101 := by decide +kernel
  constructor
  · rw [← List.count_pos_iff, count_full_share (List.length_pos_iff.1 (by omega)), come, size]
    decide
  · rw [exists_ok_iff_length_arrivals, come, size]
    decide

end SoloScript
