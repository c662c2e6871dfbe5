import Mathlib.Data.List.Infix
import Mathlib.Tactic.SplitIfs

/-!
# Balanced brackets

A part of a list is balanced if it closes exactly what it opens, and nowhere closes more than it
has opened.  A list goes on with a balanced part and a closing bracket exactly if it starts with
something that closes more than it opens.
-/

namespace SoloScript.Script

variable {α : Type} [DecidableEq α] {opening closing symbol : α} {depth depth' : Nat}
  {part list : List α}

/-- As many brackets are closed as opened, and never more up to any place. -/
structure Balanced (opening closing : α) (part : List α) : Prop where
  total : part.count opening = part.count closing
  nested : ∀ first, first <+: part → first.count closing ≤ first.count opening

theorem inits_iff_balanced :
    (part.count opening = part.count closing ∧
      ∀ first ∈ part.inits, first.count closing ≤ first.count opening) ↔
      Balanced opening closing part := by
  simp only [List.mem_inits]
  exact ⟨fun h ↦ ⟨h.1, h.2⟩, fun h ↦ ⟨h.total, h.nested⟩⟩

instance : Decidable (Balanced opening closing part) := decidable_of_iff _ inits_iff_balanced

/-- Within a balanced list one balanced part may stand in the place of another. -/
theorem Balanced.replace {before part part' after : List α}
    (whole : Balanced opening closing (before ++ part ++ after))
    (old : Balanced opening closing part) (new : Balanced opening closing part') :
    Balanced opening closing (before ++ part' ++ after) := by
  have oldTotal := old.total
  have newTotal := new.total
  constructor
  · have total := whole.total
    simp only [List.count_append] at total ⊢
    omega
  · intro first starts
    -- The list ends before the part, within it, or behind it.
    rcases List.prefix_or_prefix_of_prefix starts (List.prefix_append _ after) with
      early | ⟨rest, rfl⟩
    · rcases List.prefix_or_prefix_of_prefix early (List.prefix_append before _) with
        earlier | ⟨rest, rfl⟩
      · apply whole.nested
        rw [List.append_assoc]
        exact earlier.trans (List.prefix_append _ _)
      · have inside := new.nested rest ((List.prefix_append_right_inj before).1 early)
        have outside := whole.nested before (by simp)
        simp only [List.count_append]
        omega
    · have behind : rest <+: after := (List.prefix_append_right_inj _).1 starts
      have nested :=
        whole.nested (before ++ part ++ rest) ((List.prefix_append_right_inj _).2 behind)
      simp only [List.count_append] at nested ⊢
      omega

/-- Closes what it opens and `depth` brackets more, and never more than that up to any place. -/
structure Closes (opening closing : α) (depth : Nat) (part : List α) : Prop where
  total : part.count opening + depth = part.count closing
  nested : ∀ first, first <+: part → first.count closing ≤ first.count opening + depth

theorem closes_zero_iff : Closes opening closing 0 part ↔ Balanced opening closing part :=
  ⟨fun h ↦ ⟨h.total, h.nested⟩, fun h ↦ ⟨h.total, h.nested⟩⟩

/-- Nothing closes nothing. -/
theorem closes_nil_iff : Closes opening closing depth [] ↔ depth = 0 := by
  constructor
  · intro h
    simpa using h.total
  · rintro rfl
    exact ⟨rfl, by simp⟩

theorem count_cons_eq_add (bracket symbol : α) (list : List α) :
    (symbol :: list).count bracket = [symbol].count bracket + list.count bracket := by
  rw [← List.singleton_append, List.count_append]

/-- Behind one symbol the depth is what the symbol makes of it. -/
theorem closes_cons_iff
    (step : [symbol].count closing + depth' = [symbol].count opening + depth) :
    Closes opening closing depth (symbol :: part) ↔ Closes opening closing depth' part := by
  constructor
  · intro h
    refine ⟨?_, fun first starts ↦ ?_⟩
    · have total := h.total
      rw [count_cons_eq_add opening, count_cons_eq_add closing] at total
      omega
    · have nested := h.nested (symbol :: first) (List.cons_prefix_cons.2 ⟨rfl, starts⟩)
      rw [count_cons_eq_add opening, count_cons_eq_add closing] at nested
      omega
  · intro h
    refine ⟨?_, fun first starts ↦ ?_⟩
    · have total := h.total
      rw [count_cons_eq_add opening, count_cons_eq_add closing]
      omega
    · rcases List.prefix_cons_iff.1 starts with rfl | ⟨rest, rfl, within⟩
      · simp
      · have nested := h.nested rest within
        rw [count_cons_eq_add opening, count_cons_eq_add closing]
        omega

/-- What closes nothing more cannot start with a closing bracket. -/
theorem not_closes_zero_cons (apart : opening ≠ closing) :
    ¬Closes opening closing 0 (closing :: part) := by
  intro h
  have nested := h.nested [closing] (by simp)
  simp [apart.symm] at nested

/-- The depth behind a symbol. -/
def depthBehind (opening closing symbol : α) (depth : Nat) : Nat :=
  if symbol = opening then depth + 1 else if symbol = closing then depth - 1 else depth

/-- A symbol changes the depth by what it opens and closes, unless it closes more than there is. -/
theorem count_add_depthBehind (apart : opening ≠ closing)
    (inside : ¬(symbol = closing ∧ depth = 0)) :
    [symbol].count closing + depthBehind opening closing symbol depth =
      [symbol].count opening + depth := by
  rw [depthBehind]
  split_ifs with opens closes
  · simp [opens, apart, Nat.add_comm]
  · have deep : depth ≠ 0 := fun none ↦ inside ⟨closes, none⟩
    simp only [closes, List.count_singleton_self, List.count_singleton, beq_false_of_ne apart.symm,
      Bool.false_eq_true, if_false]
    omega
  · simp [opens, closes]

/-- Some part closes `depth` brackets more than it opens and is followed by another closing one
exactly if more than these are closed at some place. -/
theorem exists_closes_iff (apart : opening ≠ closing) :
    (∃ inner rest, list = inner ++ closing :: rest ∧ Closes opening closing depth inner) ↔
      ∃ first, first <+: list ∧ first.count opening + depth < first.count closing := by
  constructor
  · rintro ⟨inner, rest, rfl, closes⟩
    refine ⟨inner ++ [closing], by simp, ?_⟩
    have total := closes.total
    simp only [List.count_append, List.count_singleton_self, List.count_singleton,
      beq_false_of_ne apart.symm, Bool.false_eq_true, if_false]
    omega
  · rintro ⟨first, starts, more⟩
    induction first generalizing list depth with
    | nil => simp at more
    | cons symbol first ih =>
      obtain ⟨list, rfl⟩ : ∃ rest, list = symbol :: rest := by
        obtain ⟨rest, rfl⟩ := starts
        exact ⟨first ++ rest, rfl⟩
      by_cases ends : symbol = closing ∧ depth = 0
      · obtain ⟨rfl, rfl⟩ := ends
        exact ⟨[], list, rfl, closes_nil_iff.2 rfl⟩
      · have step := count_add_depthBehind apart ends
        rw [count_cons_eq_add opening, count_cons_eq_add closing] at more
        have more : first.count opening + depthBehind opening closing symbol depth
            < first.count closing := by omega
        obtain ⟨inner, rest, rfl, closes⟩ := ih (List.cons_prefix_cons.1 starts).2 more
        exact ⟨symbol :: inner, rest, rfl, (closes_cons_iff step).2 closes⟩

end SoloScript.Script
