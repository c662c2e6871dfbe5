import Mathlib.Data.List.Basic
import Mathlib.Data.List.Induction
import SoloScript.Asset

/-!
# Lemmas on assets by name

Assets that are made from a list hold each of its names once, with the last asset of that name.
-/

namespace SoloScript.Assets

variable {pairs : List (String × Asset)} {name : String} {asset : Asset}

/-- The names of the assets. -/
def names (assets : Assets) : List String := assets.toList.map (·.1)

theorem ofList_concat (pairs : List (String × Asset)) (name : String) (asset : Asset) :
    ofList (pairs ++ [(name, asset)]) = (ofList pairs).insert name asset := by
  simp [ofList]

theorem names_insert (assets : Assets) (name : String) (asset : Asset) :
    (assets.insert name asset).names = name :: assets.names.filter (· ≠ name) := by
  simp [names, insert, List.filter_map, Function.comp_def]

/-- No name is there twice. -/
theorem nodup_names_ofList (pairs : List (String × Asset)) : (ofList pairs).names.Nodup := by
  induction pairs using List.reverseRecOn with
  | nil => exact List.nodup_nil
  | append_singleton pairs pair ih =>
    obtain ⟨name, asset⟩ := pair
    rw [ofList_concat, names_insert, List.nodup_cons]
    exact ⟨by simp, ih.filter _⟩

theorem get?_ofList_concat_of_ne {last : String × Asset} (other : name ≠ last.1) :
    (ofList (pairs ++ [last])).get? name = (ofList pairs).get? name := by
  obtain ⟨lastName, lastAsset⟩ := last
  rw [ofList_concat, get?_insert_of_ne other]

/-- What is followed only by what has a property, in a list with one more member. -/
theorem exists_concat_eq_append_cons_iff {α : Type} {p : α → Prop} {xs : List α} {last x : α} :
    (∃ before after, xs ++ [last] = before ++ x :: after ∧ ∀ y ∈ after, p y) ↔
      last = x ∨ p last ∧ ∃ before after, xs = before ++ x :: after ∧ ∀ y ∈ after, p y := by
  constructor
  · rintro ⟨before, after, split, free⟩
    rcases List.eq_nil_or_concat' after with rfl | ⟨init, final, rfl⟩
    · obtain ⟨-, same⟩ := List.append_inj' split rfl
      exact .inl (List.cons.inj same).1
    · rw [← List.cons_append, ← List.append_assoc] at split
      obtain ⟨rfl, same⟩ := List.append_inj' split rfl
      obtain rfl := (List.cons.inj same).1
      exact .inr ⟨free last (by simp), before, init, rfl, fun y mem ↦ free y (by simp [mem])⟩
  · rintro (rfl | ⟨fits, before, after, rfl, free⟩)
    · exact ⟨xs, [], rfl, by simp⟩
    · refine ⟨before, after ++ [last], by simp, fun y mem ↦ ?_⟩
      rcases List.mem_append.1 mem with mem | mem
      · exact free y mem
      · rwa [List.mem_singleton.1 mem]

/-- The last asset of a name counts. -/
theorem get?_ofList_eq_some_iff :
    (ofList pairs).get? name = some asset ↔
      ∃ before after, pairs = before ++ (name, asset) :: after ∧ ∀ later ∈ after, later.1 ≠ name := by
  induction pairs using List.reverseRecOn with
  | nil => simp [ofList]
  | append_singleton pairs last ih =>
    rw [exists_concat_eq_append_cons_iff, ← ih]
    obtain ⟨lastName, lastAsset⟩ := last
    by_cases same : name = lastName
    · subst same
      simp [ofList_concat]
    · rw [get?_ofList_concat_of_ne same]
      simp [Ne.symm same]

/-- The names are those of the list. -/
theorem get?_ofList_isSome_iff : ((ofList pairs).get? name).isSome ↔ name ∈ pairs.map (·.1) := by
  induction pairs using List.reverseRecOn with
  | nil => simp [ofList]
  | append_singleton pairs last ih =>
    by_cases same : name = last.1
    · subst same
      rw [ofList_concat, get?_insert]
      simp
    · rw [get?_ofList_concat_of_ne same, ih]
      simp [same]

end SoloScript.Assets
