import Mathlib.Algebra.Order.BigOperators.Group.List
import Mathlib.Algebra.Order.Ring.Nat
import SoloScript.Proofs.Text.Separator
import SoloScript.Proofs.Text.Utf8
import SoloScript.Script.Fragments

/-!
# Scripts as statements

A script that is cut at its separators falls into the pieces of its statements: no separator arises
where a statement is joined to the next.
-/

namespace SoloScript.Script.Fragments

open SoloScript.Text

theorem toList_separator : separator.toList = [';', '\n'] := by decide

theorem separator_fresh : ';' ∉ ['\n'] := by decide

theorem toList_render (fragments : Fragments) :
    fragments.render.toList = separator.toList.intercalate (fragments.toList.map String.toList) :=
  String.toList_intercalate

theorem cuts_render {fragments : Fragments} (nonempty : fragments.toList ≠ []) :
    cuts separator.toList fragments.render.toList =
      fragments.toList.flatMap (cuts separator.toList ·.toList) := by
  rw [toList_render, toList_separator, cuts_intercalate separator_fresh (by simpa using nonempty),
    List.flatMap_map]

theorem length_cuts_separator (text : List Char) :
    (cuts separator.toList text).length = occurrences separator.toList text + 1 := by
  rw [toList_separator, length_cuts separator_fresh]

/-- A first statement without a separator is what the script is cut off at first. -/
theorem splitFirst_render {first second : String} {others : List String}
    (absent : ¬separator.toList <:+: first.toList) :
    ∃ rest, splitFirst separator.toList (render ⟨first :: second :: others⟩).toList =
      some (first.toList, rest) := by
  rw [toList_separator] at absent
  have joined : (render ⟨first :: second :: others⟩).toList = first.toList ++
      ([';', '\n'] ++ [';', '\n'].intercalate ((second :: others).map String.toList)) := by
    simp [toList_render, toList_separator, List.intercalate_cons_cons]
  rw [toList_separator]
  exact ⟨_, splitFirst_eq_some_iff.2
    ⟨joined ▸ firstBehind_separator separator_fresh absent _, joined.symm⟩⟩

/-- A script ends with the script of its last statements, behind a separator. -/
theorem separator_append_suffix_render (front back : List String) (nonempty : front ≠ [])
    (nonempty' : back ≠ []) :
    separator.toList ++ (render ⟨back⟩).toList <:+ (render ⟨front ++ back⟩).toList := by
  simp only [toList_render]
  induction front with
  | nil => exact absurd rfl nonempty
  | cons statement front ih =>
    have more : (front ++ back).map String.toList ≠ [] := by simp [nonempty']
    rw [List.cons_append, List.map_cons, List.intercalate_cons_of_ne_nil more]
    by_cases last : front = []
    · subst last
      rw [List.append_assoc]
      exact List.suffix_append _ _
    · exact (ih last).trans (List.suffix_append _ _)

/-! ## Reading the statements back -/

/-- The statements of a script to which texts are pushed, one after another. -/
def pushed (pushes : List String) : Fragments := pushes.foldl push empty

theorem toList_foldl_push (fragments : Fragments) (pushes : List String) :
    (pushes.foldl push fragments).toList = fragments.toList ++ pushes := by
  induction pushes generalizing fragments with
  | nil => exact (List.append_nil _).symm
  | cons first pushes ih =>
    rw [List.foldl_cons, ih, toList_push, List.append_assoc, List.singleton_append]

@[simp] theorem toList_pushed (pushes : List String) : (pushed pushes).toList = pushes :=
  toList_foldl_push empty pushes

theorem length_flatMap_cuts (texts : List String) :
    (texts.flatMap (cuts separator.toList ·.toList)).length =
      texts.length + (texts.map (occurrences separator.toList ·.toList)).sum := by
  induction texts with
  | nil => rfl
  | cons text texts ih =>
    rw [List.flatMap_cons, List.length_append, ih, length_cuts_separator, List.map_cons,
      List.sum_cons, List.length_cons]
    omega

theorem flatMap_cuts_of_absent {texts : List String}
    (absent : ∀ text ∈ texts, ¬separator.toList <:+: text.toList) :
    texts.flatMap (cuts separator.toList ·.toList) = texts.map String.toList := by
  induction texts with
  | nil => rfl
  | cons text texts ih =>
    obtain ⟨first, others⟩ := List.forall_mem_cons.1 absent
    rw [List.flatMap_cons, cuts_of_absent first, ih others, List.map_cons, List.singleton_append]

/-- Between any two statements there are two bytes more. -/
theorem length_encode_render (first : String) (others : List String) :
    (Utf8.encode (render ⟨first :: others⟩)).length =
      ((first :: others).map fun text ↦ (Utf8.encode text).length).sum + 2 * others.length := by
  simp only [Utf8.encode_eq_bytes, Utf8.length_bytes, toList_render]
  induction others generalizing first with
  | nil => simp
  | cons second others ih =>
    have two : Utf8.size separator.toList = 2 := by decide
    have more : (second :: others).map String.toList ≠ [] := List.cons_ne_nil _ _
    rw [List.map_cons, List.intercalate_cons_of_ne_nil more, Utf8.size_append, Utf8.size_append,
      two, ih]
    simp only [List.map_cons, List.sum_cons, List.length_cons]
    omega

/-- The pieces of a script are those of its statements, so cutting it at its separators gives the
statements back exactly if none of them has a separator in it; each occurrence in a statement makes
one piece more, and none arises or is lost where two statements meet. -/
theorem statements_recovered_iff (pushes : List String) (nonempty : pushes ≠ []) :
    (pushed pushes).toList = pushes ∧
    cuts separator.toList (pushed pushes).render.toList =
      pushes.flatMap (cuts separator.toList ·.toList) ∧
    (cuts separator.toList (pushed pushes).render.toList = pushes.map String.toList ↔
      ∀ statement ∈ pushes, ¬separator.toList <:+: statement.toList) ∧
    (cuts separator.toList (pushed pushes).render.toList).length =
      pushes.length + (pushes.map (occurrences separator.toList ·.toList)).sum ∧
    (Utf8.encode (pushed pushes).render).length =
      (pushes.map fun statement ↦ (Utf8.encode statement).length).sum +
        2 * (pushes.length - 1) := by
  have same := toList_pushed pushes
  have pieces : cuts separator.toList (pushed pushes).render.toList =
      pushes.flatMap (cuts separator.toList ·.toList) := by
    rw [cuts_render (same.symm ▸ nonempty), same]
  refine ⟨same, pieces, ⟨fun recovered ↦ ?_, fun absent ↦ ?_⟩, ?_, ?_⟩
  · have count := length_flatMap_cuts pushes
    rw [← pieces, recovered, List.length_map, Nat.left_eq_add, List.sum_eq_zero_iff] at count
    intro statement mem
    exact occurrences_eq_zero_iff.1 (count _ (List.mem_map_of_mem mem))
  · rw [pieces, flatMap_cuts_of_absent absent]
  · rw [pieces, length_flatMap_cuts]
  · obtain ⟨first, others, rfl⟩ := List.exists_cons_of_ne_nil nonempty
    have whole : pushed (first :: others) = ⟨first :: others⟩ := congrArg Fragments.mk same
    rw [whole, length_encode_render]
    rfl

/-- A statement that ends with a semicolon, one that starts with a line feed, an empty one and one
that is a separator. -/
theorem separator_within_statement :
    let pushes := ["a;", "\n", "", ";\n"]
    pushes ≠ [] ∧ (cuts separator.toList (pushed pushes).render.toList).length = 5 ∧
      cuts separator.toList (pushed pushes).render.toList ≠ pushes.map String.toList ∧
      (Utf8.encode (pushed pushes).render).length = 11 := by
  intro pushes
  have nonempty : pushes ≠ [] := List.cons_ne_nil _ _
  obtain ⟨-, -, recovered, pieces, bytes⟩ := statements_recovered_iff pushes nonempty
  refine ⟨nonempty, pieces.trans (by decide), fun same ↦ ?_, bytes.trans (by decide)⟩
  exact recovered.1 same ";\n" (by decide) (List.infix_refl _)

end SoloScript.Script.Fragments
