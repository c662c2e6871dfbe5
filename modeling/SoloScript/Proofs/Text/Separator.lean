import Mathlib.Data.List.Infix
import SoloScript.Proofs.Text.Substring

/-!
# Cutting at a separator

A text is cut at every occurrence of a separator, from left to right.  If the first character of the
separator does not come again in it, no occurrence overlaps another and none goes across the edge
of what has been joined: the pieces of joined parts are the pieces of each part, and there is one
piece more than there are occurrences.
-/

namespace SoloScript.Text

/-- Behind an occurrence there is less than in the whole text. -/
theorem length_sub_lt_of_splitFirst {needle text before rest : List Char} (nonempty : needle ≠ [])
    (found : splitFirst needle text = some (before, rest)) :
    rest.length - needle.length < text.length := by
  obtain ⟨first, rfl⟩ := splitFirst_eq_some_iff.1 found
  have within := first.occurs.length_le
  have := List.length_pos_iff.2 nonempty
  simp only [List.length_append] at within ⊢
  omega

/-- Cuts a text at every occurrence of a separator, leftmost first; an empty one occurs nowhere. -/
def cuts (separator text : List Char) : List (List Char) :=
  match found : splitFirst separator text with
  | none => [text]
  | some (before, rest) =>
    if nonempty : separator ≠ [] then
      have := length_sub_lt_of_splitFirst nonempty found
      before :: cuts separator (rest.drop separator.length)
    else [text]
termination_by text.length

/-- The number of places at which a piece occurs in a text. -/
def occurrences (needle text : List Char) : Nat := text.tails.countP (needle.isPrefixOf ·)

theorem cuts_of_absent {separator text : List Char} (absent : ¬separator <:+: text) :
    cuts separator text = [text] := by
  rw [cuts]
  split
  · rfl
  · rename_i found
    rw [splitFirst_eq_none_iff.2 absent] at found
    cases found

theorem cuts_of_firstBehind {separator text before rest : List Char} (nonempty : separator ≠ [])
    (first : FirstBehind separator text before) (split : text = before ++ (separator ++ rest)) :
    cuts separator text = before :: cuts separator rest := by
  have found := splitFirst_eq_some_iff.2 ⟨first, split.symm⟩
  rw [cuts]
  split
  · rename_i none
    rw [found] at none
    cases none
  · rename_i other
    rw [found] at other
    cases other
    rw [dif_pos nonempty, List.drop_left]

/-- Nothing occurs in a text without it. -/
theorem occurrences_eq_zero {needle text : List Char} (absent : ¬needle <:+: text) :
    occurrences needle text = 0 := by
  rw [occurrences, List.countP_eq_zero]
  intro tail mem here
  rw [List.mem_tails] at mem
  exact absent ((List.isPrefixOf_iff_prefix.1 here).isInfix.trans mem.isInfix)

theorem occurrences_eq_zero_iff {needle text : List Char} :
    occurrences needle text = 0 ↔ ¬needle <:+: text := by
  refine ⟨fun none inside ↦ ?_, occurrences_eq_zero⟩
  obtain ⟨tail, here, behind⟩ := List.infix_iff_prefix_suffix.1 inside
  exact List.countP_eq_zero.1 none tail ((List.mem_tails ..).2 behind)
    (List.isPrefixOf_iff_prefix.2 here)

theorem occurrences_cons {needle : List Char} (c : Char) (text : List Char) :
    occurrences needle (c :: text) =
      occurrences needle text + if needle <+: c :: text then 1 else 0 := by
  simp [occurrences, List.countP_cons]

/-! ## Separators that do not overlap -/

section Separator

variable {c : Char} {cs before text : List Char}

/-- Nothing precedes the first occurrence but what has none. -/
theorem FirstBehind.absent (first : FirstBehind (c :: cs) text before) :
    ¬c :: cs <:+: before := by
  rintro ⟨earlier, between, rfl⟩
  have := first.first earlier
    (((List.prefix_append _ between).trans (List.prefix_append _ _)).trans first.occurs)
  simp only [List.length_append, List.length_cons] at this
  omega

/-- A text has no separator, or it has a first one and a rest behind it. -/
theorem separator_induction (c : Char) (cs : List Char) {P : List Char → Prop}
    (last : ∀ text, ¬c :: cs <:+: text → P text)
    (next : ∀ before rest, ¬c :: cs <:+: before → P rest → P (before ++ (c :: cs ++ rest)))
    (text : List Char) : P text := by
  induction h : text.length using Nat.strong_induction_on generalizing text with
  | _ length ih =>
    by_cases occurs : c :: cs <:+: text
    · obtain ⟨before, first⟩ := exists_firstBehind occurs
      obtain ⟨rest, rfl⟩ := first.occurs
      rw [List.append_assoc] at h ⊢
      refine next before rest first.absent (ih _ ?_ rest rfl)
      simp at h
      omega
    · exact last text occurs

theorem occurrences_append_of_notMem (absent : c ∉ before) (rest : List Char) :
    occurrences (c :: cs) (before ++ rest) = occurrences (c :: cs) rest := by
  induction before with
  | nil => rfl
  | cons d before ih =>
    obtain ⟨other, absent⟩ : ¬c = d ∧ c ∉ before := by simpa using absent
    rw [List.cons_append, occurrences_cons, ih absent, if_neg, Nat.add_zero]
    exact fun here ↦ other (List.cons_prefix_cons.1 here).1

variable (fresh : c ∉ cs)

include fresh

/-- No occurrence reaches from a text into a separator behind it. -/
theorem prefix_append_separator_iff (d : Char) (text rest : List Char) :
    c :: cs <+: d :: (text ++ c :: rest) ↔ c :: cs <+: d :: text := by
  rw [List.cons_prefix_cons, List.cons_prefix_cons, prefix_append_cons_iff fresh]

theorem firstBehind_separator (absent : ¬c :: cs <:+: before) (rest : List Char) :
    FirstBehind (c :: cs) (before ++ (c :: cs ++ rest)) before := by
  induction before with
  | nil => exact ⟨⟨rest, rfl⟩, by simp⟩
  | cons d before ih =>
    rw [List.infix_cons_iff, not_or] at absent
    rw [List.cons_append, firstBehind_cons_iff]
    exact ⟨mt (prefix_append_separator_iff fresh d before _).1 absent.1, ih absent.2⟩

theorem cuts_append (text rest : List Char) :
    cuts (c :: cs) (text ++ (c :: cs ++ rest)) = cuts (c :: cs) text ++ cuts (c :: cs) rest := by
  have nonempty := List.cons_ne_nil c cs
  induction text using separator_induction c cs with
  | last text absent =>
    rw [cuts_of_firstBehind nonempty (firstBehind_separator fresh absent rest) rfl,
      cuts_of_absent absent, List.singleton_append]
  | next before text absent ih =>
    have first := firstBehind_separator fresh absent
    rw [cuts_of_firstBehind nonempty (first text) rfl, List.append_assoc, List.append_assoc,
      cuts_of_firstBehind nonempty (first _) rfl, ih, List.cons_append]

/-- Joined parts are cut into the pieces of each. -/
theorem cuts_intercalate {parts : List (List Char)} (nonempty : parts ≠ []) :
    cuts (c :: cs) ((c :: cs).intercalate parts) = parts.flatMap (cuts (c :: cs)) := by
  induction parts with
  | nil => exact absurd rfl nonempty
  | cons part parts ih =>
    by_cases last : parts = []
    · simp [last]
    · rw [List.intercalate_cons_of_ne_nil last, List.append_assoc, cuts_append fresh, ih last,
        List.flatMap_cons]

/-! ## Counting -/

theorem occurrences_append_cons (text rest : List Char) :
    occurrences (c :: cs) (text ++ c :: rest) =
      occurrences (c :: cs) text + occurrences (c :: cs) (c :: rest) := by
  induction text with
  | nil =>
    have none : occurrences (c :: cs) [] = 0 := rfl
    rw [none, List.nil_append, Nat.zero_add]
  | cons d text ih =>
    rw [List.cons_append, occurrences_cons, occurrences_cons d text, ih]
    simp only [prefix_append_separator_iff fresh]
    omega

theorem occurrences_append_separator (text rest : List Char) :
    occurrences (c :: cs) (text ++ (c :: cs ++ rest)) =
      occurrences (c :: cs) text + 1 + occurrences (c :: cs) rest := by
  have here : c :: cs <+: c :: (cs ++ rest) := List.prefix_append (c :: cs) rest
  rw [List.cons_append, occurrences_append_cons fresh, occurrences_cons,
    occurrences_append_of_notMem fresh, if_pos here]
  omega

/-- There is one piece more than there are separators. -/
theorem length_cuts (text : List Char) :
    (cuts (c :: cs) text).length = occurrences (c :: cs) text + 1 := by
  induction text using separator_induction c cs with
  | last text absent => rw [cuts_of_absent absent, occurrences_eq_zero absent]; rfl
  | next before text absent ih =>
    rw [cuts_append fresh, occurrences_append_separator fresh, List.length_append, ih,
      cuts_of_absent absent, occurrences_eq_zero absent, List.length_singleton]
    omega

end Separator

example : cuts [';', '\n'] "a;;\n\n;\n".toList = ["a;".toList, ['\n'], []] := by decide +kernel

end SoloScript.Text
