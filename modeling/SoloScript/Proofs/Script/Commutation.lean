import Mathlib.Data.Set.BooleanAlgebra
import Mathlib.Order.CompletePartialOrder
import Mathlib.Order.Interval.Set.Defs
import SoloScript.Proofs.Script.Replacement

/-!
# Patches at different places

What is found behind an anchor depends on nothing but the text from the anchor up to the closing
brace.  An anchor without braces does not occur across a brace, so putting something else between
the braces of a body makes no new occurrence of it, unless it occurs in the replacement.  Hence two
patches whose regions are apart can be made in either order.
-/

namespace SoloScript.Script

open SoloScript.Text Outcome

namespace Body

variable {source source' anchor : String} {before before' opened rest : List Char} {bound : Nat}
  {found : Body}

/-! ## The surroundings of a body -/

/-- A body that is found opens behind the first occurrence of the anchor. -/
theorem exists_heads_of_find (located : find source anchor bound = .ok found) :
    ∃ before text, FirstBehind anchor.toList source.toList before ∧
      source.toList = before ++ text ∧
      ∃ body : Body, body.Heads bound text ∧ body.behind before = found := by
  have occurs : anchor.toList <:+: source.toList := by
    by_contra absent
    rw [find_eq_noAnchor_iff.2 absent] at located
    cases located
  obtain ⟨before, first⟩ := exists_firstBehind occurs
  obtain ⟨after, split⟩ := first.occurs
  rw [List.append_assoc] at split
  exact ⟨before, _, first, split.symm, (find_eq_ok_iff_heads first split.symm).1 located⟩

theorem exists_braces_of_find (located : find source anchor bound = .ok found) :
    ∃ outside rest, found.before = outside ++ ['{'] ∧ found.after = '}' :: rest := by
  obtain ⟨before, text, -, -, body, heads, rfl⟩ := exists_heads_of_find located
  obtain ⟨skipped, opens, -⟩ := heads.opens
  obtain ⟨rest, closes⟩ := heads.closes
  exact ⟨before ++ skipped, rest, by simp [behind, opens], closes⟩

theorem exists_opened_of_find (first : FirstBehind anchor.toList source.toList before)
    (located : find source anchor bound = .ok found) :
    ∃ opened, found.before = before ++ opened := by
  obtain ⟨other, text, first', -, body, -, rfl⟩ := exists_heads_of_find located
  obtain rfl := first.unique first'
  exact ⟨body.before, rfl⟩

/-- A body opens behind the start of its anchor. -/
theorem size_le_start (first : FirstBehind anchor.toList source.toList before)
    (located : find source anchor bound = .ok found) : Utf8.size before ≤ found.start := by
  obtain ⟨opened, opens⟩ := exists_opened_of_find first located
  rw [start, opens, Utf8.size_append]
  exact Nat.le_add_right _ _

theorem size_le_stop (first : FirstBehind anchor.toList source.toList before)
    (located : find source anchor bound = .ok found) : Utf8.size before ≤ found.span.stop :=
  (size_le_start first located).trans (Nat.le_add_right _ _)

/-- The same text from the anchor up to the closing brace holds the same body. -/
theorem find_of_same_region (first : FirstBehind anchor.toList source.toList before)
    (located : find source anchor bound = .ok found) (split : found.before = before ++ opened)
    (first' : FirstBehind anchor.toList source'.toList before')
    (split' : source'.toList = before' ++ (opened ++ found.inner ++ '}' :: rest)) :
    find source' anchor bound = .ok ⟨before' ++ opened, found.inner, '}' :: rest⟩ := by
  obtain ⟨other, text, same, -, body, heads, rfl⟩ := exists_heads_of_find located
  obtain rfl := first.unique same
  obtain rfl : body.before = opened := List.append_cancel_left split
  have heads' : Heads ⟨body.before, body.inner, '}' :: rest⟩ bound
      (body.before ++ body.inner ++ '}' :: rest) :=
    ⟨heads.opens, ⟨rest, rfl⟩, rfl, heads.balanced, heads.inBound⟩
  exact (find_eq_ok_iff_heads first' split').2 ⟨_, heads', rfl⟩

/-! ## Anchors behind a body -/

/-- What reaches past the closing brace of a body goes on behind that brace. -/
theorem exists_eq_append_cons {behind : List Char}
    (located : find source anchor bound = .ok found) (starts : behind <+: source.toList)
    (past : found.stop < Utf8.size behind) :
    ∃ between, behind = found.before ++ found.inner ++ '}' :: between := by
  obtain ⟨-, rest, -, closes⟩ := exists_braces_of_find located
  have whole := whole_of_find located
  have region : found.before ++ found.inner ++ ['}'] <+: source.toList := by
    rw [whole, closes]
    exact ⟨rest, by simp⟩
  have wide : '}'.utf8Size = 1 := by decide
  have size : Utf8.size (found.before ++ found.inner ++ ['}']) = found.stop + 1 := by
    simp [stop, wide, Nat.add_assoc]
  obtain ⟨between, rfl⟩ := Utf8.prefix_of_size_le region starts (by omega)
  exact ⟨between, by simp⟩

/-- An anchor without braces that comes behind a body moves along when the body is replaced, unless
it occurs in the replacement. -/
theorem firstBehind_splice_of_behind {needle between : List Char} {replacement : String}
    (located : find source anchor bound = .ok found) (plain : '{' ∉ needle) (plain' : '}' ∉ needle)
    (first : FirstBehind needle source.toList (found.before ++ found.inner ++ '}' :: between))
    (free : ¬needle <:+: replacement.toList) :
    FirstBehind needle (found.splice replacement).toList
      (found.before ++ replacement.toList ++ '}' :: between) := by
  obtain ⟨outside, rest, opens, closes⟩ := exists_braces_of_find located
  have apart (inner behind : List Char) :
      found.before ++ inner ++ '}' :: behind = outside ++ '{' :: (inner ++ '}' :: behind) := by
    simp [opens]
  rw [whole_of_find located, closes, apart, apart, firstBehind_append_cons_iff plain,
    firstBehind_append_cons_iff plain'] at first
  obtain ⟨before, -, behind⟩ := first
  rw [splice, String.toList_ofList, closes, apart, apart, firstBehind_append_cons_iff plain,
    firstBehind_append_cons_iff plain']
  exact ⟨before, free, behind⟩

end Body

/-! ## Two patches -/

variable {source anchor anchor' patch patch' : String} {before before' : List Char}
  {bound bound' : Nat} {found found' : Body}

/-- Two patches can be made in either order if one region ends before the other begins. -/
theorem patches_commute_of_lt (first : FirstBehind anchor.toList source.toList before)
    (located : Body.find source anchor bound = .ok found) (plain : '{' ∉ anchor.toList)
    (first' : FirstBehind anchor'.toList source.toList before')
    (located' : Body.find source anchor' bound' = .ok found')
    (plain' : '{' ∉ anchor'.toList ∧ '}' ∉ anchor'.toList)
    (apart : found.stop < Utf8.size before') (free : ¬anchor'.toList <:+: patch.toList) :
    ∃ patched patched' text,
      Replacer.braces bound source anchor patch = .ok patched ∧
      Replacer.braces bound' patched anchor' patch' = .ok text ∧
      Replacer.braces bound' source anchor' patch' = .ok patched' ∧
      Replacer.braces bound patched' anchor patch = .ok text := by
  obtain ⟨opened, opens⟩ := Body.exists_opened_of_find first located
  obtain ⟨opened', opens'⟩ := Body.exists_opened_of_find first' located'
  obtain ⟨-, rest', -, closes'⟩ := Body.exists_braces_of_find located'
  have starts : before' <+: source.toList := (List.prefix_append _ _).trans first'.occurs
  obtain ⟨between, rfl⟩ := Body.exists_eq_append_cons located starts apart
  -- What follows the first region is the text up to the second anchor, and the second region.
  have after : found.after = '}' :: (between ++ (opened' ++ found'.inner ++ '}' :: rest')) := by
    have whole := Body.whole_of_find located
    rw [Body.whole_of_find located', opens', closes'] at whole
    simpa using whole.symm
  have firstPatched : (found.splice patch).toList =
      found.before ++ patch.toList ++ '}' :: between ++
        (opened' ++ found'.inner ++ '}' :: rest') := by
    simp [Body.splice, after]
  have secondPatched : (found'.splice patch').toList =
      before ++ (opened ++ found.inner ++
        '}' :: (between ++ (opened' ++ patch'.toList ++ '}' :: rest'))) := by
    simp [Body.splice, opens, opens', closes']
  have again' := Body.find_of_same_region first' located' opens'
    (Body.firstBehind_splice_of_behind located plain'.1 plain'.2 first' free) firstPatched
  have firstStays : FirstBehind anchor.toList (found'.splice patch').toList before := by
    refine first.of_prefix (Body.anchor_prefix_before first plain located) ?_ ?_
    · rw [Body.whole_of_find located, List.append_assoc]
      exact List.prefix_append _ _
    · rw [secondPatched, opens, List.append_assoc, ← List.append_assoc before]
      exact List.prefix_append _ _
  have again := Body.find_of_same_region first located opens firstStays secondPatched
  refine ⟨_, _, _, braces_of_find located patch, braces_of_find again' patch',
    braces_of_find located' patch', braces_eq_ok_iff.2 ⟨_, again, ?_⟩⟩
  simp [Body.splice, opens]

/-- Regions that are apart come one after the other. -/
theorem lt_or_lt_of_disjoint {start stop start' stop' : Nat} (ordered : start ≤ stop)
    (ordered' : start' ≤ stop') (apart : Disjoint (Set.Icc start stop) (Set.Icc start' stop')) :
    stop < start' ∨ stop' < start := by
  by_contra meet
  rw [not_or, Nat.not_lt, Nat.not_lt] at meet
  have shared : max start start' ∈ Set.Icc start stop :=
    ⟨Nat.le_max_left _ _, Nat.max_le.2 ⟨ordered, meet.1⟩⟩
  have shared' : max start start' ∈ Set.Icc start' stop' :=
    ⟨Nat.le_max_right _ _, Nat.max_le.2 ⟨meet.2, ordered'⟩⟩
  exact Set.disjoint_left.1 apart shared shared'

/-- Two patches can be made in either order, and the text is the same, if their anchors have no
braces, the regions from the anchors to the closing braces are apart, and neither replacement brings
the other anchor.  The replacements need not be balanced. -/
theorem patches_commute (source anchor anchor' patch patch' : String) (bound bound' : Nat)
    (span span' : Span) (before before' : List Char)
    (plain : '{' ∉ anchor.toList ∧ '}' ∉ anchor.toList)
    (plain' : '{' ∉ anchor'.toList ∧ '}' ∉ anchor'.toList)
    (first : FirstBehind anchor.toList source.toList before)
    (first' : FirstBehind anchor'.toList source.toList before')
    (located : Body.locate bound source anchor = .ok span)
    (located' : Body.locate bound' source anchor' = .ok span')
    (apart : Disjoint (Set.Icc (Utf8.size before) span.stop)
      (Set.Icc (Utf8.size before') span'.stop))
    (free : ¬anchor'.toList <:+: patch.toList) (free' : ¬anchor.toList <:+: patch'.toList) :
    ∃ patched patched' text,
      Replacer.braces bound source anchor patch = .ok patched ∧
      Replacer.braces bound' patched anchor' patch' = .ok text ∧
      Replacer.braces bound' source anchor' patch' = .ok patched' ∧
      Replacer.braces bound patched' anchor patch = .ok text := by
  obtain ⟨found, there, rfl⟩ := locate_eq_ok_iff.1 located
  obtain ⟨found', there', rfl⟩ := locate_eq_ok_iff.1 located'
  rcases lt_or_lt_of_disjoint (Body.size_le_stop first there) (Body.size_le_stop first' there')
    apart with earlier | later
  · exact patches_commute_of_lt first there plain.1 first' there' plain' earlier free
  · obtain ⟨patched', patched, text, one', two, one, two'⟩ :=
      patches_commute_of_lt first' there' plain'.1 first there plain later free'
    exact ⟨patched, patched', text, one, two', one', two⟩

/-- Neither replacement is balanced. -/
theorem unbalanced_patches_commute :
    let source := "f()\x7ba\x7d g()\x7bb\x7d"
    ∃ patched patched' text,
      Replacer.braces 6 source "f" "\x7d" = .ok patched ∧
      Replacer.braces 6 patched "g" "\x7b" = .ok text ∧
      Replacer.braces 6 source "g" "\x7b" = .ok patched' ∧
      Replacer.braces 6 patched' "f" "\x7d" = .ok text := by
  intro source
  have first : FirstBehind "f".toList source.toList [] := ⟨by decide, by simp⟩
  have first' : FirstBehind "g".toList source.toList "f()\x7ba\x7d ".toList :=
    (splitFirst_eq_some_iff.1 (by decide +kernel : _ = some (_, "g()\x7bb\x7d".toList))).1
  have located : Body.locate 6 source "f" = .ok ⟨4, 5⟩ :=
    locate_eq_ok_iff.2 ⟨⟨"f()\x7b".toList, ['a'], "\x7d g()\x7bb\x7d".toList⟩, by decide +kernel,
      by decide⟩
  have located' : Body.locate 6 source "g" = .ok ⟨11, 12⟩ :=
    locate_eq_ok_iff.2 ⟨⟨"f()\x7ba\x7d g()\x7b".toList, ['b'], ['\x7d']⟩, by decide +kernel,
      by decide⟩
  have apart : Disjoint (Set.Icc (Utf8.size []) 5)
      (Set.Icc (Utf8.size "f()\x7ba\x7d ".toList) 12) := by
    rw [Set.disjoint_left]
    intro i inside inside'
    exact absurd (inside'.1.trans inside.2) (by decide)
  exact patches_commute source "f" "g" "\x7d" "\x7b" 6 6 ⟨4, 5⟩ ⟨11, 12⟩ _ _ (by decide) (by decide)
    first first' located located' apart (by decide) (by decide)

end SoloScript.Script
