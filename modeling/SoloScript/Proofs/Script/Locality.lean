import SoloScript.Proofs.Script.Commutation
import SoloScript.Proofs.Text.Decoding

/-!
# What a scan depends on

A scan looks at nothing but the bytes from the anchor up to the closing brace.  A text in which the
same bytes stand behind the first occurrence of the anchor has the same body there, whatever comes
before and after; its offsets move along with the anchor.
-/

namespace SoloScript.Script

open SoloScript.Text Outcome

variable {source source' anchor : String} {before before' : List Char} {bound : Nat} {span : Span}
  {found : Body}

/-! ## The region of a body -/

namespace Body

/-- The text from the anchor up to the closing brace, which is included. -/
theorem exists_region_of_find (first : FirstBehind anchor.toList source.toList before)
    (located : find source anchor bound = .ok found) :
    ∃ opened rest, found.before = before ++ opened ∧
      source.toList = before ++ (opened ++ found.inner ++ ['}']) ++ rest ∧
      Utf8.size before + Utf8.size (opened ++ found.inner ++ ['}']) = found.stop + 1 := by
  obtain ⟨opened, opens⟩ := exists_opened_of_find first located
  obtain ⟨-, rest, -, closes⟩ := exists_braces_of_find located
  have wide : '}'.utf8Size = 1 := by decide
  refine ⟨opened, rest, opens, ?_, ?_⟩
  · simp [whole_of_find located, opens, closes]
  · simp [stop, opens, wide, Nat.add_assoc]

end Body

/-- The same region behind the first occurrence of an anchor holds the same body. -/
theorem locate_of_region {opened rest : List Char}
    (first : FirstBehind anchor.toList source.toList before)
    (there : Body.find source anchor bound = .ok found) (opens : found.before = before ++ opened)
    (first' : FirstBehind anchor.toList source'.toList before')
    (region : source'.toList = before' ++ (opened ++ found.inner ++ ['}']) ++ rest) :
    Body.locate bound source' anchor =
      .ok ⟨found.start - Utf8.size before + Utf8.size before',
        found.stop - Utf8.size before + Utf8.size before'⟩ := by
  have moved : source'.toList = before' ++ (opened ++ found.inner ++ '}' :: rest) := by
    simp [region]
  refine locate_eq_ok_iff.2 ⟨_, Body.find_of_same_region first there opens first' moved, ?_⟩
  simp only [Body.span, Body.start, Body.stop, opens, Utf8.size_append, Span.mk.injEq]
  omega

/-! ## Other texts around it -/

/-- What is located depends on the bytes from the anchor up to the closing brace alone: behind
another text, and before another one, the anchor finds the same body at offsets that have moved
along with it.  If the anchor has no opening brace, then it first occurs where it was whatever
follows the closing brace, even another anchor or braces that are not balanced. -/
theorem scan_is_local (source anchor : String) (bound : Nat) (span : Span) (before : List Char)
    (first : FirstBehind anchor.toList source.toList before)
    (located : Body.locate bound source anchor = .ok span) :
    ('{' ∉ anchor.toList → ∀ source',
      (Utf8.encode source).take (span.stop + 1) <+: Utf8.encode source' →
      Body.locate bound source' anchor = .ok span) ∧
    ∀ source' before', FirstBehind anchor.toList source'.toList before' →
      (Utf8.encode source).extract (Utf8.size before) (span.stop + 1) <+:
        (Utf8.encode source').drop (Utf8.size before') →
      Body.locate bound source' anchor =
        .ok ⟨span.start - Utf8.size before + Utf8.size before',
          span.stop - Utf8.size before + Utf8.size before'⟩ := by
  obtain ⟨found, there, rfl⟩ := locate_eq_ok_iff.1 located
  obtain ⟨opened, rest, opens, split, stop⟩ := Body.exists_region_of_find first there
  simp only [Body.span, ← stop, Utf8.encode_eq_bytes]
  constructor
  · intro plain source' same
    have whole : before ++ (opened ++ found.inner ++ ['}']) <+: source'.toList := by
      rw [split, ← Utf8.size_append, Utf8.take_bytes_append] at same
      exact Utf8.prefix_of_bytes_prefix same
    have first' : FirstBehind anchor.toList source'.toList before := by
      apply first.of_prefix _ (split ▸ List.prefix_append _ rest) whole
      have ends := Body.anchor_prefix_before first plain there
      rw [opens] at ends
      exact ends.trans (by simp)
    obtain ⟨tail, moved⟩ := whole
    have behind : Utf8.size before ≤ found.start := Body.size_le_start first there
    have behind' : Utf8.size before ≤ found.stop := Body.size_le_stop first there
    rw [locate_of_region first there opens first' moved.symm, Nat.sub_add_cancel behind,
      Nat.sub_add_cancel behind']
  · intro source' before' first' same
    obtain ⟨after', split'⟩ := first'.occurs
    rw [List.append_assoc] at split'
    rw [split, Utf8.extract_bytes_append, ← split', Utf8.drop_bytes_append] at same
    obtain ⟨tail, moved⟩ := Utf8.prefix_of_bytes_prefix same
    have region : source'.toList = before' ++ (opened ++ found.inner ++ ['}']) ++ tail := by
      rw [← split', ← moved, ← List.append_assoc before']
    exact locate_of_region first there opens first' region

/-- Behind the body come other braces and the anchor again; before it, braces that would open
another one. -/
theorem scan_amid_braces :
    let source := "é\x7df()\x7b\x7bü\x7d\x7d f"
    Body.locate 64 source "f" = .ok ⟨7, 11⟩ ∧
      Body.locate 64 "é\x7df()\x7b\x7bü\x7d\x7d\x7df()\x7b" "f" = .ok ⟨7, 11⟩ ∧
      Body.locate 64 "\x7b\x7bßf()\x7b\x7bü\x7d\x7d\x7d" "f" = .ok ⟨8, 12⟩ := by
  intro source
  have first : FirstBehind "f".toList source.toList "é\x7d".toList :=
    (splitFirst_eq_some_iff.1
      (by decide +kernel : _ = some (_, "f()\x7b\x7bü\x7d\x7d f".toList))).1
  have first' : FirstBehind "f".toList "\x7b\x7bßf()\x7b\x7bü\x7d\x7d\x7d".toList
      "\x7b\x7bß".toList :=
    (splitFirst_eq_some_iff.1
      (by decide +kernel : _ = some (_, "f()\x7b\x7bü\x7d\x7d\x7d".toList))).1
  have located : Body.locate 64 source "f" = .ok ⟨7, 11⟩ :=
    locate_eq_ok_iff.2 ⟨⟨"é\x7df()\x7b".toList, "\x7bü\x7d".toList, "\x7d f".toList⟩,
      by decide +kernel, by decide⟩
  obtain ⟨behind, amid⟩ := scan_is_local source "f" 64 ⟨7, 11⟩ _ first located
  exact ⟨located, behind (by decide) _ (by decide +kernel), amid _ _ first' (by decide +kernel)⟩

end SoloScript.Script
