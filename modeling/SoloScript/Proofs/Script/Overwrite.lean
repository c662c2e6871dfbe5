import SoloScript.Proofs.Script.Commutation

/-!
# Patches over patches

A patch puts its text between the braces of a body and leaves everything else as it is.  So the text
that was there puts the source back, and of two patches at one anchor only the later one counts.  A
patch inside another body is a patch of that body as a whole: if it is balanced, the outer body is
located as before, and only its closing brace has moved.
-/

namespace SoloScript.Script

open SoloScript.Text Outcome

variable {source anchor anchor' patch : String} {before : List Char} {bound bound' : Nat}
  {span : Span} {found found' : Body}

/-! ## Writing back and writing over -/

namespace Body

/-- Between the offsets of a body are the bytes of its text. -/
theorem encode_text (located : find source anchor bound = .ok found) :
    Utf8.encode found.text = (Utf8.encode source).extract found.start found.stop := by
  rw [Utf8.encode_eq_bytes, Utf8.encode_eq_bytes, whole_of_find located, text,
    String.toList_ofList, start, stop, Utf8.extract_bytes_append]

theorem splice_text (located : find source anchor bound = .ok found) :
    found.splice found.text = source := by
  rw [splice, text, String.toList_ofList, ← whole_of_find located, String.ofList_toList]

/-- What is put over a balanced patch takes the place of the body that the patch has replaced. -/
theorem braces_splice (first : FirstBehind anchor.toList source.toList before)
    (plain : '{' ∉ anchor.toList) (located : find source anchor bound = .ok found)
    (balanced : Balanced '{' '}' patch.toList)
    (inBound : found.start + Utf8.size patch.toList < Utf8.size before + bound')
    (patch' : String) :
    Replacer.braces bound' (found.splice patch) anchor patch' = .ok (found.splice patch') := by
  have again := find_splice first plain located balanced inBound
  rw [braces_of_find again]
  rfl

end Body

/-- Where a body is located, it can be replaced. -/
theorem exists_braces_eq_ok (located : Body.locate bound source anchor = .ok span)
    (patch : String) :
    ∃ patched, Replacer.braces bound source anchor patch = .ok patched ∧
      Utf8.encode patched = (Utf8.encode source).take span.start ++ Utf8.encode patch ++
        (Utf8.encode source).drop span.stop := by
  have bytes := map_encode_braces source anchor patch bound
  rw [located] at bytes
  exact map_eq_ok_iff.1 bytes

/-- The body that is there can be written back, which changes nothing.  Of two patches at an anchor
without an opening brace only the later one counts, if the earlier one is balanced and its closing
brace is within the bound; so the same patch once more changes nothing.  And the body that is
replaced leaves no trace: from sources that are alike outside of what is located come the same
texts. -/
theorem last_patch_counts (source anchor : String) (bound : Nat) (span : Span)
    (before : List Char) (first : FirstBehind anchor.toList source.toList before)
    (located : Body.locate bound source anchor = .ok span) :
    (∃ body, Utf8.encode body = (Utf8.encode source).extract span.start span.stop ∧
      Replacer.braces bound source anchor body = .ok source) ∧
    ('{' ∉ anchor.toList → ∀ patch, Balanced '{' '}' patch.toList →
      span.start + Utf8.size patch.toList < Utf8.size before + bound →
      ∃ patched, Replacer.braces bound source anchor patch = .ok patched ∧
        Replacer.braces bound patched anchor patch = .ok patched ∧
        ∀ patch', ∃ text, Replacer.braces bound source anchor patch' = .ok text ∧
          Replacer.braces bound patched anchor patch' = .ok text) ∧
    ∀ source' anchor' bound' span', Body.locate bound' source' anchor' = .ok span' →
      (Utf8.encode source').take span'.start = (Utf8.encode source).take span.start →
      (Utf8.encode source').drop span'.stop = (Utf8.encode source).drop span.stop →
      ∀ patch, Replacer.braces bound' source' anchor' patch =
        Replacer.braces bound source anchor patch := by
  refine ⟨?_, ?_, ?_⟩
  · obtain ⟨found, there, rfl⟩ := locate_eq_ok_iff.1 located
    refine ⟨found.text, Body.encode_text there, ?_⟩
    rw [braces_of_find there, Body.splice_text there]
  · intro plain patch balanced inBound
    obtain ⟨found, there, rfl⟩ := locate_eq_ok_iff.1 located
    have once := braces_of_find there
    have twice := Body.braces_splice first plain there balanced inBound
    exact ⟨found.splice patch, once patch, twice patch, fun patch' ↦ ⟨_, once patch', twice patch'⟩⟩
  · intro source' anchor' bound' span' located' front back patch
    obtain ⟨patched, done, bytes⟩ := exists_braces_eq_ok located patch
    obtain ⟨patched', done', bytes'⟩ := exists_braces_eq_ok located' patch
    rw [front, back, ← bytes] at bytes'
    rw [done, done', Utf8.encode_injective bytes']

/-- The closing brace of the first patch is the last byte within the bound; the second patch is not
balanced. -/
theorem unbalanced_over_nested :
    let source := "x\x7d f()\x7bé\x7d;"
    ∃ patched text, Replacer.braces 10 source "f" "g\x7bé\x7d" = .ok patched ∧
      Replacer.braces 10 patched "f" "g\x7bé\x7d" = .ok patched ∧
      Replacer.braces 10 source "f" "\x7d\x7b" = .ok text ∧
      Replacer.braces 10 patched "f" "\x7d\x7b" = .ok text := by
  intro source
  have first : FirstBehind "f".toList source.toList "x\x7d ".toList :=
    (splitFirst_eq_some_iff.1 (by decide +kernel : _ = some (_, "f()\x7bé\x7d;".toList))).1
  have located : Body.locate 10 source "f" = .ok ⟨7, 9⟩ :=
    locate_eq_ok_iff.2 ⟨⟨"x\x7d f()\x7b".toList, ['é'], "\x7d;".toList⟩, by decide +kernel,
      by decide⟩
  obtain ⟨-, overwrites, -⟩ := last_patch_counts source "f" 10 ⟨7, 9⟩ _ first located
  obtain ⟨patched, once, twice, later⟩ :=
    overwrites (by decide) "g\x7bé\x7d" (by decide) (by decide)
  obtain ⟨text, done, again⟩ := later "\x7d\x7b"
  exact ⟨patched, text, once, twice, done, again⟩

/-! ## Inside another body -/

namespace Body

theorem balanced_of_find (located : find source anchor bound = .ok found) :
    Balanced '{' '}' found.inner := by
  obtain ⟨before, text, -, -, body, heads, rfl⟩ := exists_heads_of_find located
  exact heads.balanced

/-- What is ahead of an inner body within the outer one, and what is left there behind it. -/
theorem exists_nested (located : find source anchor bound = .ok found)
    (located' : find source anchor' bound' = .ok found') (opens : found'.start ≤ found.start)
    (closes : found.stop ≤ found'.stop) :
    ∃ ahead rest, found.before = found'.before ++ ahead ∧
      found'.inner = ahead ++ found.inner ++ rest ∧ found.after = rest ++ found'.after := by
  have whole := whole_of_find located
  have whole' := whole_of_find located'
  have opened : found.before <+: source.toList := by simp [whole]
  have opened' : found'.before <+: source.toList := by simp [whole']
  have closed : found.before ++ found.inner <+: source.toList := by simp [whole]
  have closed' : found'.before ++ found'.inner <+: source.toList := by simp [whole']
  obtain ⟨ahead, front⟩ := Utf8.prefix_of_size_le opened' opened opens
  obtain ⟨rest, back⟩ := Utf8.prefix_of_size_le closed closed' (by simpa [stop] using closes)
  refine ⟨ahead, rest, front.symm, ?_, ?_⟩
  · rw [← front, List.append_assoc, List.append_assoc] at back
    rw [List.append_assoc]
    exact (List.append_cancel_left back).symm
  · rw [whole, ← back, List.append_assoc _ rest] at whole'
    exact List.append_cancel_left whole'

/-- With a balanced patch a body is located again exactly if its closing brace is within the
bound. -/
theorem locate_splice_iff (first : FirstBehind anchor.toList source.toList before)
    (plain : '{' ∉ anchor.toList) (located : find source anchor bound = .ok found)
    (balanced : Balanced '{' '}' patch.toList) :
    locate bound' (found.splice patch) anchor =
        .ok ⟨found.start, found.start + Utf8.size patch.toList⟩ ↔
      found.start + Utf8.size patch.toList < Utf8.size before + bound' := by
  constructor
  · intro again
    have first' := firstBehind_splice first plain located patch
    have inside := ((locate_eq_ok_iff_encloses first').1 again).inside
    dsimp only at inside
    omega
  · intro inBound
    exact locate_eq_ok_iff.2 ⟨_, find_splice first plain located balanced inBound, rfl⟩

end Body

/-- A balanced patch inside the body behind another anchor, one without an opening brace, leaves
that body in its place: the anchor first occurs where it was, and the body is located from the same
brace to the one that has moved along behind the patch, exactly if that one is within the bound. -/
theorem outer_body_kept (source anchor anchor' patch : String) (bound bound' : Nat)
    (inner outer : Span) (before before' : List Char) (plain' : '{' ∉ anchor'.toList)
    (first : FirstBehind anchor.toList source.toList before)
    (first' : FirstBehind anchor'.toList source.toList before')
    (located : Body.locate bound source anchor = .ok inner)
    (located' : Body.locate bound' source anchor' = .ok outer)
    (opens : outer.start ≤ Utf8.size before) (closes : inner.stop < outer.stop)
    (balanced : Balanced '{' '}' patch.toList) :
    let stop := outer.stop + Utf8.size patch.toList - (inner.stop - inner.start)
    ∃ patched, Replacer.braces bound source anchor patch = .ok patched ∧
      FirstBehind anchor'.toList patched.toList before' ∧
      ∀ bound', Body.locate bound' patched anchor' = .ok ⟨outer.start, stop⟩ ↔
        stop < Utf8.size before' + bound' := by
  obtain ⟨found, there, rfl⟩ := locate_eq_ok_iff.1 located
  obtain ⟨found', there', rfl⟩ := locate_eq_ok_iff.1 located'
  intro stop
  have behind : found'.start ≤ found.start := opens.trans (Body.size_le_start first there)
  obtain ⟨ahead, rest, front, nested, back⟩ :=
    Body.exists_nested there there' behind (Nat.le_of_lt closes)
  -- The patch of the inner body is a patch of the outer one.
  let patch' := String.ofList (ahead ++ patch.toList ++ rest)
  have same : found.splice patch = found'.splice patch' := by
    simp [patch', Body.splice, front, back]
  have balanced' : Balanced '{' '}' patch'.toList := by
    have outside := Body.balanced_of_find there'
    rw [nested] at outside
    rw [String.toList_ofList]
    exact outside.replace (Body.balanced_of_find there) balanced
  have moved : stop = found'.start + Utf8.size patch'.toList := by
    simp only [stop, patch', Body.span, Body.stop, Body.start, nested, String.toList_ofList,
      Utf8.size_append]
    omega
  refine ⟨_, braces_of_find there patch, ?_, fun bound' ↦ ?_⟩
  · rw [same]
    exact Body.firstBehind_splice first' plain' there' patch'
  · rw [same, moved]
    exact Body.locate_splice_iff first' plain' there' balanced'

/-- The inner scan passes over a closing brace that the outer one counts. -/
theorem outer_body_kept_past_closing :
    let source := "g\x7b\x7bf\x7d\x7bb\x7d\x7d"
    ∃ patched, Replacer.braces 64 source "f" "\x7bé\x7d" = .ok patched ∧
      Body.locate 64 source "g" = .ok ⟨2, 8⟩ ∧ Body.locate 12 patched "g" = .ok ⟨2, 11⟩ ∧
      Body.locate 11 patched "g" ≠ .ok ⟨2, 11⟩ := by
  intro source
  have first : FirstBehind "f".toList source.toList "g\x7b\x7b".toList :=
    (splitFirst_eq_some_iff.1 (by decide +kernel : _ = some (_, "f\x7d\x7bb\x7d\x7d".toList))).1
  have first' : FirstBehind "g".toList source.toList [] := ⟨by decide, by simp⟩
  have located : Body.locate 64 source "f" = .ok ⟨6, 7⟩ :=
    locate_eq_ok_iff.2 ⟨⟨"g\x7b\x7bf\x7d\x7b".toList, ['b'], "\x7d\x7d".toList⟩, by decide +kernel,
      by decide⟩
  have located' : Body.locate 64 source "g" = .ok ⟨2, 8⟩ :=
    locate_eq_ok_iff.2 ⟨⟨"g\x7b".toList, "\x7bf\x7d\x7bb\x7d".toList, ['}']⟩, by decide +kernel,
      by decide⟩
  obtain ⟨patched, done, -, again⟩ :=
    outer_body_kept source "f" "g" "\x7bé\x7d" 64 64 ⟨6, 7⟩ ⟨2, 8⟩ _ _ (by decide) first first'
      located located' (by decide) (by decide) (by decide)
  refine ⟨patched, done, located', (again 12).2 (by decide), fun shorter ↦ ?_⟩
  exact absurd ((again 11).1 shorter) (by decide)

end SoloScript.Script
