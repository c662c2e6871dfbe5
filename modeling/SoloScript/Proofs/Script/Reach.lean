import SoloScript.Proofs.Script.Commutation

/-!
# How far a scan reaches

A scan starts with the anchor itself, not behind it.  An anchor that has an opening brace opens the
body with that brace, so a replacement overwrites what the anchor has behind it; all other anchors
end before the body.  A scan ends with the bound, which only decides whether a body is found: it is
the one that is found without a bound, as soon as the closing brace is within reach.
-/

namespace SoloScript.Script

open SoloScript.Text Outcome

variable {source anchor : String} {before : List Char} {bound : Nat} {span : Span} {found : Body}

/-! ## Where a scan begins -/

namespace Body

/-- The first occurrence of an anchor outlasts all replacements exactly if it does not reach into
the body. -/
theorem forall_firstBehind_splice_iff (first : FirstBehind anchor.toList source.toList before)
    (located : find source anchor bound = .ok found) :
    (∀ replacement, FirstBehind anchor.toList (found.splice replacement).toList before) ↔
      before ++ anchor.toList <+: found.before := by
  constructor
  · intro stays
    have always (filling : List Char) :
        before ++ anchor.toList <+: found.before ++ filling ++ found.after := by
      have occurs := (stays (String.ofList filling)).occurs
      rwa [splice, String.toList_ofList, String.toList_ofList] at occurs
    exact forall_prefix_append_iff.1 always
  · intro within replacement
    exact firstBehind_splice_of_within first located within replacement

end Body

theorem forall_braces_iff {stays : String → Prop}
    (located : Body.find source anchor bound = .ok found) :
    (∀ replacement, ∃ patched,
        Replacer.braces bound source anchor replacement = .ok patched ∧ stays patched) ↔
      ∀ replacement, stays (found.splice replacement) := by
  apply forall_congr'
  intro replacement
  have done := braces_of_find located replacement
  constructor
  · rintro ⟨patched, done', kept⟩
    rw [done] at done'
    cases done'
    exact kept
  · intro kept
    exact ⟨_, done, kept⟩

/-- The opening brace is behind the anchor exactly if the anchor has none itself, and then it is the
first one there; otherwise it is the first one of the anchor.  Every replacement leaves the anchor
where it first occurs exactly if the anchor has no opening brace but for its last character. -/
theorem opens_behind_anchor_iff (source anchor : String) (bound : Nat) (span : Span)
    (before : List Char) (first : FirstBehind anchor.toList source.toList before)
    (located : Body.locate bound source anchor = .ok span) :
    (Utf8.size before + Utf8.size anchor.toList ≤ span.start - 1 ↔ '{' ∉ anchor.toList) ∧
    ('{' ∉ anchor.toList →
      OpensAt (Utf8.encode source) (Utf8.size before + Utf8.size anchor.toList)
        (Utf8.encode source).length (span.start - 1)) ∧
    (∀ ahead rest, anchor.toList = ahead ++ '{' :: rest → '{' ∉ ahead →
      span.start - 1 = Utf8.size before + Utf8.size ahead) ∧
    ((∀ replacement, ∃ patched,
        Replacer.braces bound source anchor replacement = .ok patched ∧
          FirstBehind anchor.toList patched.toList before) ↔
      '{' ∉ anchor.toList.dropLast) := by
  obtain ⟨found, there, rfl⟩ := locate_eq_ok_iff.1 located
  obtain ⟨skipped, rest, opens, free, text, starts⟩ := Body.exists_skipped_of_find first there
  have place : found.span.start - 1 = Utf8.size before + Utf8.size skipped := by
    simp only [Body.span, Body.start, opens, Utf8.size_append, Utf8.size_cons, Utf8.size_nil,
      Body.utf8Size_opening]
    omega
  rw [place]
  refine ⟨?_, ?_, ?_, ?_⟩
  · rw [notMem_iff_starts free starts, Nat.add_le_add_iff_left,
      Utf8.prefix_iff_size_le starts (List.prefix_append _ _)]
  · intro plain
    obtain ⟨between, rfl⟩ := (notMem_iff_starts free starts).1 plain
    have split : source.toList = (before ++ anchor.toList) ++ (between ++ '{' :: rest) := by
      simp [text]
    rw [Utf8.encode_eq_bytes, split, ← Utf8.size_append, opensAt_bytes_iff]
    refine ⟨?_, between, rest, rfl, fun mem ↦ free (List.mem_append_right _ mem), ?_⟩
    · simp only [Utf8.length_bytes, Utf8.size_append, Utf8.size_cons, Body.utf8Size_opening]
      omega
    · simp [Nat.add_assoc]
  · intro ahead tail split free'
    obtain ⟨after, whole⟩ := starts
    rw [split, List.append_assoc, List.cons_append] at whole
    rw [eq_of_append_cons_eq free free' whole]
  · rw [forall_braces_iff there, Body.forall_firstBehind_splice_iff first there, opens,
      List.prefix_append_right_inj, notMem_dropLast_iff_starts free starts]

/-- A brace that closes nothing stands between the anchor and the body. -/
theorem plain_anchor_outlasts :
    let source := "é f()\x7d\x7ba\x7d"
    Utf8.size "é ".toList + Utf8.size "f()".toList ≤ 8 - 1 ∧
      OpensAt (Utf8.encode source) 6 (Utf8.encode source).length 7 ∧
      ∀ replacement, ∃ patched, Replacer.braces 64 source "f()" replacement = .ok patched ∧
        FirstBehind "f()".toList patched.toList "é ".toList := by
  intro source
  have first : FirstBehind "f()".toList source.toList "é ".toList :=
    (splitFirst_eq_some_iff.1 (by decide +kernel : _ = some (_, "f()\x7d\x7ba\x7d".toList))).1
  have located : Body.locate 64 source "f()" = .ok ⟨8, 9⟩ :=
    locate_eq_ok_iff.2 ⟨⟨"é f()\x7d\x7b".toList, ['a'], ['}']⟩, by decide +kernel, by decide⟩
  obtain ⟨behind, opens, -, outlasts⟩ :=
    opens_behind_anchor_iff source "f()" 64 ⟨8, 9⟩ _ first located
  exact ⟨behind.2 (by decide), opens (by decide), outlasts.2 (by decide)⟩

/-- The braces of an anchor are taken for a body, and a replacement destroys the anchor. -/
theorem body_inside_anchor :
    let source := "f(o=\x7b\x7d)\x7b a \x7d"
    let anchor := "f(o=\x7b\x7d)"
    FirstBehind anchor.toList source.toList [] ∧ Body.locate 64 source anchor = .ok ⟨5, 5⟩ ∧
      ¬Utf8.size anchor.toList ≤ 5 - 1 ∧
      ∃ patched, Replacer.braces 64 source anchor "b" = .ok patched ∧
        ¬anchor.toList <:+: patched.toList := by
  intro source anchor
  have there : Body.find source anchor 64 =
      .ok ⟨"f(o=\x7b".toList, [], "\x7d)\x7b a \x7d".toList⟩ := by decide +kernel
  refine ⟨⟨by decide, by simp⟩, locate_eq_ok_iff.2 ⟨_, there, by decide⟩, by decide, _,
    braces_of_find there "b", by decide⟩

/-! ## Where a scan ends -/

/-- The offsets of the body behind an anchor, looked for up to the end of the source: from the
anchor on there are never more bytes than the source has. -/
def Body.locateUnbounded (source anchor : String) : Except Failure Span :=
  locate (Utf8.encode source).length source anchor

/-- Where a scan ends that starts at `first`, in 64-bit arithmetic: a sum that is too great stays at
the greatest number. -/
def wordLimit (length first bound : Nat) : Nat :=
  min length (min (first + bound) (UInt64.size - 1))

theorem wordLimit_eq {length first : Nat} (fits : length < UInt64.size) :
    wordLimit length first bound = min length (first + bound) := by
  rw [wordLimit]
  omega

section Limit

variable {bytes : List UInt8} {first limit limit' position : Nat} (le : limit ≤ limit')

include le

theorem opensAt_iff_of_le :
    OpensAt bytes first limit position ↔
      OpensAt bytes first limit' position ∧ position < limit := by
  constructor
  · rintro ⟨⟨behind, inside, found⟩, least⟩
    refine ⟨⟨⟨behind, Nat.lt_of_lt_of_le inside le, found⟩, ?_⟩, inside⟩
    rintro i ⟨behind', -, found'⟩
    rcases Nat.lt_or_ge i limit with early | late
    · exact least ⟨behind', early, found'⟩
    · exact Nat.le_trans (Nat.le_of_lt inside) late
  · rintro ⟨⟨⟨behind, -, found⟩, least⟩, inside⟩
    refine ⟨⟨behind, inside, found⟩, ?_⟩
    rintro i ⟨behind', early, found'⟩
    exact least ⟨behind', Nat.lt_of_lt_of_le early le, found'⟩

/-- A lower limit leaves what is enclosed up to a closing brace before it. -/
theorem encloses_iff_of_le :
    span.Encloses bytes first limit ↔ span.Encloses bytes first limit' ∧ span.stop < limit := by
  constructor
  · intro h
    refine ⟨⟨h.positive, ((opensAt_iff_of_le le).1 h.opens).1, h.ordered, ?_, h.closes, h.balanced⟩,
      h.inside⟩
    exact Nat.lt_of_lt_of_le h.inside le
  · rintro ⟨h, inside⟩
    refine ⟨h.positive, (opensAt_iff_of_le le).2 ⟨h.opens, ?_⟩, h.ordered, inside, h.closes,
      h.balanced⟩
    have := h.positive
    have := h.ordered
    omega

end Limit

theorem locateUnbounded_eq_ok_iff (first : FirstBehind anchor.toList source.toList before) :
    Body.locateUnbounded source anchor = .ok span ↔
      span.Encloses (Utf8.encode source) (Utf8.size before) (Utf8.encode source).length := by
  rw [Body.locateUnbounded, locate_eq_ok_iff_encloses first, Nat.min_eq_left (Nat.le_add_left _ _)]

/-- A bounded scan finds what a scan without a bound finds, as long as the closing brace is within
the bound. -/
theorem locate_eq_ok_iff_unbounded (first : FirstBehind anchor.toList source.toList before) :
    Body.locate bound source anchor = .ok span ↔
      Body.locateUnbounded source anchor = .ok span ∧
        span.stop < min (Utf8.encode source).length (Utf8.size before + bound) := by
  rw [locate_eq_ok_iff_encloses first, locateUnbounded_eq_ok_iff first,
    encloses_iff_of_le (Nat.min_le_left _ _)]

/-- A scan that locates nothing has looked at all bytes within the bound. -/
theorem locate_of_unlocated (first : FirstBehind anchor.toList source.toList before)
    (none : ∀ span, Body.locate bound source anchor ≠ .ok span) :
    Body.locate bound source anchor = .error (.body anchor
      (.unbalanced (min bound ((Utf8.encode source).length - Utf8.size before)))) := by
  have scanned : min (Utf8.encode source).length (Utf8.size before + bound) - Utf8.size before =
      min bound ((Utf8.encode source).length - Utf8.size before) := by
    omega
  rw [← scanned, locate_eq_error_iff first]
  intro span encloses
  exact none span ((locate_eq_ok_iff_encloses first).2 encloses)

/-- If a scan without a bound finds a body, a bounded one finds the same exactly if the bound
includes the closing brace, and otherwise has looked at all that the bound allows.  If a scan
without a bound fails, so does every bounded one.  So a greater bound never loses or moves a body.
Bounds so great that the limit is no 64-bit number make no difference: the scan is the one up to the
limit that 64-bit arithmetic gives. -/
theorem bound_decides_success (source anchor : String) (before : List Char)
    (first : FirstBehind anchor.toList source.toList before) :
    (∀ span, Body.locateUnbounded source anchor = .ok span → ∀ bound,
      (Body.locate bound source anchor = .ok span ↔
        span.stop + 1 - Utf8.size before ≤ bound) ∧
      (bound < span.stop + 1 - Utf8.size before →
        Body.locate bound source anchor = .error (.body anchor (.unbalanced bound)))) ∧
    (∀ failure, Body.locateUnbounded source anchor = .error failure → ∀ bound,
      Body.locate bound source anchor = .error (.body anchor
        (.unbalanced (min bound ((Utf8.encode source).length - Utf8.size before))))) ∧
    (∀ bound bound' span, bound ≤ bound' → Body.locate bound source anchor = .ok span →
      Body.locate bound' source anchor = .ok span) ∧
    ((Utf8.encode source).length < UInt64.size → ∀ bound,
      let limit := wordLimit (Utf8.encode source).length (Utf8.size before) bound
      (∀ span, Body.locate bound source anchor = .ok span ↔
        span.Encloses (Utf8.encode source) (Utf8.size before) limit) ∧
      ∀ scanned, Body.locate bound source anchor = .error (.body anchor (.unbalanced scanned)) →
        scanned = limit - Utf8.size before) := by
  refine ⟨?_, ?_, ?_, ?_⟩
  · intro span unbounded bound
    have inside := ((locateUnbounded_eq_ok_iff first).1 unbounded).inside
    have found : Body.locate bound source anchor = .ok span ↔
        span.stop + 1 - Utf8.size before ≤ bound := by
      rw [locate_eq_ok_iff_unbounded first, and_iff_right unbounded]
      omega
    refine ⟨found, fun short ↦ ?_⟩
    have none (other : Span) : Body.locate bound source anchor ≠ .ok other := by
      intro located
      have same := ((locate_eq_ok_iff_unbounded first).1 located).1
      rw [unbounded] at same
      cases same
      exact Nat.not_le.2 short (found.1 located)
    rw [locate_of_unlocated first none, Nat.min_eq_left (by omega)]
  · intro failure unbounded bound
    apply locate_of_unlocated first
    intro span located
    rw [((locate_eq_ok_iff_unbounded first).1 located).1] at unbounded
    cases unbounded
  · intro bound bound' span le located
    rw [locate_eq_ok_iff_unbounded first] at located ⊢
    exact ⟨located.1, by omega⟩
  · intro fits bound limit
    have same : limit = min (Utf8.encode source).length (Utf8.size before + bound) :=
      wordLimit_eq fits
    rw [same]
    refine ⟨fun span ↦ locate_eq_ok_iff_encloses first, fun scanned failed ↦ ?_⟩
    have none (span : Span) : Body.locate bound source anchor ≠ .ok span := by
      rw [failed]
      nofun
    rw [locate_of_unlocated first none] at failed
    cases failed
    omega

/-- The greatest 64-bit number is too great a bound to be added to any offset; from ten bytes on the
bound makes no difference. -/
theorem body_within_ten_bytes :
    let source := "é f(\x7d)\x7b\x7bé\x7d\x7d"
    Body.locate (UInt64.size - 1) source "f" = .ok ⟨8, 12⟩ ∧
      Body.locate 10 source "f" = .ok ⟨8, 12⟩ ∧
      Body.locate 9 source "f" = .error (.body "f" (.unbalanced 9)) := by
  intro source
  have first : FirstBehind "f".toList source.toList "é ".toList :=
    (splitFirst_eq_some_iff.1
      (by decide +kernel : _ = some (_, "f(\x7d)\x7b\x7bé\x7d\x7d".toList))).1
  have unbounded : Body.locateUnbounded source "f" = .ok ⟨8, 12⟩ :=
    locate_eq_ok_iff.2 ⟨⟨"é f(\x7d)\x7b".toList, "\x7bé\x7d".toList, ['}']⟩, by decide +kernel,
      by decide⟩
  have within := (bound_decides_success source "f" _ first).1 _ unbounded
  exact ⟨(within _).1.2 (by decide), (within 10).1.2 (by decide), (within 9).2 (by decide)⟩

end SoloScript.Script
