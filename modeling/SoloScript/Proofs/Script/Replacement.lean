import SoloScript.Proofs.Script.Assemble
import SoloScript.Proofs.Script.Location

/-!
# Locating a replaced body

A replacement leaves everything up to the opening brace as it is.  So the anchor still first occurs
where it was, and a replacement that is balanced is located in the place of the body, as long as
its closing brace is within the bound.
-/

namespace SoloScript.Script

open SoloScript.Text Outcome

variable {source anchor : String} {before : List Char} {bound : Nat} {found : Body}

/-! ## Up to the opening brace -/

/-- The brace that opens a body is the first one from the start of the anchor on. -/
theorem Body.exists_skipped_of_find (first : FirstBehind anchor.toList source.toList before)
    (located : Body.find source anchor bound = .ok found) :
    ∃ skipped rest, found.before = before ++ (skipped ++ ['{']) ∧ '{' ∉ skipped ∧
      source.toList = before ++ (skipped ++ '{' :: rest) ∧
      anchor.toList <+: skipped ++ '{' :: rest := by
  obtain ⟨after, split⟩ := first.occurs
  rw [List.append_assoc] at split
  obtain ⟨body, heads, rfl⟩ := (Body.find_eq_ok_iff_heads first split.symm).1 located
  obtain ⟨skipped, opens, free⟩ := heads.opens
  have text : anchor.toList ++ after = skipped ++ '{' :: (body.inner ++ body.after) := by
    rw [heads.whole, opens]
    simp
  refine ⟨skipped, body.inner ++ body.after, ?_, free, ?_, ?_⟩
  · rw [Body.behind, opens]
  · rw [← split, text]
  · rw [← text]
    exact List.prefix_append _ _

/-- An anchor without an opening brace ends before the brace that opens the body. -/
theorem Body.anchor_prefix_before (first : FirstBehind anchor.toList source.toList before)
    (plain : '{' ∉ anchor.toList) (located : Body.find source anchor bound = .ok found) :
    before ++ anchor.toList <+: found.before := by
  obtain ⟨skipped, rest, opens, -, -, starts⟩ := Body.exists_skipped_of_find first located
  have inside : anchor.toList <+: skipped := (prefix_append_cons_iff plain).1 starts
  rw [opens, List.prefix_append_right_inj]
  exact inside.trans (List.prefix_append _ _)

/-- A replacement does not move the first occurrence of an anchor that ends before the body. -/
theorem Body.firstBehind_splice_of_within
    (first : FirstBehind anchor.toList source.toList before)
    (located : Body.find source anchor bound = .ok found)
    (within : before ++ anchor.toList <+: found.before) (replacement : String) :
    FirstBehind anchor.toList (found.splice replacement).toList before := by
  apply first.of_prefix within
  · rw [Body.whole_of_find located, List.append_assoc]
    exact List.prefix_append _ _
  · rw [Body.splice, String.toList_ofList, List.append_assoc]
    exact List.prefix_append _ _

theorem Body.firstBehind_splice (first : FirstBehind anchor.toList source.toList before)
    (plain : '{' ∉ anchor.toList) (located : Body.find source anchor bound = .ok found)
    (replacement : String) :
    FirstBehind anchor.toList (found.splice replacement).toList before := by
  have within := Body.anchor_prefix_before first plain located
  exact Body.firstBehind_splice_of_within first located within replacement

/-! ## The body between the same braces -/

/-- Where a body was found, any balanced text between its braces is a body. -/
theorem Body.find_splice {bound' : Nat} {replacement : String}
    (first : FirstBehind anchor.toList source.toList before) (plain : '{' ∉ anchor.toList)
    (located : Body.find source anchor bound = .ok found)
    (balanced : Balanced '{' '}' replacement.toList)
    (inBound : found.start + Utf8.size replacement.toList < Utf8.size before + bound') :
    Body.find (found.splice replacement) anchor bound' =
      .ok { found with inner := replacement.toList } := by
  have first' := Body.firstBehind_splice first plain located replacement
  obtain ⟨after, split⟩ := first.occurs
  rw [List.append_assoc] at split
  obtain ⟨body, heads, rfl⟩ := (Body.find_eq_ok_iff_heads first split.symm).1 located
  have split' : ((body.behind before).splice replacement).toList =
      before ++ (body.before ++ replacement.toList ++ body.after) := by
    simp [Body.splice, Body.behind]
  have size : (body.behind before).start = Utf8.size before + Utf8.size body.before := by
    simp [Body.start, Body.behind]
  refine (Body.find_eq_ok_iff_heads first' split').2
    ⟨{ body with inner := replacement.toList }, ?_, rfl⟩
  exact {
    opens := heads.opens
    closes := heads.closes
    whole := rfl
    balanced := balanced
    inBound := by dsimp only; omega }

/-- Between the offsets where the replacement was put are its bytes. -/
theorem Body.extract_splice (body : Body) (replacement : String) :
    (Utf8.encode (body.splice replacement)).extract body.start
      (body.start + Utf8.size replacement.toList) = Utf8.encode replacement := by
  rw [Utf8.encode_eq_bytes, Body.splice, String.toList_ofList, Body.start,
    Utf8.extract_bytes_append, Utf8.encode_eq_bytes]

/-- A replaced body is located again, between the same braces, exactly if the replacement is
balanced and its closing brace is within the bound.  Behind an anchor that has no opening brace
itself, this is all that can go wrong: the anchor first occurs where it was, and the bytes there
are those of the replacement. -/
theorem replacement_located_iff (source anchor replacement : String) (bound : Nat) (span : Span)
    (plain : '{' ∉ anchor.toList) (located : Body.locate bound source anchor = .ok span) :
    ∃ before patched, FirstBehind anchor.toList source.toList before ∧
      Replacer.braces bound source anchor replacement = .ok patched ∧
      FirstBehind anchor.toList patched.toList before ∧
      (Utf8.encode patched).extract span.start (span.start + Utf8.size replacement.toList) =
        Utf8.encode replacement ∧
      ∀ bound', Body.locate bound' patched anchor =
          .ok ⟨span.start, span.start + Utf8.size replacement.toList⟩ ↔
        Balanced '{' '}' replacement.toList ∧
          span.start + Utf8.size replacement.toList < Utf8.size before + bound' := by
  obtain ⟨found, opened, rfl⟩ := locate_eq_ok_iff.1 located
  have occurs : anchor.toList <:+: source.toList := by
    by_contra absent
    rw [Body.find_eq_noAnchor_iff.2 absent] at opened
    cases opened
  obtain ⟨before, first⟩ := exists_firstBehind occurs
  have first' := Body.firstBehind_splice first plain opened replacement
  have bytes := Body.extract_splice found replacement
  refine ⟨before, found.splice replacement, first, braces_eq_ok_iff.2 ⟨found, opened, rfl⟩, first',
    bytes, fun bound' ↦ ⟨fun again ↦ ?_, fun ⟨balanced, inBound⟩ ↦ ?_⟩⟩
  · have encloses := (locate_eq_ok_iff_encloses first').1 again
    have balanced := encloses.balanced
    have inside := encloses.inside
    dsimp only [Body.span] at balanced inside ⊢
    rw [bytes, Utf8.encode_eq_bytes, balanced_bytes_iff] at balanced
    exact ⟨balanced, by omega⟩
  · have again := Body.find_splice first plain opened balanced inBound
    exact locate_eq_ok_iff.2 ⟨_, again, rfl⟩

/-- The closing brace of a nested replacement is the tenth byte from the anchor on. -/
theorem nested_replacement_located :
    ∃ patched, Replacer.braces 64 "f()\x7ba\x7d" "f" "if\x7bb\x7d" = .ok patched ∧
      Body.locate 10 patched "f" = .ok ⟨4, 9⟩ ∧ Body.locate 9 patched "f" ≠ .ok ⟨4, 9⟩ := by
  have start : FirstBehind "f".toList "f()\x7ba\x7d".toList [] := ⟨by decide, by simp⟩
  have heads : Body.Heads ⟨"f()\x7b".toList, ['a'], ['}']⟩ 64 "f()\x7ba\x7d".toList :=
    ⟨⟨"f()".toList, by decide, by decide⟩, ⟨[], rfl⟩, by decide, by decide, by decide⟩
  have located : Body.locate 64 "f()\x7ba\x7d" "f" = .ok ⟨4, 5⟩ :=
    locate_eq_ok_iff.2
      ⟨_, (Body.find_eq_ok_iff_heads start (List.nil_append _).symm).2 ⟨_, heads, rfl⟩, by decide⟩
  obtain ⟨before, patched, first, replaced, -, -, again⟩ :=
    replacement_located_iff "f()\x7ba\x7d" "f" "if\x7bb\x7d" 64 ⟨4, 5⟩ (by decide) located
  obtain rfl := first.unique start
  refine ⟨patched, replaced, (again 10).2 (by decide), fun shorter ↦ ?_⟩
  have inBound := ((again 9).1 shorter).2
  exact absurd inBound (by decide)

end SoloScript.Script
