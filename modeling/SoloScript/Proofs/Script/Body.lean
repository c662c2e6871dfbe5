import SoloScript.Proofs.Outcome
import SoloScript.Proofs.Script.Balance
import SoloScript.Proofs.Text.Substring
import SoloScript.Script.Body

/-!
# Where a body is

What is found behind an anchor is the first opening brace, a balanced part behind it, and the
closing brace that follows, as long as that brace is within the bound.
-/

namespace SoloScript.Script.Body

open SoloScript.Text Outcome

variable {text inner after : List Char} {bound : Nat} {body : Body}

theorem utf8Size_opening : '{'.utf8Size = 1 := by decide

theorem opening_ne_closing : '{' ≠ '}' := by decide

/-! ## Scanning -/

/-- The first opening brace within the room, with what stands before it. -/
theorem seek_eq_some_iff {room left : Nat} {skipped rest : List Char} :
    seek room text = some (skipped, rest, left) ↔
      ∃ before, skipped = before ++ ['{'] ∧ text = before ++ '{' :: rest ∧ '{' ∉ before ∧
        Utf8.size skipped + left = room := by
  fun_induction seek room text generalizing skipped rest left with
  | case1 text =>
    constructor
    · intro h
      cases h
    · rintro ⟨before, rfl, -, -, none⟩
      simp [utf8Size_opening] at none
  | case2 room => simp
  | case3 room text =>
    constructor
    · intro h
      cases h
      exact ⟨[], rfl, rfl, by simp, by simp [utf8Size_opening, Nat.add_comm]⟩
    · rintro ⟨before, rfl, split, free, whole⟩
      cases before with
      | nil =>
        obtain ⟨-, rfl⟩ := List.cons.inj split
        simp [utf8Size_opening] at whole ⊢
        omega
      | cons d before =>
        obtain ⟨rfl, -⟩ := List.cons.inj split
        simp at free
  | case4 room c text other ih =>
    have wide := c.utf8Size_pos
    simp only [Option.map_eq_some_iff, Prod.exists, ih, Prod.mk.injEq]
    constructor
    · rintro ⟨_, _, _, ⟨before, rfl, rfl, free, whole⟩, rfl, rfl, rfl⟩
      refine ⟨c :: before, rfl, rfl, ?_, ?_⟩
      · simp [Ne.symm other, free]
      · simp [utf8Size_opening] at whole ⊢
        omega
    · rintro ⟨before, rfl, split, free, whole⟩
      cases before with
      | nil => exact absurd (List.cons.inj split).1 other
      | cons d before =>
        obtain ⟨rfl, rfl⟩ := List.cons.inj split
        refine ⟨_, _, _, ⟨before, rfl, rfl, ?_, ?_⟩, rfl, rfl, rfl⟩
        · exact fun mem ↦ free (List.mem_cons_of_mem _ mem)
        · simp [utf8Size_opening] at whole ⊢
          omega

/-- The closing brace within the room that ends a body of which `depth` inner braces are open. -/
theorem close_eq_some_iff {depth room : Nat} :
    close depth room text = some (inner, after) ↔
      ∃ tail, after = '}' :: tail ∧ text = inner ++ after ∧ Closes '{' '}' depth inner ∧
        Utf8.size inner < room := by
  fun_induction close depth room text generalizing inner after with
  | case1 => simp
  | case2 depth room =>
    constructor
    · intro h
      cases h
    · rintro ⟨tail, rfl, split, -⟩
      simp at split
  | case3 depth room c text here =>
    obtain ⟨rfl, rfl⟩ := here
    constructor
    · intro h
      cases h
      exact ⟨text, rfl, rfl, closes_nil_iff.2 rfl, by simp⟩
    · rintro ⟨tail, rfl, split, closes, -⟩
      cases inner with
      | nil => rw [split, List.nil_append]
      | cons d inner =>
        obtain ⟨rfl, -⟩ := List.cons.inj split
        exact absurd closes (not_closes_zero_cons opening_ne_closing)
  | case4 depth room c text inside deeper =>
    rename_i ih
    have wide := c.utf8Size_pos
    have behind : [c].count '}' + deeper = [c].count '{' + depth := by
      simpa only [deeper, depthBehind, dite_eq_ite] using
        count_add_depthBehind opening_ne_closing inside
    simp only [Option.map_eq_some_iff, Prod.exists, ih, Prod.mk.injEq]
    constructor
    · rintro ⟨inner, _, ⟨tail, rfl, rfl, closes, fits⟩, rfl, rfl⟩
      refine ⟨tail, rfl, rfl, (closes_cons_iff behind).2 closes, ?_⟩
      rw [Utf8.size_cons]
      omega
    · rintro ⟨tail, rfl, split, closes, fits⟩
      cases inner with
      | nil =>
        have closed := (List.cons.inj split).1
        exact absurd ⟨closed, closes_nil_iff.1 closes⟩ inside
      | cons d inner =>
        obtain ⟨rfl, rfl⟩ := List.cons.inj split
        rw [Utf8.size_cons] at fits
        exact ⟨inner, _, ⟨tail, rfl, rfl, (closes_cons_iff behind).1 closes, by omega⟩, rfl, rfl⟩

/-- `body` is what the first opening brace of `text` opens, and its closing brace is among the
first `bound` bytes. -/
structure Heads (body : Body) (bound : Nat) (text : List Char) : Prop where
  opens : ∃ skipped, body.before = skipped ++ ['{'] ∧ '{' ∉ skipped
  closes : ∃ tail, body.after = '}' :: tail
  whole : text = body.before ++ body.inner ++ body.after
  balanced : Balanced '{' '}' body.inner
  inBound : Utf8.size body.before + Utf8.size body.inner < bound

theorem scan_eq_some_iff : scan bound text = some body ↔ body.Heads bound text := by
  simp only [scan, Option.bind_eq_bind, Option.bind_eq_some_iff, Prod.exists, seek_eq_some_iff,
    close_eq_some_iff, closes_zero_iff, Option.some.injEq]
  constructor
  · rintro ⟨_, _, room, ⟨skipped, rfl, rfl, free, rfl⟩, inner, _, ⟨tail, rfl, rfl, balanced, fits⟩,
      rfl⟩
    exact ⟨⟨skipped, rfl, free⟩, ⟨tail, rfl⟩, by simp, balanced, by dsimp only; omega⟩
  · obtain ⟨before, inner, after⟩ := body
    rintro ⟨⟨skipped, rfl, free⟩, ⟨tail, rfl⟩, rfl, balanced, fits⟩
    dsimp only at fits
    exact ⟨_, _, bound - Utf8.size (skipped ++ ['{']), ⟨skipped, rfl, by simp, free, by omega⟩,
      inner, _, ⟨tail, rfl, rfl, balanced, by omega⟩, rfl⟩

/-! ## Behind the first occurrence of an anchor -/

section Anchor

variable {source anchor : String} {before : List Char}

/-- A body of the text that follows `before`, as one of the whole text. -/
def behind (before : List Char) (body : Body) : Body :=
  { body with before := before ++ body.before }

theorem find_eq_noAnchor_iff :
    find source anchor bound = .error .noAnchor ↔ ¬anchor.toList <:+: source.toList := by
  rw [← splitFirst_eq_none_iff, find]
  cases splitFirst anchor.toList source.toList with
  | none => simp
  | some parts => cases found : scan bound parts.2 <;> simp [found]

/-- The text from the anchor on is scanned. -/
theorem find_of_firstBehind (first : FirstBehind anchor.toList source.toList before)
    (split : source.toList = before ++ text) :
    find source anchor bound =
      match scan bound text with
      | none => .error (.unbalanced (min bound (Utf8.size text)))
      | some body => .ok (body.behind before) := by
  rw [find, splitFirst_eq_some_iff.2 ⟨first, split.symm⟩]
  rfl

theorem find_eq_ok_iff_heads (first : FirstBehind anchor.toList source.toList before)
    (split : source.toList = before ++ text) {found : Body} :
    find source anchor bound = .ok found ↔
      ∃ body : Body, body.Heads bound text ∧ body.behind before = found := by
  simp only [find_of_firstBehind first split, ← scan_eq_some_iff]
  cases scan bound text <;> simp

theorem find_of_not_heads (first : FirstBehind anchor.toList source.toList before)
    (split : source.toList = before ++ text) (none : ∀ body : Body, ¬body.Heads bound text) :
    find source anchor bound = .error (.unbalanced (min bound (Utf8.size text))) := by
  have unscanned : scan bound text = Option.none := by
    simpa only [← scan_eq_some_iff, ← Option.eq_none_iff_forall_ne_some] using none
  rw [find_of_firstBehind first split, unscanned]

/-- The two ends of a located body and what is between them make up the text. -/
theorem whole_of_find {body : Body} (h : find source anchor bound = .ok body) :
    source.toList = body.before ++ body.inner ++ body.after := by
  by_cases occurs : anchor.toList <:+: source.toList
  · cases found : splitFirst anchor.toList source.toList with
    | none => exact absurd occurs (splitFirst_eq_none_iff.1 found)
    | some parts =>
      obtain ⟨before, text⟩ := parts
      obtain ⟨first, split⟩ := splitFirst_eq_some_iff.1 found
      obtain ⟨body, heads, rfl⟩ := (find_eq_ok_iff_heads first split.symm).1 h
      simp [← split, heads.whole, behind]
  · rw [find_eq_noAnchor_iff.2 occurs] at h
    cases h

end Anchor

end SoloScript.Script.Body
