import SoloScript.Proofs.Text.Substring

/-!
# Following characters through replacements

Replacements go over a text one after another.  A traced character knows its place in the first
text; what a replacement puts in has no such place.  So one can tell what a replacement finds: if it
looks for characters that the earlier ones neither look for nor put in, it finds exactly what it
would have found in the first text.
-/

namespace SoloScript.Text

/-- A character, with its place in the first text unless a replacement has put it in. -/
structure Traced where
  char : Char
  place? : Option Nat
deriving DecidableEq, Repr

/-- The characters of a first text, each at its place. -/
def trace (text : List Char) : List Traced := text.mapIdx fun place c ↦ ⟨c, some place⟩

namespace Traced

def chars (text : List Traced) : List Char := text.map (·.char)

/-- What a replacement puts in. -/
def fresh (new : List Char) : List Traced := new.map (⟨·, none⟩)

/-- What a replacement comes upon: an occurrence of what it looks for, or a character that it
keeps. -/
inductive Part where
  | found (occurrence : List Traced)
  | kept (c : Traced)

def Part.rewrite (new : List Char) : Part → List Traced
  | found _ => fresh new
  | kept c => [c]

def Part.occurrence? : Part → Option (List Traced)
  | found occurrence => some occurrence
  | kept _ => none

/-- What a replacement of `old` comes upon, from left to right. -/
def parts (old : List Char) (text : List Traced) : List Part :=
  match text with
  | [] => []
  | c :: cs =>
    if old ≠ [] ∧ old.isPrefixOf (chars (c :: cs)) then
      .found ((c :: cs).take old.length) :: parts old ((c :: cs).drop old.length)
    else .kept c :: parts old cs
termination_by text.length
decreasing_by
  · have : 0 < old.length := List.length_pos_iff.2 (by simp_all)
    simp only [List.length_drop, List.length_cons]
    omega
  · simp

/-- Replaces every occurrence of `old`, leftmost first, as `replaceAll` does. -/
def rewrite (old new : List Char) (text : List Traced) : List Traced :=
  (parts old text).flatMap (·.rewrite new)

/-- The occurrences that such a replacement finds. -/
def rewritten (old : List Char) (text : List Traced) : List (List Traced) :=
  (parts old text).filterMap Part.occurrence?

/-- Replacements, one after another, of the first of each pair by the second. -/
def rewriteAll (pairs : List (String × String)) (text : List Traced) : List Traced :=
  pairs.foldl (fun text pair ↦ rewrite pair.1.toList pair.2.toList text) text

theorem chars_append (text rest : List Traced) : chars (text ++ rest) = chars text ++ chars rest :=
  List.map_append

theorem chars_fresh (new : List Char) : chars (fresh new) = new := by
  rw [chars, fresh, List.map_map]
  exact List.map_id new

theorem chars_trace (text : List Char) : chars (trace text) = text := by
  refine List.ext_getElem? fun place ↦ ?_
  rw [chars, trace, List.getElem?_map, List.getElem?_mapIdx]
  cases text[place]? <;> rfl

theorem notMem_of_chars {text : List Traced} {c : Traced} (absent : c.char ∉ chars text) :
    c ∉ text :=
  fun mem ↦ absent (List.mem_map_of_mem mem)

/-! ## One replacement -/

section Replacement

variable {old new : List Char} {occurrence rest text : List Traced} {c : Traced}

theorem parts_append (nonempty : old ≠ []) (here : chars occurrence = old) :
    parts old (occurrence ++ rest) = .found occurrence :: parts old rest := by
  obtain ⟨c, cs, rfl⟩ : ∃ c cs, occurrence = c :: cs := by
    refine List.exists_cons_of_ne_nil ?_
    rintro rfl
    exact nonempty here.symm
  have starts : old <+: chars (c :: cs ++ rest) := by
    rw [chars_append, here]
    exact List.prefix_append _ _
  have length : old.length = (c :: cs).length := by rw [← here, chars, List.length_map]
  rw [List.cons_append, parts, ← List.cons_append,
    if_pos ⟨nonempty, List.isPrefixOf_iff_prefix.2 starts⟩, length, List.take_left, List.drop_left]

theorem parts_cons (absent : ¬(old ≠ [] ∧ old <+: chars (c :: rest))) :
    parts old (c :: rest) = .kept c :: parts old rest := by
  rw [parts, if_neg]
  rwa [List.isPrefixOf_iff_prefix]

/-- A text is empty, it starts with an occurrence, or its first character is kept. -/
theorem replacement_induction (old : List Char) {P : List Traced → Prop} (nil : P [])
    (found : ∀ occurrence rest, old ≠ [] → chars occurrence = old → P rest →
      P (occurrence ++ rest))
    (kept : ∀ c rest, ¬(old ≠ [] ∧ old <+: chars (c :: rest)) → P rest → P (c :: rest))
    (text : List Traced) : P text := by
  fun_induction parts old text with
  | case1 => exact nil
  | case2 c cs starts ih =>
    obtain ⟨nonempty, starts⟩ := starts
    have here : chars ((c :: cs).take old.length) = old := by
      rw [chars, List.map_take]
      exact (List.prefix_iff_eq_take.1 (List.isPrefixOf_iff_prefix.1 starts)).symm
    have whole := found _ _ nonempty here ih
    rwa [List.take_append_drop] at whole
  | case3 c cs absent ih =>
    rw [List.isPrefixOf_iff_prefix] at absent
    exact kept c cs absent ih

@[simp] theorem rewrite_nil : rewrite old new [] = [] := by
  rw [rewrite, parts]
  rfl

@[simp] theorem rewritten_nil : rewritten old [] = [] := by
  rw [rewritten, parts]
  rfl

theorem rewrite_append (nonempty : old ≠ []) (here : chars occurrence = old) :
    rewrite old new (occurrence ++ rest) = fresh new ++ rewrite old new rest := by
  rw [rewrite, parts_append nonempty here]
  rfl

theorem rewrite_cons (absent : ¬(old ≠ [] ∧ old <+: chars (c :: rest))) :
    rewrite old new (c :: rest) = c :: rewrite old new rest := by
  rw [rewrite, parts_cons absent]
  rfl

theorem rewritten_append (nonempty : old ≠ []) (here : chars occurrence = old) :
    rewritten old (occurrence ++ rest) = occurrence :: rewritten old rest := by
  rw [rewritten, parts_append nonempty here]
  rfl

theorem rewritten_cons (absent : ¬(old ≠ [] ∧ old <+: chars (c :: rest))) :
    rewritten old (c :: rest) = rewritten old rest := by
  rw [rewritten, parts_cons absent]
  rfl

/-- The characters of a text are replaced as they would be without their places. -/
theorem chars_rewrite (old new : List Char) (text : List Traced) :
    chars (rewrite old new text) = replaceAll old new (chars text) := by
  induction text using replacement_induction old with
  | nil =>
    rw [rewrite_nil, chars, List.map_nil, replaceAll]
  | found occurrence rest nonempty here ih =>
    rw [rewrite_append nonempty here, chars_append, chars_append, chars_fresh, ih, here,
      replaceAll_append nonempty]
  | kept c rest absent ih =>
    rw [rewrite_cons absent]
    exact (congrArg (c.char :: ·) ih).trans (replaceAll_cons absent).symm

end Replacement

/-! ## What a replacement finds -/

section Needle

variable {c : Traced} {front rest needle : List Traced}

theorem not_prefix_append (nonempty : front ≠ []) (absent : c ∉ front) :
    ¬c :: needle <+: front ++ rest := by
  obtain ⟨d, front, rfl⟩ := List.exists_cons_of_ne_nil nonempty
  intro here
  obtain rfl := (List.cons_prefix_cons.1 here).1
  exact absent List.mem_cons_self

/-- What does not start within the front of a text is behind it. -/
theorem infix_append_iff (absent : c ∉ front) :
    c :: needle <:+: front ++ rest ↔ c :: needle <:+: rest := by
  induction front with
  | nil => rfl
  | cons d front ih =>
    have behind := List.not_mem_of_not_mem_cons absent
    rw [List.cons_append, List.infix_cons_iff, or_iff_right, ih behind]
    exact not_prefix_append (List.cons_ne_nil d front) absent

end Needle

section Occurrence

variable {c : Char} {cs : List Char} (once : c ∉ cs)

include once

/-- Two occurrences do not overlap. -/
theorem infix_append_iff_of_chars {first occurrence : List Traced} (here : chars first = c :: cs)
    (same : chars occurrence = c :: cs) (rest : List Traced) :
    occurrence <:+: first ++ rest ↔ occurrence = first ∨ occurrence <:+: rest := by
  have length : occurrence.length = first.length := by
    have := congrArg List.length (same.trans here.symm)
    rwa [chars, chars, List.length_map, List.length_map] at this
  obtain ⟨a, as, rfl, -, others⟩ := List.map_eq_cons_iff.1 here
  obtain ⟨b, bs, rfl, starts, -⟩ := List.map_eq_cons_iff.1 same
  -- what starts behind the first character of `first` starts behind all of it
  have absent : b ∉ as := by
    refine notMem_of_chars ?_
    rw [starts, chars, others]
    exact once
  rw [List.cons_append, List.infix_cons_iff, infix_append_iff absent, ← List.cons_append]
  refine or_congr_left ⟨fun now ↦ ?_, fun now ↦ now ▸ List.prefix_append _ _⟩
  have within :=
    List.prefix_of_prefix_length_le now (List.prefix_append _ rest) (Nat.le_of_eq length)
  exact within.eq_of_length length

/-- No occurrence is missed. -/
theorem mem_rewritten_iff {occurrence : List Traced} (text : List Traced) :
    occurrence ∈ rewritten (c :: cs) text ↔ occurrence <:+: text ∧ chars occurrence = c :: cs := by
  induction text using replacement_induction (c :: cs) with
  | nil =>
    rw [rewritten_nil, List.infix_nil]
    refine iff_of_false List.not_mem_nil ?_
    rintro ⟨rfl, empty⟩
    cases empty
  | found first rest nonempty here ih =>
    rw [rewritten_append nonempty here, List.mem_cons, ih]
    constructor
    · rintro (rfl | ⟨inside, same⟩)
      · exact ⟨List.infix_append_left, here⟩
      · exact ⟨(infix_append_iff_of_chars once here same rest).2 (.inr inside), same⟩
    · rintro ⟨inside, same⟩
      exact ((infix_append_iff_of_chars once here same rest).1 inside).imp_right (⟨·, same⟩)
  | kept d rest absent ih =>
    rw [rewritten_cons absent, ih, List.infix_cons_iff]
    have nonempty := List.cons_ne_nil c cs
    refine and_congr_left fun same ↦ (or_iff_right fun here ↦ absent ⟨nonempty, ?_⟩).symm
    rw [← same]
    exact here.map _

end Occurrence

/-! ## What a replacement leaves -/

section Foreign

variable {old new : List Char} {needle : List Traced} (nonempty : new ≠ [])
  (foreign : ∀ c ∈ needle, c.char ∉ old ∧ c.char ∉ new)

include nonempty foreign

/-- Neither an occurrence nor what is put in its place starts with a character of `needle`. -/
theorem prefix_rewrite_iff (text : List Traced) :
    needle <+: rewrite old new text ↔ needle <+: text := by
  induction text using replacement_induction old generalizing needle with
  | nil => rw [rewrite_nil]
  | found occurrence rest nonemptyOld here ih =>
    cases needle with
    | nil => simp only [List.nil_prefix]
    | cons c needle =>
      obtain ⟨notOld, notNew⟩ := foreign c List.mem_cons_self
      rw [rewrite_append nonemptyOld here]
      refine iff_of_false (not_prefix_append ?_ ?_) (not_prefix_append ?_ ?_)
      · exact mt List.map_eq_nil_iff.1 nonempty
      · exact notMem_of_chars ((chars_fresh new).symm ▸ notNew)
      · rintro rfl
        exact nonemptyOld here.symm
      · exact notMem_of_chars (here.symm ▸ notOld)
  | kept d rest absent ih =>
    cases needle with
    | nil => simp only [List.nil_prefix]
    | cons c needle =>
      rw [rewrite_cons absent, List.cons_prefix_cons, List.cons_prefix_cons,
        ih (List.forall_mem_cons.1 foreign).2]

/-- A replacement neither makes nor breaks what has no characters in common with what it looks for
and puts in. -/
theorem infix_rewrite_iff (text : List Traced) :
    needle <:+: rewrite old new text ↔ needle <:+: text := by
  induction text using replacement_induction old with
  | nil => rw [rewrite_nil]
  | found occurrence rest nonemptyOld here ih =>
    cases needle with
    | nil => simp only [List.nil_infix]
    | cons c needle =>
      obtain ⟨notOld, notNew⟩ := foreign c List.mem_cons_self
      rw [rewrite_append nonemptyOld here, infix_append_iff, infix_append_iff, ih]
      · exact notMem_of_chars (here.symm ▸ notOld)
      · exact notMem_of_chars ((chars_fresh new).symm ▸ notNew)
  | kept d rest absent ih =>
    have starts := prefix_rewrite_iff nonempty foreign (d :: rest)
    rw [rewrite_cons absent] at starts ⊢
    rw [List.infix_cons_iff, List.infix_cons_iff, ih, starts]

end Foreign

/-! ## Several replacements -/

theorem rewriteAll_cons (pair : String × String) (pairs : List (String × String))
    (text : List Traced) :
    rewriteAll (pair :: pairs) text = rewriteAll pairs (rewrite pair.1.toList pair.2.toList text) :=
  rfl

theorem chars_rewriteAll (pairs : List (String × String)) (text : List Traced) :
    chars (rewriteAll pairs text) =
      pairs.foldl (fun text pair ↦ replaceAll pair.1.toList pair.2.toList text) (chars text) := by
  induction pairs generalizing text with
  | nil => rfl
  | cons pair pairs ih => rw [rewriteAll_cons, ih, chars_rewrite, List.foldl_cons]

/-- A replacement that neither looks for nor puts in any of the characters of `needle`, and puts in
something wherever it takes something out. -/
def Foreign (needle : List Char) (pair : String × String) : Prop :=
  pair.2.toList ≠ [] ∧ ∀ c ∈ needle, c ∉ pair.1.toList ∧ c ∉ pair.2.toList

theorem infix_rewriteAll_iff {pairs : List (String × String)} {needle : List Traced}
    (foreign : ∀ pair ∈ pairs, Foreign (chars needle) pair) (text : List Traced) :
    needle <:+: rewriteAll pairs text ↔ needle <:+: text := by
  induction pairs generalizing text with
  | nil => rfl
  | cons pair pairs ih =>
    obtain ⟨⟨nonempty, apart⟩, others⟩ := List.forall_mem_cons.1 foreign
    rw [rewriteAll_cons, ih others]
    exact infix_rewrite_iff nonempty (fun c mem ↦ apart _ (List.mem_map_of_mem mem)) text

/-- No replacement looks for what an earlier one looks for or puts in, nor for a text with a
character twice. -/
structure Independent (pairs : List (String × String)) : Prop where
  foreign : pairs.Pairwise fun earlier later ↦ Foreign later.1.toList earlier
  nonempty : ∀ pair ∈ pairs, pair.1.toList ≠ []
  nodup : ∀ pair ∈ pairs, pair.1.toList.Nodup

/-- Each of several independent replacements finds what it looks for where that is in the first
text, and nowhere else. -/
theorem Independent.mem_rewritten_iff {pairs : List (String × String)}
    (independent : Independent pairs) (i : Fin pairs.length) (text occurrence : List Traced) :
    occurrence ∈ rewritten pairs[i].1.toList (rewriteAll (pairs.take i) text) ↔
      occurrence <:+: text ∧ chars occurrence = pairs[i].1.toList := by
  have mem : pairs[i] ∈ pairs := List.getElem_mem i.isLt
  have foreign : ∀ pair ∈ pairs.take i, Foreign pairs[i].1.toList pair := by
    intro pair earlier
    refine independent.foreign.rel_of_mem_take_of_mem_drop earlier ?_
    exact List.mem_drop_iff_getElem.2 ⟨0, by simp, rfl⟩
  obtain ⟨c, cs, split⟩ := List.exists_cons_of_ne_nil (independent.nonempty _ mem)
  have nodup := independent.nodup _ mem
  rw [split] at foreign nodup ⊢
  rw [Traced.mem_rewritten_iff (List.nodup_cons.1 nodup).1]
  -- the earlier replacements have left the occurrences of the first text, and made no other
  exact and_congr_left fun same ↦ infix_rewriteAll_iff (same ▸ foreign) text

/-! ## The first text -/

theorem getElem?_trace_eq_some_iff {text : List Char} {i : Nat} {c : Traced} :
    (trace text)[i]? = some c ↔ text[i]? = some c.char ∧ c.place? = some i := by
  obtain ⟨char, place?⟩ := c
  rw [trace, List.getElem?_mapIdx, Option.map_eq_some_iff]
  constructor
  · rintro ⟨d, here, same⟩
    cases same
    exact ⟨here, rfl⟩
  · rintro ⟨here, rfl⟩
    exact ⟨char, here, rfl⟩

/-- Two characters of the first text follow one another exactly if their places do. -/
theorem pair_infix_trace_iff {text : List Char} {c d : Traced} :
    [c, d] <:+: trace text ↔ ∃ i, (text[i]? = some c.char ∧ c.place? = some i) ∧
      text[i + 1]? = some d.char ∧ d.place? = some (i + 1) := by
  simp only [← getElem?_trace_eq_some_iff]
  constructor
  · rintro ⟨before, after, split⟩
    refine ⟨before.length, ?_, ?_⟩
    · simp [← split]
    · simp [← split]
  · rintro ⟨i, here, next⟩
    obtain ⟨lt, same⟩ := List.getElem?_eq_some_iff.1 here
    obtain ⟨lt', same'⟩ := List.getElem?_eq_some_iff.1 next
    refine ⟨(trace text).take i, (trace text).drop (i + 2), ?_⟩
    rw [List.append_assoc, List.cons_append, List.singleton_append, ← same, ← same',
      List.getElem_cons_drop, List.getElem_cons_drop, List.take_append_drop]

end Traced
end SoloScript.Text
