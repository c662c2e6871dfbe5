import SoloScript.Text.Substring

/-!
# Lemmas on occurrences of a piece of text

A text is split at the first occurrence of a piece, if there is one.  Replacing and cutting act
on the text character by character: a replacement of single characters is a `flatMap`, and
`dropStart?` and `dropEnd?` undo putting text in front and behind.  Trimming takes a row of one
character off an end, all of it.
-/

namespace SoloScript.Text

/-! ## First occurrences -/

section Occurrence

/-- `needle` occurs in `text` behind `before`, and nowhere earlier. -/
structure FirstBehind (needle text before : List Char) : Prop where
  occurs : before ++ needle <+: text
  first : ∀ earlier, earlier ++ needle <+: text → before.length ≤ earlier.length

variable {needle text before rest : List Char} {c : Char}

theorem FirstBehind.cons (absent : ¬needle <+: c :: text) (h : FirstBehind needle text before) :
    FirstBehind needle (c :: text) (c :: before) := by
  refine ⟨List.cons_prefix_cons.2 ⟨rfl, h.occurs⟩, fun earlier occurs ↦ ?_⟩
  cases earlier with
  | nil => exact absurd occurs absent
  | cons d earlier =>
    have := h.first earlier (List.cons_prefix_cons.1 occurs).2
    simpa using this

/-- The first occurrence is where a text is split. -/
theorem firstBehind_of_splitFirst (h : splitFirst needle text = some (before, rest)) :
    FirstBehind needle text before ∧ before ++ rest = text := by
  induction text generalizing before with
  | nil =>
    rw [splitFirst] at h
    split at h
    · rename_i empty
      cases h
      simp [empty, FirstBehind.mk]
    · cases h
  | cons c text ih =>
    rw [splitFirst] at h
    split at h
    · rename_i here
      cases h
      exact ⟨⟨List.isPrefixOf_iff_prefix.1 here, by simp⟩, rfl⟩
    · rename_i absent
      obtain ⟨⟨later, tail⟩, found, same⟩ := Option.map_eq_some_iff.1 h
      cases same
      obtain ⟨first, split⟩ := ih found
      exact ⟨first.cons (mt List.isPrefixOf_iff_prefix.2 absent), by simp [split]⟩

theorem splitFirst_eq_none_iff : splitFirst needle text = none ↔ ¬needle <:+: text := by
  induction text with
  | nil => simp [splitFirst]
  | cons c text ih =>
    rw [splitFirst, List.infix_cons_iff, not_or, ← ih]
    by_cases here : needle <+: c :: text
    · simp [here]
    · simp [here]

/-- The first occurrence is the only one of its kind. -/
theorem FirstBehind.unique {other : List Char} (h : FirstBehind needle text before)
    (h' : FirstBehind needle text other) : before = other := by
  have length : before.length = other.length :=
    Nat.le_antisymm (h.first _ h'.occurs) (h'.first _ h.occurs)
  have starts := (List.prefix_append before needle).trans h.occurs
  have starts' := (List.prefix_append other needle).trans h'.occurs
  exact (List.prefix_of_prefix_length_le starts starts' (Nat.le_of_eq length)).eq_of_length length

/-- A text is split behind what precedes the first occurrence. -/
theorem splitFirst_eq_some_iff :
    splitFirst needle text = some (before, rest) ↔
      FirstBehind needle text before ∧ before ++ rest = text := by
  refine ⟨firstBehind_of_splitFirst, fun ⟨first, split⟩ ↦ ?_⟩
  cases found : splitFirst needle text with
  | none =>
    obtain ⟨after, rfl⟩ := first.occurs
    exact absurd ⟨before, after, rfl⟩ (splitFirst_eq_none_iff.1 found)
  | some parts =>
    obtain ⟨before', rest'⟩ := parts
    obtain ⟨first', split'⟩ := firstBehind_of_splitFirst found
    obtain rfl := first.unique first'
    rw [List.append_cancel_left (split.trans split'.symm)]

/-- A first occurrence within a part that two texts start with is the first one in both. -/
theorem FirstBehind.of_prefix {shared other : List Char} (h : FirstBehind needle text before)
    (inside : before ++ needle <+: shared) (starts : shared <+: text) (starts' : shared <+: other) :
    FirstBehind needle other before := by
  refine ⟨inside.trans starts', fun earlier occurs ↦ Nat.not_lt.1 fun shorter ↦ ?_⟩
  have within : (earlier ++ needle).length ≤ shared.length := by
    have := inside.length_le
    simp only [List.length_append] at this ⊢
    omega
  have occurs' := List.prefix_of_prefix_length_le occurs starts' within
  exact Nat.not_le.2 shorter (h.first earlier (occurs'.trans starts))

theorem exists_firstBehind (h : needle <:+: text) : ∃ before, FirstBehind needle text before := by
  cases found : splitFirst needle text with
  | none => exact absurd h (splitFirst_eq_none_iff.1 found)
  | some parts => exact ⟨parts.1, (firstBehind_of_splitFirst found).1⟩

theorem firstBehind_cons_iff :
    FirstBehind needle (c :: text) (c :: before) ↔
      ¬needle <+: c :: text ∧ FirstBehind needle text before := by
  constructor
  · intro h
    refine ⟨fun here ↦ ?_, (List.cons_prefix_cons.1 h.occurs).2, fun earlier occurs ↦ ?_⟩
    · have := h.first [] here
      simp at this
    · have := h.first (c :: earlier) (List.cons_prefix_cons.2 ⟨rfl, occurs⟩)
      simpa using this
  · rintro ⟨absent, h⟩
    exact h.cons absent

end Occurrence

/-! ## Occurrences around a character

No occurrence of a needle goes across a character that the needle does not have. -/

section Barrier

variable {needle before skipped text : List Char} {c : Char} (absent : c ∉ needle)

include absent

theorem prefix_append_cons_iff : needle <+: before ++ c :: text ↔ needle <+: before := by
  constructor
  · intro starts
    rcases List.prefix_or_prefix_of_prefix starts (List.prefix_append before (c :: text)) with
      within | ⟨rest, rfl⟩
    · exact within
    · rcases List.prefix_cons_iff.1 ((List.prefix_append_right_inj before).1 starts) with
        rfl | ⟨tail, rfl, -⟩
      · simp
      · simp at absent
  · intro starts
    exact starts.trans (List.prefix_append _ _)

/-- The first occurrence is behind such a character exactly if there is none before it. -/
theorem firstBehind_append_cons_iff :
    FirstBehind needle (before ++ c :: text) (before ++ c :: skipped) ↔
      ¬needle <:+: before ∧ FirstBehind needle text skipped := by
  induction before with
  | nil =>
    have here : needle <+: c :: text ↔ needle = [] := by
      rw [← List.nil_append (c :: text), prefix_append_cons_iff absent, List.prefix_nil]
    rw [List.nil_append, List.nil_append, firstBehind_cons_iff, here, List.infix_nil]
  | cons d before ih =>
    rw [List.cons_append, List.cons_append, firstBehind_cons_iff, ih, List.infix_cons_iff,
      ← List.cons_append, prefix_append_cons_iff absent, not_or, and_assoc]

end Barrier

/-! ## What a text starts with -/

section Start

variable {needle front back skipped text : List Char} {c : Char}

/-- Only what is in front of a gap can be relied on, whatever fills it. -/
theorem forall_prefix_append_iff :
    (∀ filling, needle <+: front ++ filling ++ back) ↔ needle <+: front := by
  constructor
  · intro always
    have within (c : Char) : needle <+: front ∨ ∃ rest, needle = front ++ c :: rest := by
      have starts := always [c]
      rw [List.append_assoc] at starts
      rcases List.prefix_or_prefix_of_prefix starts (List.prefix_append front _) with
        short | ⟨rest, rfl⟩
      · exact .inl short
      · rcases List.prefix_cons_iff.1 ((List.prefix_append_right_inj front).1 starts) with
          rfl | ⟨tail, rfl, -⟩
        · exact .inl (by simp)
        · exact .inr ⟨tail, rfl⟩
    -- What goes on behind the front cannot go on with two different characters.
    rcases within 'a' with short | ⟨rest, long⟩
    · exact short
    · rcases within 'b' with short | ⟨rest', long'⟩
      · exact short
      · rw [long] at long'
        have same := (List.cons.inj (List.append_cancel_left long')).1
        exact absurd same (by decide)
  · intro starts filling
    rw [List.append_assoc]
    exact starts.trans (List.prefix_append _ _)

/-- What precedes the first `c` of a text. -/
theorem eq_of_append_cons_eq {ahead tail : List Char} (free : c ∉ skipped) (free' : c ∉ ahead)
    (same : ahead ++ c :: tail = skipped ++ c :: text) : ahead = skipped := by
  have upTo : ahead <+: skipped := by
    have starts : ahead <+: skipped ++ c :: text := by
      rw [← same]
      exact List.prefix_append _ _
    exact (prefix_append_cons_iff free').1 starts
  have onTo : skipped <+: ahead := by
    have starts : skipped <+: ahead ++ c :: tail := by
      rw [same]
      exact List.prefix_append _ _
    exact (prefix_append_cons_iff free).1 starts
  exact upTo.eq_of_length_le onTo.length_le

/-- What a text starts with is without `c` if it ends before the first `c` of the text. -/
theorem notMem_iff_starts (free : c ∉ skipped) (starts : needle <+: skipped ++ c :: text) :
    c ∉ needle ↔ needle <+: skipped := by
  constructor
  · intro absent
    exact (prefix_append_cons_iff absent).1 starts
  · intro within mem
    exact free (within.subset mem)

/-- It has a `c` at most for its last character if it ends with the first `c` of the text. -/
theorem notMem_dropLast_iff_starts (free : c ∉ skipped)
    (starts : needle <+: skipped ++ c :: text) :
    c ∉ needle.dropLast ↔ needle <+: skipped ++ [c] := by
  constructor
  · intro absent
    have upTo : skipped ++ [c] <+: skipped ++ c :: text := by simp
    rcases List.prefix_or_prefix_of_prefix starts upTo with within | ⟨rest, rfl⟩
    · exact within
    · cases rest with
      | nil => simp
      | cons d rest =>
        rw [List.dropLast_append_cons] at absent
        exact absurd (by simp) absent
  · intro within
    rcases List.prefix_concat_iff.1 within with rfl | short
    · rwa [List.dropLast_concat]
    · intro mem
      exact free (short.subset (List.dropLast_subset _ mem))

end Start

/-! ## Replacing -/

/-- Replacing a single character looks at each character on its own. -/
theorem replaceAll_singleton (old : Char) (new text : List Char) :
    replaceAll [old] new text = text.flatMap fun c ↦ if c = old then new else [c] := by
  induction text with
  | nil => simp [replaceAll]
  | cons c cs ih =>
    rw [replaceAll, List.flatMap_cons]
    by_cases h : c = old
    · simp [h, ih]
    · simp [h, Ne.symm h, ih]

theorem replaceAll_append {old : List Char} (nonempty : old ≠ []) (new rest : List Char) :
    replaceAll old new (old ++ rest) = new ++ replaceAll old new rest := by
  obtain ⟨c, cs, rfl⟩ := List.exists_cons_of_ne_nil nonempty
  rw [List.cons_append, replaceAll, ← List.cons_append, if_pos, List.drop_left]
  exact ⟨nonempty, List.isPrefixOf_iff_prefix.2 (List.prefix_append _ _)⟩

theorem replaceAll_cons {old new cs : List Char} {c : Char}
    (absent : ¬(old ≠ [] ∧ old <+: c :: cs)) :
    replaceAll old new (c :: cs) = c :: replaceAll old new cs := by
  rw [replaceAll, if_neg]
  rwa [List.isPrefixOf_iff_prefix]

/-! ## Taking off the ends -/

theorem dropStart?_eq_some_iff {start text rest : List Char} :
    dropStart? start text = some rest ↔ text = start ++ rest := by
  rw [dropStart?]
  constructor
  · intro h
    split at h
    · rename_i starts
      obtain ⟨tail, rfl⟩ := List.isPrefixOf_iff_prefix.1 starts
      simp_all
    · simp at h
  · rintro rfl
    simp

theorem dropEnd?_eq_some_iff {stop text rest : List Char} :
    dropEnd? stop text = some rest ↔ text = rest ++ stop := by
  simp only [dropEnd?, Option.map_eq_some_iff, dropStart?_eq_some_iff]
  constructor
  · rintro ⟨tail, h, rfl⟩
    have := congrArg List.reverse h
    simpa using this
  · rintro rfl
    exact ⟨rest.reverse, by simp, by simp⟩

/-! ## Cutting into pieces -/

theorem pieces_ne_nil (sep : Char) (text : List Char) : pieces sep text ≠ [] := by
  cases text with
  | nil => simp [pieces]
  | cons c cs =>
    rw [pieces]
    split
    · simp
    · split <;> simp

theorem pieces_cons_of_ne {sep c : Char} (h : c ≠ sep) (cs : List Char) :
    ∃ piece others, pieces sep cs = piece :: others ∧
      pieces sep (c :: cs) = (c :: piece) :: others := by
  obtain ⟨piece, others, found⟩ := List.exists_cons_of_ne_nil (pieces_ne_nil sep cs)
  exact ⟨piece, others, found, by rw [pieces, if_neg h, found]⟩

theorem sep_notMem_of_mem_pieces {sep : Char} {text piece : List Char}
    (h : piece ∈ pieces sep text) : sep ∉ piece := by
  induction text generalizing piece with
  | nil =>
    obtain rfl : piece = [] := by simpa [pieces] using h
    simp
  | cons c cs ih =>
    by_cases same : c = sep
    · rw [pieces, if_pos same] at h
      rcases List.mem_cons.1 h with rfl | h
      · simp
      · exact ih h
    · obtain ⟨first, others, found, cut⟩ := pieces_cons_of_ne same cs
      rw [found] at ih
      rw [cut] at h
      rcases List.mem_cons.1 h with rfl | h
      · simp [Ne.symm same, ih List.mem_cons_self]
      · exact ih (List.mem_cons_of_mem _ h)

theorem pieces_append_cons {sep : Char} {piece : List Char} (h : sep ∉ piece) (text : List Char) :
    pieces sep (piece ++ sep :: text) = piece :: pieces sep text := by
  induction piece with
  | nil => simp [pieces]
  | cons c cs ih =>
    obtain ⟨ne, free⟩ : ¬sep = c ∧ sep ∉ cs := by simpa using h
    rw [List.cons_append, pieces, if_neg (Ne.symm ne), ih free]

/-- A text is cut at a separator into the pieces before it and those behind it. -/
theorem pieces_append_sep (sep : Char) (before text : List Char) :
    pieces sep (before ++ sep :: text) = pieces sep before ++ pieces sep text := by
  induction before with
  | nil => simp [pieces]
  | cons c cs ih =>
    by_cases same : c = sep
    · rw [List.cons_append, pieces, if_pos same, ih, pieces, if_pos same, List.cons_append]
    · obtain ⟨piece, others, found, cut⟩ := pieces_cons_of_ne same cs
      rw [List.cons_append, pieces, if_neg same, ih, found, cut]
      rfl

theorem pieces_of_notMem {sep : Char} {piece : List Char} (h : sep ∉ piece) :
    pieces sep piece = [piece] := by
  induction piece with
  | nil => rfl
  | cons c cs ih =>
    obtain ⟨ne, free⟩ : ¬sep = c ∧ sep ∉ cs := by simpa using h
    rw [pieces, if_neg (Ne.symm ne), ih free]

/-- Pieces that have been joined come apart again. -/
theorem pieces_intercalate {sep : Char} {parts : List (List Char)} (nonempty : parts ≠ [])
    (free : ∀ part ∈ parts, sep ∉ part) : pieces sep ([sep].intercalate parts) = parts := by
  induction parts with
  | nil => exact absurd rfl nonempty
  | cons part parts ih =>
    obtain ⟨first, others⟩ := List.forall_mem_cons.1 free
    by_cases last : parts = []
    · subst last
      rw [List.intercalate_singleton, pieces_of_notMem first]
    · rw [List.intercalate_cons_of_ne_nil last, List.append_assoc, List.singleton_append,
        pieces_append_cons first, ih last others]

/-- Joining the pieces of a text gives the text back. -/
theorem intercalate_pieces (sep : Char) (text : List Char) :
    [sep].intercalate (pieces sep text) = text := by
  induction text with
  | nil => simp [pieces]
  | cons c cs ih =>
    by_cases same : c = sep
    · rw [pieces, if_pos same, List.intercalate_cons_of_ne_nil (pieces_ne_nil sep cs), ih, same]
      rfl
    · obtain ⟨piece, others, found, cut⟩ := pieces_cons_of_ne same cs
      rw [found] at ih
      rw [cut, ← ih]
      by_cases last : others = []
      · simp [last]
      · simp [List.intercalate_cons_of_ne_nil last]

/-! ## Endings -/

/-- An ending without `c` does not reach back over a `c`. -/
theorem suffix_append_cons_iff {c : Char} {ending text : List Char} (h : c ∉ ending)
    (before : List Char) : ending <:+ before ++ c :: text ↔ ending <:+ text := by
  constructor
  · intro ends
    rcases List.suffix_or_suffix_of_suffix ends (List.suffix_append before (c :: text)) with
      within | beyond
    · rcases List.suffix_cons_iff.1 within with rfl | within
      · exact absurd List.mem_cons_self h
      · exact within
    · exact absurd (beyond.subset List.mem_cons_self) h
  · intro ends
    exact ends.trans ((List.suffix_cons c text).trans (List.suffix_append before _))

/-- Taking `c` off the front of a text leaves its endings without `c` as they are. -/
theorem suffix_dropWhile_iff {c : Char} {ending : List Char} (h : c ∉ ending) (text : List Char) :
    ending <:+ text.dropWhile (· = c) ↔ ending <:+ text := by
  induction text with
  | nil => rfl
  | cons d ds ih =>
    rw [List.dropWhile_cons]
    split
    · rename_i same
      obtain rfl : d = c := by simpa using same
      rw [ih, ← suffix_append_cons_iff h []]
      rfl
    · rfl

/-! ## Trimming -/

/-- A text of one character, again and again. -/
def row (c : Char) (count : Nat) : String := String.ofList (List.replicate count c)

section Trim

variable (c : Char) (text : String) (count : Nat)

theorem dropWhile_replicate_append (chars : List Char) :
    (List.replicate count c ++ chars).dropWhile (· = c) = chars.dropWhile (· = c) :=
  List.dropWhile_append_of_pos fun d mem ↦ by simp [List.eq_of_mem_replicate mem]

theorem exists_eq_replicate_append (chars : List Char) :
    ∃ count, chars = List.replicate count c ++ chars.dropWhile (· = c) := by
  induction chars with
  | nil => exact ⟨0, rfl⟩
  | cons d chars ih =>
    by_cases same : d = c
    · obtain ⟨count, split⟩ := ih
      refine ⟨count + 1, ?_⟩
      rw [List.dropWhile_cons_of_pos (by simpa using same), List.replicate_succ, List.cons_append,
        ← split, same]
    · exact ⟨0, by rw [List.dropWhile_cons_of_neg (by simpa using same)]; rfl⟩

theorem head?_dropWhile_ne (chars : List Char) : (chars.dropWhile (· = c)).head? ≠ some c := by
  intro starts
  have := List.head?_dropWhile_not (· = c) chars
  simp [starts] at this

theorem trimStart_row_append : trimStart c (row c count ++ text) = trimStart c text := by
  rw [trimStart, row, String.toList_append, String.toList_ofList, dropWhile_replicate_append]
  rfl

theorem trimEnd_append_row : trimEnd c (text ++ row c count) = trimEnd c text := by
  rw [trimEnd, row, String.toList_append, String.toList_ofList, List.reverse_append,
    List.reverse_replicate, dropWhile_replicate_append]
  rfl

theorem exists_eq_row_append_trimStart : ∃ count, text = row c count ++ trimStart c text := by
  obtain ⟨count, split⟩ := exists_eq_replicate_append c text.toList
  refine ⟨count, String.toList_inj.1 ?_⟩
  rwa [row, trimStart, String.toList_append, String.toList_ofList, String.toList_ofList]

theorem exists_eq_trimEnd_append_row : ∃ count, text = trimEnd c text ++ row c count := by
  obtain ⟨count, split⟩ := exists_eq_replicate_append c text.toList.reverse
  refine ⟨count, String.toList_inj.1 ?_⟩
  rw [row, trimEnd, String.toList_append, String.toList_ofList, String.toList_ofList,
    ← List.reverse_replicate, ← List.reverse_append, ← split, List.reverse_reverse]

theorem head?_trimStart_ne : (trimStart c text).toList.head? ≠ some c := by
  rw [trimStart, String.toList_ofList]
  exact head?_dropWhile_ne c _

theorem getLast?_trimEnd_ne : (trimEnd c text).toList.getLast? ≠ some c := by
  rw [trimEnd, String.toList_ofList, List.getLast?_reverse]
  exact head?_dropWhile_ne c _

end Trim

end SoloScript.Text
