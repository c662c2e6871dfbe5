import Mathlib.Order.Bounds.Basic
import Mathlib.Order.Nat
import SoloScript.Proofs.Script.Body
import SoloScript.Proofs.Text.Utf8
import SoloScript.Script.Assemble

/-!
# The offsets of a body

A body is located by the offsets of its two ends among the bytes of a source.  They are told by
the braces alone: the first opening brace from the anchor on, and the first closing brace behind it
that closes more than has been opened.  Since braces are single bytes, a bound that cuts a
character makes no difference.
-/

namespace SoloScript.Script

open SoloScript.Text Outcome

/-- The offsets of a body: just past its opening brace, and of its closing one. -/
structure Span where
  start : Nat
  stop : Nat
deriving DecidableEq, Repr

namespace Body

def span (body : Body) : Span := ⟨body.start, body.stop⟩

/-- The offsets of the body behind an anchor. -/
def locate (bound : Nat) (source anchor : String) : Except Failure Span :=
  ((find source anchor bound).map span).mapError (.body anchor)

end Body

/-! ## Braces among bytes -/

/-- The first opening brace from `first` up to `limit` is at `position`. -/
def OpensAt (source : List UInt8) (first limit position : Nat) : Prop :=
  IsLeast {i | first ≤ i ∧ i < limit ∧ source[i]? = some '{'.toUInt8} position

/-- The first opening brace from `first` up to `limit` is right before the span, the span is
balanced, and a closing brace, still before `limit`, ends it. -/
structure Span.Encloses (span : Span) (source : List UInt8) (first limit : Nat) : Prop where
  positive : 0 < span.start
  opens : OpensAt source first limit (span.start - 1)
  ordered : span.start ≤ span.stop
  inside : span.stop < limit
  closes : source[span.stop]? = some '}'.toUInt8
  balanced : Balanced '{'.toUInt8 '}'.toUInt8 (source.extract span.start span.stop)

/-- From `first` up to `limit` nothing is opened, or nowhere behind the first opening brace more is
closed than opened. -/
def StaysOpen (source : List UInt8) (first limit : Nat) : Prop :=
  (∀ i, first ≤ i → i < limit → source[i]? ≠ some '{'.toUInt8) ∨
    ∃ position, OpensAt source first limit position ∧
      ∀ part, part <+: source.extract (position + 1) limit →
        part.count '}'.toUInt8 ≤ part.count '{'.toUInt8

theorem isAscii_opening : Utf8.IsAscii '{' := (by decide : '{'.val < 0x80)

theorem isAscii_closing : Utf8.IsAscii '}' := (by decide : '}'.val < 0x80)

theorem openingByte_ne_closingByte : '{'.toUInt8 ≠ '}'.toUInt8 := by decide

section Bytes

variable {source inner rest : List UInt8} {byte : UInt8} {first limit start stop : Nat}

/-- What reaches past `stop` goes on with the byte there. -/
theorem extract_eq_append_cons (ordered : start ≤ stop) (inside : stop < limit)
    (found : source[stop]? = some byte) :
    source.extract start limit =
      source.extract start stop ++ byte :: source.extract (stop + 1) limit := by
  obtain ⟨there, rfl⟩ := List.getElem?_eq_some_iff.1 found
  have cut : limit - start = (stop - start) + ((limit - (stop + 1)) + 1) := by omega
  have behind : start + (stop - start) = stop := by omega
  rw [List.extract_eq_take_drop, List.extract_eq_take_drop, List.extract_eq_take_drop, cut,
    List.take_add, List.drop_drop, behind, List.drop_eq_getElem_cons there, List.take_succ_cons]

theorem getElem?_of_extract_eq (h : source.extract start limit = inner ++ byte :: rest) :
    start + inner.length < limit ∧ source[start + inner.length]? = some byte ∧
      source.extract start (start + inner.length) = inner := by
  rw [List.extract_eq_take_drop] at h
  have there : ((source.drop start).take (limit - start))[inner.length]? = some byte := by
    rw [h]
    simp
  rw [List.getElem?_take] at there
  split at there
  · rename_i inside
    rw [List.getElem?_drop] at there
    refine ⟨by omega, there, ?_⟩
    have taken := congrArg (List.take inner.length) h
    rw [List.take_take, List.take_left, Nat.min_eq_left (Nat.le_of_lt inside)] at taken
    rw [List.extract_eq_take_drop, Nat.add_sub_cancel_left, taken]
  · cases there

theorem exists_opensAt (h : ∃ i, first ≤ i ∧ i < limit ∧ source[i]? = some '{'.toUInt8) :
    ∃ position, OpensAt source first limit position := by
  classical
  exact ⟨Nat.find h, Nat.isLeast_find h⟩

/-- Nothing is enclosed exactly if nothing is opened, or it is never closed. -/
theorem staysOpen_iff :
    StaysOpen source first limit ↔ ∀ span : Span, ¬span.Encloses source first limit := by
  constructor
  · rintro (nothing | ⟨position, opens, open_⟩) span h
    · obtain ⟨from_, before, found⟩ := h.opens.1
      exact nothing _ from_ before found
    · obtain rfl := IsLeast.unique opens h.opens
      have closed := (exists_closes_iff openingByte_ne_closingByte).1
        ⟨_, _, extract_eq_append_cons h.ordered h.inside h.closes, closes_zero_iff.2 h.balanced⟩
      obtain ⟨part, starts, more⟩ := closed
      rw [← Nat.sub_add_cancel h.positive] at starts
      have := open_ part starts
      omega
  · intro none
    by_contra stays
    obtain ⟨opens, closes⟩ := not_or.1 stays
    simp only [not_forall, not_not] at opens
    obtain ⟨i, from_, before, found⟩ := opens
    obtain ⟨position, least⟩ := exists_opensAt ⟨i, from_, before, found⟩
    have closes : ¬∀ part, part <+: source.extract (position + 1) limit →
        part.count '}'.toUInt8 ≤ part.count '{'.toUInt8 :=
      fun stays ↦ closes ⟨position, least, stays⟩
    simp only [not_forall, Nat.not_le] at closes
    obtain ⟨part, starts, more⟩ := closes
    rw [← Nat.add_zero (part.count _)] at more
    obtain ⟨inner, rest, split, closes⟩ :=
      (exists_closes_iff openingByte_ne_closingByte).2 ⟨part, starts, more⟩
    obtain ⟨inside, closing, cut⟩ := getElem?_of_extract_eq split
    refine none ⟨position + 1, position + 1 + inner.length⟩
      ⟨by simp, least, by simp, inside, closing, ?_⟩
    dsimp only
    rw [cut]
    exact closes_zero_iff.1 closes

end Bytes

/-! ## From characters to bytes -/

section Characters

variable {text before inner : List Char} {bound : Nat} {span : Span}

theorem balanced_bytes_iff :
    Balanced '{'.toUInt8 '}'.toUInt8 (Utf8.bytes inner) ↔ Balanced '{' '}' inner := by
  constructor
  · intro h
    refine ⟨?_, fun first starts ↦ ?_⟩
    · have total := h.total
      rwa [Utf8.count_bytes isAscii_opening, Utf8.count_bytes isAscii_closing] at total
    · obtain ⟨rest, rfl⟩ := starts
      have nested := h.nested (Utf8.bytes first) (by simp)
      rwa [Utf8.count_bytes isAscii_opening, Utf8.count_bytes isAscii_closing] at nested
  · intro h
    refine ⟨?_, fun part starts ↦ ?_⟩
    · rw [Utf8.count_bytes isAscii_opening, Utf8.count_bytes isAscii_closing]
      exact h.total
    · obtain ⟨first, starts, same⟩ := Utf8.exists_prefix_of_prefix_bytes starts
      rw [same _ isAscii_opening, same _ isAscii_closing]
      exact h.nested first starts

/-- The first opening brace of a text is the first one from there on in the text as a whole. -/
theorem opensAt_bytes_iff {limit position : Nat} :
    OpensAt (Utf8.bytes (before ++ text)) (Utf8.size before) limit position ↔
      position < limit ∧ ∃ skipped rest, text = skipped ++ '{' :: rest ∧ '{' ∉ skipped ∧
        Utf8.size before + Utf8.size skipped = position := by
  constructor
  · rintro ⟨⟨from_, below, found⟩, least⟩
    obtain ⟨skipped, rest, rfl, rfl⟩ :=
      (Utf8.getElem?_bytes_append_eq_some_iff isAscii_opening from_).1 found
    refine ⟨below, skipped, rest, rfl, fun mem ↦ ?_, rfl⟩
    obtain ⟨init, more, rfl⟩ := List.append_of_mem mem
    rw [Utf8.size_append, Utf8.size_cons, Body.utf8Size_opening] at below least
    have := least ⟨Nat.le_add_right _ _, by omega,
      (Utf8.getElem?_bytes_append_eq_some_iff isAscii_opening (Nat.le_add_right _ _)).2
        ⟨init, more ++ '{' :: rest, by simp, rfl⟩⟩
    omega
  · rintro ⟨below, skipped, rest, rfl, free, rfl⟩
    refine ⟨⟨Nat.le_add_right _ _, below,
      (Utf8.getElem?_bytes_append_eq_some_iff isAscii_opening (Nat.le_add_right _ _)).2
        ⟨skipped, rest, rfl, rfl⟩⟩, ?_⟩
    rintro i ⟨from_, -, found⟩
    obtain ⟨other, more, split, rfl⟩ :=
      (Utf8.getElem?_bytes_append_eq_some_iff isAscii_opening from_).1 found
    rcases List.append_eq_append_iff.1 split with ⟨between, rfl, -⟩ | ⟨between, rfl, same⟩
    · simp
    · cases between with
      | nil => simp
      | cons c between =>
        obtain ⟨rfl, -⟩ := List.cons.inj same
        simp at free

/-- The bytes that are enclosed are those of the body. -/
theorem encloses_iff :
    span.Encloses (Utf8.bytes (before ++ text)) (Utf8.size before)
        (min (Utf8.size (before ++ text)) (Utf8.size before + bound)) ↔
      ∃ body : Body, body.Heads bound text ∧ (body.behind before).span = span := by
  obtain ⟨start, stop⟩ := span
  have brace := Body.utf8Size_opening
  constructor
  · rintro ⟨positive, opens, ordered, inside, closes, balanced⟩
    dsimp only at positive opens ordered inside closes balanced
    obtain ⟨-, skipped, rest, rfl, free, place⟩ := opensAt_bytes_iff.1 opens
    have split : before ++ (skipped ++ '{' :: rest) = before ++ (skipped ++ ['{']) ++ rest := by
      simp
    have ends : Utf8.size (before ++ (skipped ++ ['{'])) = start := by
      simp [brace]
      omega
    rw [split, Utf8.getElem?_bytes_append_eq_some_iff isAscii_closing (ends ▸ ordered)] at closes
    obtain ⟨inner, tail, rfl, rfl⟩ := closes
    subst ends
    rw [split, ← List.append_assoc, Utf8.extract_bytes_append, balanced_bytes_iff] at balanced
    refine ⟨⟨skipped ++ ['{'], inner, '}' :: tail⟩,
      ⟨⟨skipped, rfl, free⟩, ⟨tail, rfl⟩, by simp, balanced, ?_⟩, rfl⟩
    simp [brace] at inside ⊢
    omega
  · rintro ⟨⟨_, inner, _⟩, ⟨⟨skipped, rfl, free⟩, ⟨tail, rfl⟩, rfl, balanced, fits⟩, same⟩
    obtain ⟨rfl, rfl⟩ : Utf8.size (before ++ (skipped ++ ['{'])) = start ∧
        Utf8.size (before ++ (skipped ++ ['{'])) + Utf8.size inner = stop :=
      Span.mk.inj same
    have split : before ++ (skipped ++ ['{'] ++ inner ++ '}' :: tail) =
        before ++ (skipped ++ ['{']) ++ inner ++ '}' :: tail := by
      simp
    have wide := '}'.utf8Size_pos
    dsimp only at balanced fits ⊢
    simp only [Utf8.size_append, Utf8.size_cons, Utf8.size_nil, brace] at fits
    refine ⟨?_, opensAt_bytes_iff.2 ⟨?_, skipped, inner ++ '}' :: tail, by simp, free, ?_⟩, ?_, ?_,
      ?_, ?_⟩
    · simp only [Utf8.size_append, Utf8.size_cons, Utf8.size_nil, brace]
      omega
    · simp only [Utf8.size_append, Utf8.size_cons, Utf8.size_nil, brace]
      omega
    · simp only [Utf8.size_append, Utf8.size_cons, Utf8.size_nil, brace]
      omega
    · exact Nat.le_add_right _ _
    · simp only [Utf8.size_append, Utf8.size_cons, Utf8.size_nil, brace]
      omega
    · rw [split, List.append_assoc,
        Utf8.getElem?_bytes_append_eq_some_iff isAscii_closing (Nat.le_add_right _ _)]
      exact ⟨inner, tail, rfl, rfl⟩
    · rwa [split, Utf8.extract_bytes_append, balanced_bytes_iff]

end Characters

/-! ## Locating and replacing -/

variable {source anchor : String} {before : List Char} {bound : Nat}

theorem locate_eq_ok_iff {span : Span} :
    Body.locate bound source anchor = .ok span ↔
      ∃ body, Body.find source anchor bound = .ok body ∧ body.span = span := by
  rw [Body.locate, mapError_eq_ok_iff, map_eq_ok_iff]

/-- Located are the bytes that are enclosed from the anchor on. -/
theorem locate_eq_ok_iff_encloses (first : FirstBehind anchor.toList source.toList before)
    {span : Span} :
    Body.locate bound source anchor = .ok span ↔
      span.Encloses (Utf8.encode source) (Utf8.size before)
        (min (Utf8.encode source).length (Utf8.size before + bound)) := by
  obtain ⟨after, split⟩ := first.occurs
  rw [List.append_assoc] at split
  rw [Utf8.encode_eq_bytes, Utf8.length_bytes, ← split, encloses_iff, locate_eq_ok_iff]
  simp only [Body.find_eq_ok_iff_heads first split.symm]
  constructor
  · rintro ⟨_, ⟨body, heads, rfl⟩, same⟩
    exact ⟨body, heads, same⟩
  · rintro ⟨body, heads, same⟩
    exact ⟨_, ⟨body, heads, rfl⟩, same⟩

/-- If nothing is enclosed, all bytes within the bound have been scanned. -/
theorem locate_eq_error_iff (first : FirstBehind anchor.toList source.toList before) :
    Body.locate bound source anchor = .error (.body anchor (.unbalanced
        (min (Utf8.encode source).length (Utf8.size before + bound) - Utf8.size before))) ↔
      ∀ span : Span, ¬span.Encloses (Utf8.encode source) (Utf8.size before)
        (min (Utf8.encode source).length (Utf8.size before + bound)) := by
  constructor
  · intro failed span h
    rw [← locate_eq_ok_iff_encloses first, failed] at h
    cases h
  · intro none
    obtain ⟨after, split⟩ := first.occurs
    rw [List.append_assoc] at split
    rw [Utf8.encode_eq_bytes, Utf8.length_bytes, ← split] at none ⊢
    have unscanned : ∀ body : Body, ¬body.Heads bound (anchor.toList ++ after) :=
      fun body heads ↦ none _ (encloses_iff.2 ⟨body, heads, rfl⟩)
    have scanned : min (Utf8.size (before ++ (anchor.toList ++ after))) (Utf8.size before + bound)
        - Utf8.size before = min bound (Utf8.size (anchor.toList ++ after)) := by
      rw [Utf8.size_append before]
      omega
    rw [scanned, Body.locate, Body.find_of_not_heads first split.symm unscanned]
    rfl

/-- A replacement takes the place of the bytes that are located. -/
theorem map_encode_braces (source anchor replacement : String) (bound : Nat) :
    (Replacer.braces bound source anchor replacement).map Utf8.encode =
      (Body.locate bound source anchor).map fun span ↦
        (Utf8.encode source).take span.start ++ Utf8.encode replacement ++
          (Utf8.encode source).drop span.stop := by
  rw [Replacer.braces, Body.replace, Body.locate]
  cases found : Body.find source anchor bound with
  | error missing => rfl
  | ok body =>
    have whole := Body.whole_of_find found
    have start := Utf8.take_bytes_append body.before (body.inner ++ body.after)
    have stop := Utf8.drop_bytes_append (body.before ++ body.inner) body.after
    rw [← List.append_assoc, ← whole] at start
    rw [← whole, Utf8.size_append] at stop
    change Except.ok (Utf8.encode (body.splice replacement)) = Except.ok _
    simp only [Body.span, Body.start, Body.stop, Utf8.encode_eq_bytes, start, stop, Body.splice,
      String.toList_ofList, Utf8.bytes_append]

/-- Either the anchor is not in the source, or it first occurs behind some text.  In that case the
body is located exactly at the span that is enclosed from the anchor on and within the bound, and
there is at most one.  If there is none, all bytes from the anchor on and within the bound have
been scanned in vain, and that is so exactly if nothing is opened there or it is never closed.  The
replacement fails in the same way, and otherwise takes the place of the located bytes. -/
theorem locates_enclosed_span (source anchor : String) (bound : Nat) :
    (¬anchor.toList <:+: source.toList ∧
        Body.locate bound source anchor = .error (.body anchor .noAnchor) ∨
      ∃ before, FirstBehind anchor.toList source.toList before ∧
        let first := Utf8.size before
        let limit := min (Utf8.encode source).length (first + bound)
        let failure := Failure.body anchor (.unbalanced (limit - first))
        (∀ span, Body.locate bound source anchor = .ok span ↔
          span.Encloses (Utf8.encode source) first limit) ∧
        {span : Span | span.Encloses (Utf8.encode source) first limit}.Subsingleton ∧
        (Body.locate bound source anchor = .error failure ↔
          ∀ span : Span, ¬span.Encloses (Utf8.encode source) first limit) ∧
        (Body.locate bound source anchor = .error failure ↔
          StaysOpen (Utf8.encode source) first limit)) ∧
    ∀ replacement, (Replacer.braces bound source anchor replacement).map Utf8.encode =
      (Body.locate bound source anchor).map fun span ↦
        (Utf8.encode source).take span.start ++ Utf8.encode replacement ++
          (Utf8.encode source).drop span.stop := by
  refine ⟨?_, fun replacement ↦ map_encode_braces source anchor replacement bound⟩
  by_cases occurs : anchor.toList <:+: source.toList
  · obtain ⟨before, first⟩ := exists_firstBehind occurs
    refine .inr ⟨before, first, fun span ↦ locate_eq_ok_iff_encloses first,
      fun span h other h' ↦ ?_, ?_, ?_⟩
    · have located := (locate_eq_ok_iff_encloses first).2 h
      rw [(locate_eq_ok_iff_encloses first).2 h'] at located
      exact (Except.ok.inj located).symm
    · exact locate_eq_error_iff first
    · rw [staysOpen_iff]
      exact locate_eq_error_iff first
  · refine .inl ⟨occurs, ?_⟩
    rw [Body.locate, Body.find_eq_noAnchor_iff.2 occurs]
    rfl

example : Body.locate 64 "\x7d foo()\x7b if(x)\x7by\x7d; \x7d" "foo" = .ok ⟨8, 19⟩ := by cbv

end SoloScript.Script
