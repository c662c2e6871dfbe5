import Mathlib.Data.Nat.PSub
import SoloScript.Proofs.Script.Commutation

/-!
# Scanning bytes

Byte by byte, a scan is a counter: it looks for an opening brace and then counts the depth up and
down, until the brace that opened the body is closed.  Here the counter and the cuts are partial: no
number is taken from a smaller one, and a text is only cut between two of its characters.  A scan
and a replacement of that kind still have a result for every text, anchor and bound, and it is the
same as on characters.
-/

namespace SoloScript.Script

open SoloScript.Text Outcome

/-! ## One byte after another -/

/-- Where a scan stands. -/
inductive Scan where
  | seeking
  /-- In a body that begins at `start`, with `depth` braces open, its own one included. -/
  | inside (start depth : Nat)
  | closed (span : Span)
deriving DecidableEq, Repr

namespace Scan

/-- What the byte at `position` makes of a scan. -/
def step (position : Nat) (byte : UInt8) : Scan → Option Scan
  | seeking => some (if byte = '{'.toUInt8 then inside (position + 1) 1 else seeking)
  | inside start depth =>
    if byte = '{'.toUInt8 then some (inside start (depth + 1))
    else if byte = '}'.toUInt8 then
      if depth = 1 then some (closed ⟨start, position⟩) else (depth.psub 1).map (inside start)
    else some (inside start depth)
  | closed span => some (closed span)

/-- What bytes make of a scan, the first of which is at `position`. -/
def run (position : Nat) : List UInt8 → Scan → Option Scan
  | [], scan => some scan
  | byte :: bytes, scan => (scan.step position byte).bind (run (position + 1) bytes)

/-! ## What a scan knows -/

/-- What a scan that began at `first` knows of the bytes it has seen. -/
inductive Knows (first : Nat) (seen : List UInt8) : Scan → Prop
  | seeking (free : '{'.toUInt8 ∉ seen) : Knows first seen seeking
  | inside {skipped inner : List UInt8} {depth : Nat}
      (split : seen = skipped ++ '{'.toUInt8 :: inner) (free : '{'.toUInt8 ∉ skipped)
      (total : inner.count '{'.toUInt8 + 1 = inner.count '}'.toUInt8 + depth)
      (nested : ∀ part, part <+: inner → part.count '}'.toUInt8 ≤ part.count '{'.toUInt8) :
      Knows first seen (inside (first + skipped.length + 1) depth)
  | closed {skipped inner rest : List UInt8}
      (split : seen = skipped ++ '{'.toUInt8 :: (inner ++ '}'.toUInt8 :: rest))
      (free : '{'.toUInt8 ∉ skipped) (balanced : Balanced '{'.toUInt8 '}'.toUInt8 inner) :
      Knows first seen
        (closed ⟨first + skipped.length + 1, first + skipped.length + 1 + inner.length⟩)

variable {first start depth : Nat} {seen : List UInt8} {scan : Scan}

/-- In a body the depth is never zero, and no count is beyond the bytes that have been seen. -/
theorem Knows.counts (h : Knows first seen (.inside start depth)) :
    0 < start ∧ 1 ≤ depth ∧ start + depth ≤ first + seen.length + 1 := by
  cases h with
  | @inside skipped inner _ split free total nested =>
    have whole := nested inner List.prefix_rfl
    have opened : inner.count '{'.toUInt8 ≤ inner.length := List.count_le_length
    have length : seen.length = skipped.length + (inner.length + 1) := by
      rw [split, List.length_append, List.length_cons]
    omega

/-- In a body that stays open the depth changes by what a byte opens and closes. -/
theorem Knows.inside_append {byte : UInt8} {depth' : Nat}
    (h : Knows first seen (.inside start depth))
    (change : [byte].count '}'.toUInt8 + depth' = [byte].count '{'.toUInt8 + depth)
    (stays : 1 ≤ depth') : Knows first (seen ++ [byte]) (.inside start depth') := by
  cases h with
  | @inside skipped inner _ split free total nested =>
    have more : seen ++ [byte] = skipped ++ '{'.toUInt8 :: (inner ++ [byte]) := by simp [split]
    have total' : (inner ++ [byte]).count '{'.toUInt8 + 1 =
        (inner ++ [byte]).count '}'.toUInt8 + depth' := by
      rw [List.count_append, List.count_append]
      omega
    refine .inside more free total' fun part starts ↦ ?_
    rcases List.prefix_concat_iff.1 starts with rfl | shorter
    · omega
    · exact nested part shorter

/-- The closing brace at depth one ends the body. -/
theorem Knows.closed_append (h : Knows first seen (.inside start 1)) :
    Knows first (seen ++ ['}'.toUInt8]) (.closed ⟨start, first + seen.length⟩) := by
  cases h with
  | @inside skipped inner _ split free total nested =>
    have stop : first + seen.length = first + skipped.length + 1 + inner.length := by
      rw [split, List.length_append, List.length_cons]
      omega
    have ended : seen ++ ['}'.toUInt8] =
        skipped ++ '{'.toUInt8 :: (inner ++ '}'.toUInt8 :: []) := by
      simp [split]
    rw [stop]
    exact .closed ended free ⟨by omega, nested⟩

/-- A byte is taken in whatever it is, and the scan knows one byte more. -/
theorem Knows.step (h : Knows first seen scan) (byte : UInt8) :
    ∃ next, scan.step (first + seen.length) byte = some next ∧
      Knows first (seen ++ [byte]) next := by
  have apart := openingByte_ne_closingByte
  cases scan with
  | seeking =>
    obtain ⟨free⟩ := h
    by_cases opens : byte = '{'.toUInt8
    · subst opens
      exact ⟨.inside (first + seen.length + 1) 1, by simp only [Scan.step, if_pos],
        .inside rfl free (by simp) (by simp)⟩
    · refine ⟨.seeking, by simp only [Scan.step, if_neg opens], .seeking ?_⟩
      simp [free, Ne.symm opens]
  | inside start depth =>
    have positive := h.counts.2.1
    by_cases opens : byte = '{'.toUInt8
    · subst opens
      refine ⟨.inside start (depth + 1), by simp only [Scan.step, if_pos], ?_⟩
      exact h.inside_append (by simp [apart, Nat.add_comm]) (by omega)
    by_cases closes : byte = '}'.toUInt8
    · subst closes
      by_cases last : depth = 1
      · subst last
        exact ⟨.closed ⟨start, first + seen.length⟩,
          by simp only [Scan.step, if_neg opens, if_pos], h.closed_append⟩
      · have lower : depth.psub 1 = some (depth - 1) := Nat.psub_eq_sub positive
        refine ⟨.inside start (depth - 1), ?_, h.inside_append ?_ (by omega)⟩
        · simp only [Scan.step, if_neg opens, if_pos, if_neg last, lower, Option.map_some]
        · simp only [List.count_singleton_self, List.count_singleton, beq_false_of_ne apart.symm,
            Bool.false_eq_true, if_false]
          omega
    · refine ⟨.inside start depth, by simp only [Scan.step, if_neg opens, if_neg closes], ?_⟩
      exact h.inside_append (by simp [opens, closes]) positive
  | closed span =>
    cases h with
    | @closed skipped inner rest split free balanced =>
      have more : seen ++ [byte] =
          skipped ++ '{'.toUInt8 :: (inner ++ '}'.toUInt8 :: (rest ++ [byte])) := by
        simp [split]
      exact ⟨_, rfl, .closed more free balanced⟩

/-- A scan takes in all bytes, whatever they are. -/
theorem Knows.run (h : Knows first seen scan) (bytes : List UInt8) :
    ∃ last, scan.run (first + seen.length) bytes = some last ∧
      Knows first (seen ++ bytes) last := by
  induction bytes generalizing seen scan with
  | nil => exact ⟨scan, rfl, by simpa using h⟩
  | cons byte bytes ih =>
    obtain ⟨next, stepped, known⟩ := h.step byte
    obtain ⟨last, finished, known'⟩ := ih known
    refine ⟨last, ?_, by simpa using known'⟩
    rw [Scan.run, stepped, Option.bind_some]
    simpa [Nat.add_assoc] using finished

theorem exists_run (first : Nat) (bytes : List UInt8) :
    ∃ last, seeking.run first bytes = some last ∧ Knows first bytes last := by
  have nothing : Knows first [] .seeking := .seeking List.not_mem_nil
  exact nothing.run bytes

/-! ## Where a scan ends -/

variable {source : List UInt8} {limit : Nat} {span : Span}

/-- A byte at an offset in between is among the bytes in between. -/
theorem mem_extract_of_getElem? {byte : UInt8} {i : Nat} (behind : first ≤ i) (inside : i < limit)
    (found : source[i]? = some byte) : byte ∈ source.extract first limit := by
  obtain ⟨k, rfl⟩ := Nat.exists_eq_add_of_le behind
  have there : (source.extract first limit)[k]? = some byte := by
    rw [List.extract_eq_take_drop, List.getElem?_take_of_lt (by omega), List.getElem?_drop, found]
  exact List.mem_of_getElem? there

theorem extract_behind {front rest : List UInt8}
    (split : source.extract first limit = front ++ rest) :
    source.extract (first + front.length) limit = rest := by
  have dropped := congrArg (List.drop front.length) split
  rw [List.drop_left, List.extract_eq_take_drop, List.drop_take, List.drop_drop, Nat.sub_sub]
    at dropped
  rw [List.extract_eq_take_drop, dropped]

/-- The first opening brace is where the bytes without one end. -/
theorem opensAt_of_extract {skipped rest : List UInt8}
    (split : source.extract first limit = skipped ++ '{'.toUInt8 :: rest)
    (free : '{'.toUInt8 ∉ skipped) : OpensAt source first limit (first + skipped.length) := by
  obtain ⟨inside, found, before⟩ := getElem?_of_extract_eq split
  refine ⟨⟨Nat.le_add_right _ _, inside, found⟩, ?_⟩
  rintro i ⟨behind, -, found'⟩
  by_contra early
  apply free
  rw [← before]
  exact mem_extract_of_getElem? behind (Nat.not_le.1 early) found'

theorem extract_opened {skipped rest : List UInt8}
    (split : source.extract first limit = skipped ++ '{'.toUInt8 :: rest) :
    source.extract (first + skipped.length + 1) limit = rest := by
  rw [List.append_cons] at split
  have behind := extract_behind split
  rwa [List.length_append, List.length_singleton, ← Nat.add_assoc] at behind

theorem Knows.encloses (h : Knows first (source.extract first limit) (.closed span)) :
    span.Encloses source first limit := by
  cases h with
  | @closed skipped inner rest split free balanced =>
    have opens := opensAt_of_extract split free
    obtain ⟨inside, closes, cut⟩ := getElem?_of_extract_eq (extract_opened split)
    refine ⟨Nat.succ_pos _, opens, Nat.le_add_right _ _, inside, closes, ?_⟩
    rwa [cut]

theorem Knows.staysOpen (h : Knows first (source.extract first limit) scan)
    (open_ : ∀ span, scan ≠ .closed span) : StaysOpen source first limit := by
  cases h with
  | seeking free =>
    exact .inl fun i behind inside found ↦ free (mem_extract_of_getElem? behind inside found)
  | @inside skipped inner depth split free total nested =>
    refine .inr ⟨first + skipped.length, opensAt_of_extract split free, ?_⟩
    rw [extract_opened split]
    exact nested
  | @closed skipped inner rest split free balanced => exact absurd rfl (open_ _)

end Scan

/-! ## Cuts between characters -/

/-- The bytes of a text before and behind an offset, which must be between two of its characters. -/
def cutAt? (source : String) (offset : Nat) : Option (List UInt8 × List UInt8) :=
  if (String.Pos.Raw.mk offset).IsValid source then some ((Utf8.encode source).splitAt offset)
  else none

/-! ## Locating and replacing -/

/-- The offsets of the body behind an anchor, with each subtraction checked. -/
def locateBytes? (bound : Nat) (source anchor : String) : Option (Except Failure Span) :=
  match splitFirst anchor.toList source.toList with
  | none => some (.error (.body anchor .noAnchor))
  | some (before, _) => do
    let bytes := Utf8.encode source
    let first := Utf8.size before
    let limit := min bytes.length (first + bound)
    match ← Scan.seeking.run first ((bytes.take limit).drop first) with
    | .closed span => return .ok span
    | _ => return .error (.body anchor (.unbalanced (← limit.psub first)))

/-- The bytes of a text with another body behind an anchor, with each subtraction and each cut
checked.  The bytes that stay are counted before any of them is taken. -/
def replaceBytes? (bound : Nat) (source anchor replacement : String) :
    Option (Except Failure (List UInt8)) := do
  match ← locateBytes? bound source anchor with
  | .error failure => return .error failure
  | .ok span =>
    let replaced ← span.stop.psub span.start
    let _ ← (Utf8.encode source).length.psub replaced
    let (front, _) ← cutAt? source span.start
    let (_, back) ← cutAt? source span.stop
    return .ok (front ++ Utf8.encode replacement ++ back)

variable {source anchor replacement : String} {before : List Char} {bound : Nat} {span : Span}

/-- An anchor first occurs before the limit of its scan. -/
theorem size_le_limit (first : FirstBehind anchor.toList source.toList before) (bound : Nat) :
    Utf8.size before ≤ min (Utf8.encode source).length (Utf8.size before + bound) := by
  obtain ⟨after, split⟩ := first.occurs
  rw [Utf8.encode_eq_bytes, Utf8.length_bytes, ← split, List.append_assoc, Utf8.size_append]
  omega

theorem locateBytes?_eq (source anchor : String) (bound : Nat) :
    locateBytes? bound source anchor = some (Body.locate bound source anchor) := by
  rw [locateBytes?]
  cases found : splitFirst anchor.toList source.toList with
  | none =>
    have absent := splitFirst_eq_none_iff.1 found
    rw [Body.locate, Body.find_eq_noAnchor_iff.2 absent]
    rfl
  | some parts =>
    obtain ⟨before, text⟩ := parts
    have first := (firstBehind_of_splitFirst found).1
    dsimp only
    generalize limit_eq : min (Utf8.encode source).length (Utf8.size before + bound) = limit
    have le : Utf8.size before ≤ limit := limit_eq ▸ size_le_limit first bound
    have scanned : ((Utf8.encode source).take limit).drop (Utf8.size before) =
        (Utf8.encode source).extract (Utf8.size before) limit := by
      rw [List.drop_take, List.extract_eq_take_drop]
    obtain ⟨last, finished, known⟩ := Scan.exists_run (Utf8.size before)
      ((Utf8.encode source).extract (Utf8.size before) limit)
    have unlocated (open_ : ∀ span, last ≠ .closed span) :
        Body.locate bound source anchor =
          .error (.body anchor (.unbalanced (limit - Utf8.size before))) := by
      have stays := staysOpen_iff.1 (known.staysOpen open_)
      rw [← limit_eq] at stays ⊢
      exact (locate_eq_error_iff first).2 stays
    rw [scanned, finished]
    cases last with
    | closed span =>
      rw [← limit_eq] at known
      rw [(locate_eq_ok_iff_encloses first).2 known.encloses]
      rfl
    | seeking =>
      rw [unlocated (by simp), Nat.psub_eq_sub le]
      rfl
    | inside start depth =>
      rw [unlocated (by simp), Nat.psub_eq_sub le]
      rfl

/-- Both ends of a body that is located are within the source, and between characters. -/
theorem bounds_of_find {found : Body} (located : Body.find source anchor bound = .ok found) :
    0 < found.start ∧ found.start ≤ found.stop ∧ found.stop < (Utf8.encode source).length ∧
      (String.Pos.Raw.mk found.start).IsValid source ∧
      (String.Pos.Raw.mk found.stop).IsValid source := by
  obtain ⟨outside, rest, opens, closes⟩ := Body.exists_braces_of_find located
  have whole := Body.whole_of_find located
  have opened : found.before <+: source.toList := by simp [whole]
  have closed : found.before ++ found.inner <+: source.toList := by simp [whole]
  have wide := '{'.utf8Size_pos
  have wide' := '}'.utf8Size_pos
  have stop : found.stop = Utf8.size (found.before ++ found.inner) := by
    rw [Body.stop, Utf8.size_append]
  refine ⟨?_, Nat.le_add_right _ _, ?_, Utf8.isValid_size opened, stop ▸ Utf8.isValid_size closed⟩
  · rw [Body.start, opens, Utf8.size_append, Utf8.size_cons]
    omega
  · rw [Utf8.encode_eq_bytes, Utf8.length_bytes, whole, closes, stop, Utf8.size_append _ (_ :: _),
      Utf8.size_cons]
    omega

theorem replaceBytes?_eq (source anchor replacement : String) (bound : Nat) :
    replaceBytes? bound source anchor replacement =
      some ((Replacer.braces bound source anchor replacement).map Utf8.encode) := by
  rw [replaceBytes?, locateBytes?_eq, map_encode_braces]
  cases located : Body.locate bound source anchor with
  | error failure => rfl
  | ok span =>
    obtain ⟨found, there, rfl⟩ := locate_eq_ok_iff.1 located
    obtain ⟨-, ordered, inside, opens, closes⟩ := bounds_of_find there
    have replaced : found.stop.psub found.start = some (found.stop - found.start) :=
      Nat.psub_eq_sub ordered
    have kept : (Utf8.encode source).length.psub (found.stop - found.start) =
        some ((Utf8.encode source).length - (found.stop - found.start)) :=
      Nat.psub_eq_sub (by omega)
    simp only [Body.span, cutAt?, replaced, kept, if_pos opens, if_pos closes, List.splitAt_eq,
      Option.bind_eq_bind, Option.bind_some]
    rfl

/-- With each subtraction and each cut checked, locating and replacing have the results that they
have on characters, whatever the text, the anchor, the replacement and the bound are.  Amid a scan a
body has at least depth one, and no count exceeds what has been read.  Where a body is located, its
offsets are within the source and between characters, and the replacement is put between the
characters there. -/
theorem bytewise_patch_defined (source anchor replacement : String) (bound : Nat) :
    locateBytes? bound source anchor = some (Body.locate bound source anchor) ∧
    replaceBytes? bound source anchor replacement =
      some ((Replacer.braces bound source anchor replacement).map Utf8.encode) ∧
    (∀ first bytes, ∃ scan, Scan.seeking.run first bytes = some scan ∧
      ∀ start depth, scan = .inside start depth →
        0 < start ∧ 1 ≤ depth ∧ start + depth ≤ first + bytes.length + 1) ∧
    ∀ span, Body.locate bound source anchor = .ok span →
      0 < span.start ∧ span.start ≤ span.stop ∧ span.stop < (Utf8.encode source).length ∧
      (String.Pos.Raw.mk span.start).IsValid source ∧
      (String.Pos.Raw.mk span.stop).IsValid source ∧
      ∃ front inner back, source.toList = front ++ inner ++ back ∧
        span = ⟨Utf8.size front, Utf8.size (front ++ inner)⟩ ∧
        Replacer.braces bound source anchor replacement =
          .ok (String.ofList (front ++ replacement.toList ++ back)) := by
  refine ⟨locateBytes?_eq source anchor bound, replaceBytes?_eq source anchor replacement bound,
    fun first bytes ↦ ?_, fun span located ↦ ?_⟩
  · obtain ⟨scan, finished, known⟩ := Scan.exists_run first bytes
    refine ⟨scan, finished, ?_⟩
    rintro start depth rfl
    exact known.counts
  · obtain ⟨found, there, rfl⟩ := locate_eq_ok_iff.1 located
    obtain ⟨positive, ordered, inside, opens, closes⟩ := bounds_of_find there
    refine ⟨positive, ordered, inside, opens, closes, found.before, found.inner, found.after,
      Body.whole_of_find there, ?_, braces_of_find there replacement⟩
    rw [Utf8.size_append]
    rfl

/-- The anchor and the body have characters of two bytes, and the bound cuts another one. -/
theorem bytewise_patch_up_to_cut :
    let source := "é f(ü)\x7bé\x7dé"
    ¬(String.Pos.Raw.mk 13).IsValid source ∧ Body.locate 10 source "f(ü)" = .ok ⟨9, 11⟩ ∧
      (String.Pos.Raw.mk 9).IsValid source ∧ (String.Pos.Raw.mk 11).IsValid source ∧
      replaceBytes? 10 source "f(ü)" "ß" = some (.ok (Utf8.encode "é f(ü)\x7bß\x7dé")) := by
  intro source
  have located : Body.locate 10 source "f(ü)" = .ok ⟨9, 11⟩ :=
    locate_eq_ok_iff.2 ⟨⟨"é f(ü)\x7b".toList, ['é'], "\x7dé".toList⟩, by decide +kernel, by decide⟩
  have replaced : Replacer.braces 10 source "f(ü)" "ß" = .ok "é f(ü)\x7bß\x7dé" :=
    braces_eq_ok_iff.2 ⟨⟨"é f(ü)\x7b".toList, ['é'], "\x7dé".toList⟩, by decide +kernel, by decide⟩
  obtain ⟨-, defined, -, bounds⟩ := bytewise_patch_defined source "f(ü)" "ß" 10
  obtain ⟨-, -, -, opens, closes, -⟩ := bounds _ located
  rw [replaced] at defined
  exact ⟨by decide +kernel, located, opens, closes, defined⟩

end SoloScript.Script
