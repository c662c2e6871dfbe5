import Mathlib.Tactic.SplitIfs
import SoloScript.Proofs.Text.Tracing
import SoloScript.Script.TemplateLiteral

/-!
# Reading a template literal back

The four replacements of `TemplateLiteral.escape` amount to one pass, `escapeOnce`, that looks at a
character and at most one more.  A reader of template literals undoes that pass: it stops at the
closing backtick that `encode` writes, whatever comes behind it, and it never finds a substitution.
The replacements do not get in each other's way: each finds what it looks for where that is in the
text itself, never in what an earlier one has put in.
-/

namespace SoloScript.Script.TemplateLiteral

open SoloScript.Text

/-! ## The replacements as one pass -/

/-- Escapes a text from left to right. -/
def escapeOnce : List Char → List Char
  | [] => []
  | c :: cs =>
    if c = '\\' then '\\' :: '\\' :: escapeOnce cs
    else if c = '`' then '\\' :: '`' :: escapeOnce cs
    else if c = '\r' then '\\' :: 'r' :: escapeOnce cs
    else if c = '$' ∧ cs.head? = some '{' then '\\' :: '$' :: escapeOnce cs
    else c :: escapeOnce cs

/-- What the replacements of backslashes and backticks make of a character. -/
def escapeQuote (c : Char) : List Char :=
  if c = '\\' then ['\\', '\\'] else if c = '`' then ['\\', '`'] else [c]

/-- Puts a backslash before every `$` that stands before a `{`. -/
def escapeDollars : List Char → List Char
  | [] => []
  | c :: cs =>
    if c = '$' ∧ cs.head? = some '{' then '\\' :: '$' :: escapeDollars cs
    else c :: escapeDollars cs

theorem replaceAll_quotes (text : List Char) :
    replaceAll ['`'] ['\\', '`'] (replaceAll ['\\'] ['\\', '\\'] text) =
      text.flatMap escapeQuote := by
  rw [replaceAll_singleton, replaceAll_singleton, List.flatMap_assoc]
  congr 1
  funext c
  by_cases backslash : c = '\\'
  · subst backslash
    rfl
  · simp [escapeQuote, backslash]

theorem replaceAll_dollars (text : List Char) :
    replaceAll ['$', '{'] ['\\', '$', '{'] text = escapeDollars text := by
  induction text with
  | nil => simp [replaceAll, escapeDollars]
  | cons c cs ih =>
    rw [replaceAll, escapeDollars]
    by_cases opens : c = '$' ∧ cs.head? = some '{'
    · obtain ⟨rfl, brace⟩ := opens
      obtain ⟨rest, rfl⟩ := List.head?_eq_some_iff.1 brace
      -- the pass goes on behind the `{`, which it would have left alone
      have left : replaceAll ['$', '{'] ['\\', '$', '{'] ('{' :: rest) =
          '{' :: replaceAll ['$', '{'] ['\\', '$', '{'] rest := by
        rw [replaceAll]
        simp
      simp [← ih, left]
    · rw [if_neg opens, if_neg, ih]
      rintro ⟨-, starts⟩
      obtain ⟨rest, h⟩ := List.isPrefixOf_iff_prefix.1 starts
      obtain ⟨rfl, rfl⟩ : '$' = c ∧ '{' :: rest = cs := by simpa using h
      simp at opens

/-- No character but `{` is escaped to something that starts with `{`. -/
theorem head?_flatMap_escapeQuote (text : List Char) :
    (text.flatMap escapeQuote).head? = some '{' ↔ text.head? = some '{' := by
  cases text with
  | nil => simp
  | cons c cs =>
    simp only [List.flatMap_cons, escapeQuote]
    split
    · simp_all
    · split <;> simp_all

theorem escape_eq_escapeOnce (text : List Char) : escape text = escapeOnce text := by
  have passes : escape text = (escapeDollars (text.flatMap escapeQuote)).flatMap
      fun c ↦ if c = '\r' then ['\\', 'r'] else [c] := by
    rw [← replaceAll_dollars, ← replaceAll_quotes, ← replaceAll_singleton]
    rfl
  rw [passes]
  clear passes
  induction text with
  | nil => rfl
  | cons c cs ih =>
    rw [escapeOnce, ← ih]
    simp only [List.flatMap_cons, escapeQuote]
    by_cases backslash : c = '\\'
    · simp [backslash, escapeDollars]
    · by_cases backtick : c = '`'
      · simp [backtick, escapeDollars]
      · by_cases dollar : c = '$'
        · subst dollar
          by_cases brace : cs.head? = some '{'
          · simp [escapeDollars, brace, head?_flatMap_escapeQuote]
          · simp [escapeDollars, brace, head?_flatMap_escapeQuote]
        · by_cases ret : c = '\r'
          · simp [escapeDollars, ret]
          · simp [escapeDollars, backslash, backtick, dollar, ret]

/-! ## Reading -/

/-- How the reading of a template literal ends. -/
inductive Ending where
  /-- A backtick has closed the literal. -/
  | closed
  /-- A `$` and a `{` have opened a substitution. -/
  | substitution
  /-- A backslash stands before a character that is not one of the four that `escaped?` knows. -/
  | foreignEscape
  /-- The text is over before the literal is. -/
  | unfinished
deriving DecidableEq, Repr

/-- The value of a literal up to its end, how it ends, and the text that follows. -/
structure Reading where
  value : List Char
  ending : Ending
  rest : List Char
deriving DecidableEq, Repr

/-- A reading with one more character in front. -/
def Reading.cons (c : Char) (reading : Reading) : Reading :=
  { reading with value := c :: reading.value }

/-- The character that a backslash and `c` denote. -/
def escaped? (c : Char) : Option Char :=
  if c = '\\' ∨ c = '`' ∨ c = '$' then some c
  else if c = 'r' then some '\r'
  else none

/-- Reads a literal from behind its opening backtick.  A carriage return that is not escaped, with
or without a line feed behind it, denotes a line feed. -/
def readBody : List Char → Reading
  | [] => ⟨[], .unfinished, []⟩
  | '\\' :: c :: cs =>
    match escaped? c with
    | some d => (readBody cs).cons d
    | none => ⟨[], .foreignEscape, cs⟩
  | '\r' :: '\n' :: cs => (readBody cs).cons '\n'
  | c :: cs =>
    if c = '`' then ⟨[], .closed, cs⟩
    else if c = '\\' then ⟨[], .unfinished, []⟩
    else if c = '$' ∧ cs.head? = some '{' then ⟨[], .substitution, cs.tail⟩
    else (readBody cs).cons (if c = '\r' then '\n' else c)

/-- Reads the template literal at the start of a text, if there is one. -/
def read? : List Char → Option Reading
  | '`' :: cs => some (readBody cs)
  | _ => none

/-! ## Reading undoes escaping -/

/-- A character is either escaped, by a character that denotes it, or left alone, in which case it
is none of those that mean something to the reader. -/
theorem escapeOnce_cons (c : Char) (cs : List Char) :
    (∃ d, escaped? d = some c ∧ escapeOnce (c :: cs) = '\\' :: d :: escapeOnce cs) ∨
      (c ≠ '\\' ∧ c ≠ '`' ∧ c ≠ '\r' ∧ ¬(c = '$' ∧ cs.head? = some '{')) ∧
        escapeOnce (c :: cs) = c :: escapeOnce cs := by
  rw [escapeOnce]
  split_ifs with backslash backtick ret dollar
  · exact .inl ⟨'\\', by simp [escaped?, backslash], rfl⟩
  · exact .inl ⟨'`', by simp [escaped?, backtick], rfl⟩
  · exact .inl ⟨'r', by simp [escaped?, ret], rfl⟩
  · exact .inl ⟨'$', by simp [escaped?, dollar], rfl⟩
  · exact .inr ⟨⟨backslash, backtick, ret, dollar⟩, rfl⟩

theorem of_escaped? {c d : Char} (h : escaped? d = some c) :
    c = '\\' ∨ c = '`' ∨ c = '$' ∨ c = '\r' := by
  simp only [escaped?] at h
  split_ifs at h with same ret
  · obtain rfl : d = c := by simpa using h
    rcases same with h | h | h <;> simp [h]
  · exact .inr (.inr (.inr (by simpa using h.symm)))

theorem readBody_escape {c d : Char} {cs : List Char} (h : escaped? d = some c) :
    readBody ('\\' :: d :: cs) = (readBody cs).cons c := by
  rw [readBody, h]

theorem readBody_char {c : Char} {cs : List Char} (backslash : c ≠ '\\') (backtick : c ≠ '`')
    (ret : c ≠ '\r') (dollar : ¬(c = '$' ∧ cs.head? = some '{')) :
    readBody (c :: cs) = (readBody cs).cons c := by
  rw [readBody, if_neg backtick, if_neg backslash, if_neg dollar, if_neg ret]
  · rintro d ds rfl
    exact absurd rfl backslash
  · rintro ds rfl
    exact absurd rfl ret

/-- An escaped text and the backtick behind it start with a `{` only if the text does. -/
theorem head?_escapeOnce_append (text after : List Char) :
    (escapeOnce text ++ '`' :: after).head? = some '{' ↔ text.head? = some '{' := by
  cases text with
  | nil => simp [escapeOnce]
  | cons c cs =>
    rcases escapeOnce_cons c cs with ⟨d, hd, h⟩ | ⟨-, h⟩
    · have : c ≠ '{' := by rcases of_escaped? hd with rfl | rfl | rfl | rfl <;> decide
      simp [h, this]
    · simp [h]

/-- The reader undoes the escaping of a text and stops at the backtick behind it. -/
theorem readBody_escapeOnce (text after : List Char) :
    readBody (escapeOnce text ++ '`' :: after) = ⟨text, .closed, after⟩ := by
  induction text with
  | nil => simp [escapeOnce, readBody]
  | cons c cs ih =>
    rcases escapeOnce_cons c cs with ⟨d, hd, h⟩ | ⟨⟨backslash, backtick, ret, dollar⟩, h⟩
    · rw [h, List.cons_append, List.cons_append, readBody_escape hd, ih]
      rfl
    · rw [← head?_escapeOnce_append cs after] at dollar
      rw [h, List.cons_append, readBody_char backslash backtick ret dollar, ih]
      rfl

theorem toList_encode (text : String) :
    (encode text).toList = '`' :: (escapeOnce text.toList ++ ['`']) := by
  simp [encode, escape_eq_escapeOnce]

theorem read?_encode_append (text after : String) :
    read? (encode text ++ after).toList = some ⟨text.toList, .closed, after.toList⟩ := by
  rw [String.toList_append, toList_encode]
  simp only [List.cons_append, List.append_assoc, List.nil_append, read?]
  rw [readBody_escapeOnce]

/-- The literal of a text reads back as that text, whatever follows it: it ends at its own closing
backtick and holds no substitution.  So different texts have different literals. -/
theorem encode_evaluates (text after : String) :
    read? (encode text ++ after).toList = some ⟨text.toList, .closed, after.toList⟩ ∧
      Function.Injective encode := by
  refine ⟨read?_encode_append text after, fun first second same ↦ ?_⟩
  have values := read?_encode_append first ""
  rw [same, read?_encode_append second ""] at values
  have lists : first.toList = second.toList := by simpa using values.symm
  exact String.toList_inj.1 lists

/-- Backslashes, carriage returns and what looks like a substitution, before what looks like the
rest of one. -/
example : read? (encode "\\$\x7b`$\r\n$" ++ "\x7bx\x7d`").toList =
    some ⟨"\\$\x7b`$\r\n$".toList, .closed, "\x7bx\x7d`".toList⟩ := by
  decide +kernel

/-! ## What each replacement finds -/

open Traced

theorem independent_escapes : Independent escapes where
  foreign := by simp [escapes, Foreign]
  nonempty := by simp [escapes]
  nodup := by simp [escapes]

/-- A `$` comes before a `{` when substitutions are looked for exactly if it does in the text. -/
theorem dollar_brace_infix_iff (text : List Char) (i j : Option Nat) :
    [⟨'$', i⟩, ⟨'{', j⟩] <:+: rewriteAll (escapes.take 2) (trace text) ↔
      ∃ place, (text[place]? = some '$' ∧ i = some place) ∧
        text[place + 1]? = some '{' ∧ j = some (place + 1) := by
  rw [infix_rewriteAll_iff, pair_infix_trace_iff]
  simp [escapes, Foreign, chars]

/-- The literal of a text holds its image under one pass.  The four replacements are made on traced
characters as they are made on characters alone.  What each of them finds is what it looks for where
that is in the text: no character that an earlier one has put in is ever replaced, and a `$` stands
before a `{` in the third just where it does in the text. -/
theorem encode_in_one_pass (text : String) :
    (encode text).toList = '`' :: (escapeOnce text.toList ++ ['`']) ∧
    (∀ count, chars (rewriteAll (escapes.take count) (trace text.toList)) =
      (escapes.take count).foldl (fun text pair ↦ replaceAll pair.1.toList pair.2.toList text)
        text.toList) ∧
    (∀ (i : Fin escapes.length) occurrence,
      occurrence ∈ rewritten escapes[i].1.toList
          (rewriteAll (escapes.take i) (trace text.toList)) ↔
        occurrence <:+: trace text.toList ∧ chars occurrence = escapes[i].1.toList) ∧
    ∀ i j, [⟨'$', i⟩, ⟨'{', j⟩] <:+: rewriteAll (escapes.take 2) (trace text.toList) ↔
      ∃ place, (text.toList[place]? = some '$' ∧ i = some place) ∧
        text.toList[place + 1]? = some '{' ∧ j = some (place + 1) := by
  refine ⟨toList_encode text, fun count ↦ ?_, fun i occurrence ↦ ?_,
    dollar_brace_infix_iff text.toList⟩
  · rw [chars_rewriteAll, chars_trace]
  · exact independent_escapes.mem_rewritten_iff i (trace text.toList) occurrence

/-- A `$` behind a backslash still opens a substitution; one with a backtick before its `{` does
not. -/
example : rewritten "$\x7b".toList (rewriteAll (escapes.take 2) (trace "\\$\x7b$`\x7b".toList)) =
    [[⟨'$', some 1⟩, ⟨'{', some 2⟩]] := by
  decide +kernel

end SoloScript.Script.TemplateLiteral
