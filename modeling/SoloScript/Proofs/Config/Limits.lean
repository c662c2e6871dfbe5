import SoloScript.Config.Load
import SoloScript.Proofs.Config.Overrides

/-!
# Limits

Two fields hold a number, and a number in a configuration can be written in many ways.  Those that
are plain digits of a number below `2 ^ 64` are read as that number.  All others are refused, those
of the same numbers as well: nothing is rounded, cut off or read in part.
-/

namespace SoloScript.Config

open Json Outcome

/-- A field that holds a number. -/
inductive Limit where
  | scan
  | timeout
deriving DecidableEq

namespace Limit

def field : Limit → Field
  | scan => .maxScanBytes
  | timeout => .requestTimeout

/-- Sets one limit and leaves everything else at its default. -/
def config : Limit → Nat → Config
  | scan, n => { default with maxScanBytes := n }
  | timeout, n => { default with requestTimeout := n }

end Limit

/-- The characters that numbers are written with. -/
def IsNumberChar (d : Char) : Prop := d.isDigit = true ∨ d ∈ ['+', '-', '.', 'e', 'E']

instance (d : Char) : Decidable (IsNumberChar d) := inferInstanceAs (Decidable (_ ∨ _))

/-- Nothing but such characters. -/
def Inside (text : List Char) : Prop := ∀ d ∈ text, IsNumberChar d

instance (text : List Char) : Decidable (Inside text) := List.decidableBAll _ text

/-- What looks like a number: every number does, and so do `007`, `+1`, `1.` and `--1`. -/
structure NumberLike (text : List Char) : Prop where
  some : text ≠ []
  inside : Inside text

/-- An object that gives `value` to a field and has no other member. -/
inductive Sole (field : Field) (value : List Char) : List Char → Prop
  | intro {blanks blanks' literal blanks'' gap trailing trailing' : List Char}
      (blank : Blank blanks) (blank' : Blank blanks') (denotes : Denotes literal field.key.toList)
      (blank'' : Blank blanks'') (space : Blank gap) (trails : Blank trailing)
      (trails' : Blank trailing') :
      Sole field value (blanks ++ '\x7b' :: (blanks' ++ '"' :: (literal ++ (blanks'' ++ ':' ::
        (gap ++ (value ++ (trailing ++ '\x7d' :: trailing')))))))

variable {limit : Limit} {field : Field} {config : Config} {c : Cursor} {d : Char} {n : Nat}
  {text rest value blanks behind : List Char}

/-! ## Characters of numbers -/

theorem IsNumberChar.isBlank (h : IsNumberChar d) : Cursor.isBlank d = false := by
  refine Bool.eq_false_iff.2 fun blank ↦ ?_
  rcases Cursor.eq_of_isBlank blank with rfl | rfl | rfl | rfl <;> exact absurd h (by decide)

theorem IsNumberChar.notMem_separators (h : IsNumberChar d) : d ∉ separators := by
  intro mem
  simp only [separators, List.mem_cons, List.not_mem_nil, or_false] at mem
  rcases mem with rfl | rfl | rfl <;> exact absurd h (by decide)

theorem inside_of_digits (h : Digits text) : Inside text := fun d mem ↦ .inl (h.2 d mem)

theorem inside_of_fraction {digits : List Char} (h : Fraction text digits) : Inside text := by
  cases h with
  | absent => simp [Inside]
  | present digits => exact List.forall_mem_cons.2 ⟨by decide, inside_of_digits digits⟩

theorem inside_of_exponent {power : Option (Bool × List Char)} (h : Exponent text power) :
    Inside text := by
  cases h with
  | absent => simp [Inside]
  | present marks signed digits =>
    refine List.forall_mem_cons.2 ⟨?_, List.forall_mem_append.2 ⟨?_, inside_of_digits digits⟩⟩
    · rcases marks with rfl | rfl <;> decide
    · cases signed <;> simp [IsNumberChar]

theorem inside_of_parts {whole fraction exponent digits : List Char}
    {power : Option (Bool × List Char)} (whole' : Whole whole) (fraction' : Fraction fraction digits)
    (exponent' : Exponent exponent power) : Inside (whole ++ (fraction ++ exponent)) :=
  List.forall_mem_append.2 ⟨inside_of_digits whole'.1,
    List.forall_mem_append.2 ⟨inside_of_fraction fraction', inside_of_exponent exponent'⟩⟩

/-- A number is written with these characters. -/
theorem numberLike_of_numeral {literal : NumberLiteral} (h : Numeral text literal) :
    NumberLike text := by
  cases h with
  | positive whole fraction exponent =>
    have inside := inside_of_parts whole fraction exponent
    exact ⟨List.append_ne_nil_of_left_ne_nil whole.1.1 _, inside⟩
  | negative whole fraction exponent =>
    have inside := inside_of_parts whole fraction exponent
    exact ⟨List.cons_ne_nil _ _, List.forall_mem_cons.2 ⟨by decide, inside⟩⟩

/-! ## Plain digits -/

/-- An object of one member with a JSON value. -/
theorem Sole.isObject (h : Sole field value text) (valid : Valid .value value) :
    IsObject text [(field.key, value)] := by
  obtain ⟨blank, blank', denotes, blank'', space, trails, trails'⟩ := h
  have entry := Entry.intro blank' denotes blank'' space valid
  rw [String.ofList_toList] at entry
  have object := IsObject.full blank (.last entry trails) trails'
  simpa only [List.append_assoc, List.cons_append, List.nil_append] using object

theorem wellTyped_singleton {setting : field.kind.Setting} (means : field.kind.Means value setting) :
    WellTyped [(field.key, value)] where
  once field' := List.count_le_length
  typed field' value' mem := by
    obtain ⟨same, rfl⟩ := Prod.mk.inj (List.mem_singleton.1 mem)
    obtain rfl := Field.key_injective same
    exact ⟨setting, means⟩

/-- An object that sets one field. -/
theorem Sole.ofText?_of_means {source : String} (h : Sole field value source.toList)
    (valid : Valid .value value) {setting : field.kind.Setting}
    (means : field.kind.Means value setting) :
    ofText? source = .ok (field.put default setting) := by
  have typed := wellTyped_singleton means
  obtain ⟨config, met, overrides⟩ := (h.isObject valid).exists_ofText? typed
  rw [met, overrides.unique typed (overrides_put default means)]

theorem Sole.ofText?_of_isNatural {source : String} (h : Sole limit.field value source.toList)
    (natural : IsNatural value n) : ofText? source = .ok (limit.config n) := by
  have valid : Valid .value value := .number natural.numeral
  cases limit with
  | scan => exact h.ofText?_of_means valid natural
  | timeout => exact h.ofText?_of_means valid natural

/-! ## Everything else -/

theorem Limit.exists_readValue_eq (limit : Limit) (config : Config) (c : Cursor) :
    ∃ (expected : String) (set : Nat → Config),
      readValue (some limit.field) config c = (Value.natural expected c).map (Read.map set) := by
  cases limit with
  | scan => exact ⟨"usize", _, rfl⟩
  | timeout => exact ⟨"u64", _, rfl⟩

/-- Behind a number that has been read in part, no object goes on. -/
theorem exists_error_of_readBehind {start : Cursor} {seen : List Field} (value : Read Config start)
    (shorter : start.length ≤ c.length) (ahead : value.next.rest = d :: rest)
    (number : IsNumberChar d) : ∃ fault, readBehind seen value shorter = .error fault := by
  obtain ⟨token, found, rfl, -⟩ :=
    Cursor.exists_token? (ahead.trans (List.nil_append _).symm) blank_nil number.isBlank
  have other {e : Char} (mem : e ∈ separators) : token.value ≠ e := fun same ↦
    number.notMem_separators (same ▸ mem)
  rw [readBehind, found]
  simp only [if_neg (other (by decide : '\x7d' ∈ separators)),
    if_neg (other (by decide : ',' ∈ separators))]
  exact ⟨_, rfl⟩

/-- Digits in front of what looks like a number and ends: they are all of it, or more of it is
behind them. -/
theorem eq_or_exists_cons {digits : List Char} (literal : NumberLike value)
    (inside : ∀ d ∈ digits, d.isDigit = true) (ends : NoDigit behind)
    (same : value ++ behind = digits ++ rest) :
    value = digits ∨ ∃ d others, rest = d :: others ∧ IsNumberChar d := by
  rcases List.append_eq_append_iff.1 same with ⟨more, rfl, split⟩ | ⟨more, rfl, split⟩
  · cases more with
    | nil => exact .inl (List.append_nil _).symm
    | cons d more =>
      have digit := inside d (List.mem_append_right _ List.mem_cons_self)
      rw [ends d (congrArg List.head? split)] at digit
      cases digit
  · cases more with
    | nil => exact .inl (List.append_nil _)
    | cons d more =>
      exact .inr ⟨d, _, split, literal.inside d (List.mem_append_right _ List.mem_cons_self)⟩

/-- What looks like a number but is not one in plain digits is refused, together with what is
behind it: if its front is read as a number, an object does not go on like that. -/
theorem exists_error_of_not_isNatural {start : Cursor} {seen : List Field}
    (literal : NumberLike value) (other : ∀ n, ¬IsNatural value n) (ends : NoDigit behind)
    (blank : Blank blanks) (ahead : start.rest = blanks ++ (value ++ behind))
    (shorter : start.length ≤ c.length) :
    ∃ fault, (readValue (some limit.field) config start >>= (readBehind seen · shorter)) =
      .error fault := by
  obtain ⟨expected, set, readEq⟩ := limit.exists_readValue_eq config start
  rw [readEq]
  cases met : Value.natural expected start with
  | error fault => exact ⟨fault, rfl⟩
  | ok number =>
    obtain ⟨digits, split, natural⟩ := isNatural_of_natural met
    have solid : ∀ d ∈ (value ++ behind).head?, Cursor.isBlank d = false := by
      intro d first
      rw [List.head?_append_of_ne_nil _ literal.some] at first
      exact (literal.inside d (List.mem_of_head? first)).isBlank
    rw [Cursor.rest_skipBlanks ahead blank solid] at split
    rcases eq_or_exists_cons literal natural.whole.1.2 ends split with rfl | ⟨d, others, left, more⟩
    · exact absurd natural (other _)
    · exact exists_error_of_readBehind (number.map set) shorter left more

theorem Sole.exists_error {source : String} (h : Sole limit.field value source.toList)
    (literal : NumberLike value) (other : ∀ n, ¬IsNatural value n) :
    ∃ fault, ofText? source = .error fault := by
  generalize whole : source.toList = text at h
  obtain ⟨blank, blank', denotes, blank'', space, trails, -⟩ := h
  have closes : '\x7d' ∈ separators := by decide
  have named : Field.ofKey? (String.ofList limit.field.key.toList) = some limit.field := by
    rw [String.ofList_toList, Field.ofKey?_key]
  have fresh : (Field.ofKey? (String.ofList limit.field.key.toList)).any
      ([] : List Field).contains = false := by
    rw [named]
    rfl
  apply exists_error_of_refuses (whole.trans (List.append_nil _).symm)
  apply opens_object.refuses blank
  intro c ahead
  rw [List.append_nil] at ahead
  obtain ⟨start, shorter, next, met⟩ := exists_readMembers_eq default blank'
    denotes.reads blank'' fresh
    (ahead.trans (by simp only [List.append_assoc, List.cons_append, List.nil_append]; rfl))
  rw [readObject_of_quote ahead blank', met, named]
  exact exists_error_of_not_isNatural literal other (stops_of_mem_separators closes trails).1 space
    next shorter

/-! ## Files -/

/-- What looks like a number is a limit if it is plain digits of a number below `2 ^ 64`, and then
the limit is that number.  Otherwise the file is malformed, and counts for nothing where it is not
named but looked for. -/
theorem limit_exact_or_malformed {tree : File.Tree} {path : File.Path} {source : String}
    (literal : NumberLike value) (sole : Sole limit.field value source.toList)
    (kept : tree.read path = .ok (Text.Utf8.encode source)) :
    (∀ config, load tree path = .ok config ↔ ∃ n, IsNatural value n ∧ config = limit.config n) ∧
    ((∀ n, ¬IsNatural value n) →
      ∃ fault, load tree path = .error (.configMalformed path fault)) ∧
    ∀ directory : File.Path, directory.child defaultFile = path →
      (∀ n, IsNatural value n → discover tree directory = limit.config n) ∧
      ((∀ n, ¬IsNatural value n) → discover tree directory = default) := by
  have exact' (n : Nat) (natural : IsNatural value n) : load tree path = .ok (limit.config n) :=
    load_of_ofText? kept (sole.ofText?_of_isNatural natural)
  have malformed (other : ∀ n, ¬IsNatural value n) :
      ∃ fault, load tree path = .error (.configMalformed path fault) := by
    obtain ⟨fault, met⟩ := sole.exists_error literal other
    exact ⟨fault, load_eq_error_of_ofText? kept met⟩
  refine ⟨fun config ↦ ⟨fun loaded ↦ ?_, ?_⟩, malformed, ?_⟩
  · by_cases natural : ∃ n, IsNatural value n
    · obtain ⟨n, natural⟩ := natural
      exact ⟨n, natural, Except.ok.inj (loaded.symm.trans (exact' n natural))⟩
    · obtain ⟨fault, met⟩ := malformed (not_exists.1 natural)
      cases loaded.symm.trans met
  · rintro ⟨n, natural, rfl⟩
    exact exact' n natural
  · rintro directory rfl
    refine ⟨fun n natural ↦ ?_, fun other ↦ ?_⟩
    · rw [discover, exact' n natural]
      rfl
    · obtain ⟨fault, met⟩ := malformed other
      rw [discover, met]
      rfl

/-- An object of one member, without blanks or escapes. -/
def written (field : Field) (value : List Char) : String :=
  String.ofList ('\x7b' :: '"' :: (field.key.toList ++ '"' :: ':' :: (value ++ ['\x7d'])))

theorem sole_written (limit : Limit) (value : List Char) :
    Sole limit.field value (written limit.field value).toList := by
  have plain : ArePlain limit.field.key.toList := by cases limit <;> decide
  have denotes := Denotes.append plain .close
  rw [List.append_nil] at denotes
  have sole : Sole limit.field value _ :=
    .intro blank_nil blank_nil denotes blank_nil blank_nil blank_nil blank_nil
  rw [written, String.toList_ofList]
  simpa only [List.append_assoc, List.cons_append, List.nil_append] using sole

theorem bare_defaultFile : File.Path.Bare ⟨defaultFile⟩ defaultFile := by
  have segments : File.Path.segments ⟨defaultFile⟩ = [] ++ [defaultFile] := by decide
  exact ⟨segments, by constructor <;> decide, by decide, by rw [segments]; decide⟩

theorem largest_limit_exact :
    let tree (limit : Limit) (value : List Char) := (File.Tree.empty ["w"]).set ["w", defaultFile]
      (.file (Text.Utf8.encode (written limit.field value)))
    (load (tree .scan largest) ⟨defaultFile⟩ =
        .ok { default with maxScanBytes := Nat.pow 2 64 - 1 } ∧
      discover (tree .scan largest) ⟨""⟩ = { default with maxScanBytes := Nat.pow 2 64 - 1 }) ∧
    (∃ fault, load (tree .scan (largest ++ ['0'])) ⟨defaultFile⟩ =
        .error (.configMalformed ⟨defaultFile⟩ fault)) ∧
    discover (tree .timeout ['1', 'e', '3']) ⟨""⟩ = default := by
  intro tree
  have kept (limit : Limit) (value : List Char) :
      (tree limit value).read ⟨defaultFile⟩ =
        .ok (Text.Utf8.encode (written limit.field value)) :=
    File.Tree.read_of_slot (bare_defaultFile.slot _) (bare_defaultFile.fits _) rfl
  have beside : File.Path.child ⟨""⟩ defaultFile = ⟨defaultFile⟩ := by decide
  have natural : IsNatural largest (Nat.pow 2 64 - 1) := means_largest
  have large (n : Nat) : ¬IsNatural (largest ++ ['0']) n := fun h ↦
    absurd (h.value.symm ▸ h.fits) (by decide)
  have exponent (n : Nat) : ¬IsNatural ['1', 'e', '3'] n := fun h ↦
    absurd (h.whole.isDigit_of_mem (d := 'e') (by decide)) (by decide)
  refine ⟨?_, ?_, ?_⟩
  · obtain ⟨loads, -, looks⟩ := limit_exact_or_malformed (numberLike_of_numeral natural.numeral)
      (sole_written .scan largest) (kept .scan largest)
    exact ⟨(loads _).2 ⟨_, natural, rfl⟩, (looks _ beside).1 _ natural⟩
  · exact (limit_exact_or_malformed ⟨by decide, by decide⟩ (sole_written .scan _)
      (kept .scan _)).2.1 large
  · exact ((limit_exact_or_malformed ⟨by decide, by decide⟩ (sole_written .timeout _)
      (kept .timeout _)).2.2 _ beside).2 exponent

end SoloScript.Config
