import SoloScript.Text.Utf8

/-!
# Lemmas on UTF-8

A character below `U+0080` is one byte, and that byte is in the form of no other character.  So
such a character can be looked for among the bytes of a text: it is found at the same places, as
often, and as often in every part that the text starts with, even in one that ends amid a
character.
-/

namespace SoloScript.Text.Utf8

variable {c d : Char} {text : List Char}

/-- The UTF-8 form of a text. -/
def bytes (text : List Char) : List UInt8 := text.flatMap String.utf8EncodeChar

theorem encode_eq_bytes (text : String) : encode text = bytes text.toList := rfl

@[simp] theorem bytes_nil : bytes [] = [] := rfl

@[simp] theorem bytes_cons (c : Char) (text : List Char) :
    bytes (c :: text) = String.utf8EncodeChar c ++ bytes text := rfl

@[simp] theorem bytes_append (text more : List Char) :
    bytes (text ++ more) = bytes text ++ bytes more :=
  List.flatMap_append

@[simp] theorem length_bytes (text : List Char) : (bytes text).length = size text := by
  induction text with
  | nil => rfl
  | cons c text ih => simp [ih]

theorem size_replicate (n : Nat) (c : Char) : size (List.replicate n c) = n * c.utf8Size := by
  induction n with
  | zero => rw [Nat.zero_mul, List.replicate_zero, size_nil]
  | succ n ih => rw [List.replicate_succ, size_cons, ih, Nat.succ_mul, Nat.add_comm]

theorem bytes_injective : Function.Injective bytes := by
  intro text more same
  apply String.ofList_injective
  rw [← String.toByteArray_inj, String.toByteArray_ofList, String.toByteArray_ofList]
  exact congrArg List.toByteArray same

theorem encode_injective : Function.Injective encode := by
  intro text more same
  exact String.toList_injective (bytes_injective same)

theorem take_bytes_append (text more : List Char) :
    (bytes (text ++ more)).take (size text) = bytes text := by
  rw [bytes_append, ← length_bytes, List.take_left]

theorem drop_bytes_append (text more : List Char) :
    (bytes (text ++ more)).drop (size text) = bytes more := by
  rw [bytes_append, ← length_bytes, List.drop_left]

theorem extract_bytes_append (before inner after : List Char) :
    (bytes (before ++ inner ++ after)).extract (size before) (size before + size inner) =
      bytes inner := by
  rw [List.extract_eq_take_drop, List.append_assoc, drop_bytes_append, Nat.add_sub_cancel_left,
    take_bytes_append]

/-- Of two parts that a text starts with, the one with fewer bytes starts the other. -/
theorem prefix_of_size_le {first second : List Char} (starts : first <+: text)
    (starts' : second <+: text) (le : size first ≤ size second) : first <+: second := by
  rcases List.prefix_or_prefix_of_prefix starts starts' with shorter | ⟨rest, rfl⟩
  · exact shorter
  · cases rest with
    | nil => simp
    | cons c rest =>
      have wide := c.utf8Size_pos
      rw [size_append, size_cons] at le
      omega

theorem prefix_iff_size_le {first second : List Char} (starts : first <+: text)
    (starts' : second <+: text) : first <+: second ↔ size first ≤ size second := by
  constructor
  · rintro ⟨rest, rfl⟩
    simp
  · exact prefix_of_size_le starts starts'

/-! ## Offsets of characters -/

theorem utf8ByteSize_ofList (text : List Char) : (String.ofList text).utf8ByteSize = size text := by
  rw [← String.size_toByteArray, String.toByteArray_ofList]
  exact List.size_toByteArray.trans (length_bytes text)

/-- The offset behind a part that a text starts with is one between characters. -/
theorem isValid_size {source : String} {before : List Char} (starts : before <+: source.toList) :
    (String.Pos.Raw.mk (size before)).IsValid source := by
  obtain ⟨after, split⟩ := starts
  have whole : source = String.ofList before ++ String.ofList after := by
    rw [← String.ofList_append, split, String.ofList_toList]
  have offset : String.Pos.Raw.mk (size before) = (String.ofList before).rawEndPos := by
    rw [← utf8ByteSize_ofList]
    rfl
  exact String.Pos.Raw.isValid_iff_exists_append.2 ⟨_, _, whole, offset⟩

/-! ## ASCII -/

/-- A character whose UTF-8 form is a single byte. -/
def IsAscii (c : Char) : Prop := c.val < 0x80

theorem encodeChar_of_isAscii (ascii : IsAscii c) : String.utf8EncodeChar c = [c.toUInt8] := by
  have small : c.val.toNat ≤ 0x7f := Nat.le_of_lt_succ (UInt32.lt_iff_toNat_lt.1 ascii)
  rw [String.utf8EncodeChar]
  simp only [if_pos small]
  rfl

theorem toNat_toUInt8_of_isAscii (ascii : IsAscii c) : c.toUInt8.toNat = c.val.toNat := by
  have small : c.val.toNat < 0x80 := UInt32.lt_iff_toNat_lt.1 ascii
  have wrapped : c.toUInt8.toNat = c.val.toNat % 256 := rfl
  omega

/-- All other characters are made of bytes that are no ASCII character. -/
theorem le_toNat_of_mem_encodeChar (other : 0x7f < d.val.toNat) {byte : UInt8}
    (mem : byte ∈ String.utf8EncodeChar d) : 0x80 ≤ byte.toNat := by
  have follower (n : Nat) : 0x80 ≤ (UInt8.ofNat (n % 64 + 0x80)).toNat := by simp; omega
  rw [String.utf8EncodeChar] at mem
  simp only [if_neg (Nat.not_le.2 other)] at mem
  split at mem
  · have lead (n : Nat) : 0x80 ≤ (UInt8.ofNat (n % 32 + 0xc0)).toNat := by simp; omega
    simp only [List.mem_cons, List.not_mem_nil, or_false] at mem
    rcases mem with rfl | rfl
    · exact lead _
    · exact follower _
  · split at mem
    · have lead (n : Nat) : 0x80 ≤ (UInt8.ofNat (n % 16 + 0xe0)).toNat := by simp; omega
      simp only [List.mem_cons, List.not_mem_nil, or_false] at mem
      rcases mem with rfl | rfl | rfl
      · exact lead _
      · exact follower _
      · exact follower _
    · have lead (n : Nat) : 0x80 ≤ (UInt8.ofNat (n % 8 + 0xf0)).toNat := by simp; omega
      simp only [List.mem_cons, List.not_mem_nil, or_false] at mem
      rcases mem with rfl | rfl | rfl | rfl
      · exact lead _
      · exact follower _
      · exact follower _
      · exact follower _

/-- The byte of an ASCII character is in the form of no other character. -/
theorem mem_encodeChar_iff (ascii : IsAscii c) : c.toUInt8 ∈ String.utf8EncodeChar d ↔ d = c := by
  constructor
  · intro mem
    have small : c.val.toNat < 0x80 := UInt32.lt_iff_toNat_lt.1 ascii
    have value := toNat_toUInt8_of_isAscii ascii
    by_cases other : 0x7f < d.val.toNat
    · have := le_toNat_of_mem_encodeChar other mem
      omega
    · have ascii' : IsAscii d := UInt32.lt_iff_toNat_lt.2 (Nat.lt_succ_of_le (Nat.not_lt.1 other))
      rw [encodeChar_of_isAscii ascii', List.mem_singleton] at mem
      rw [mem, toNat_toUInt8_of_isAscii ascii'] at value
      exact Char.ext (UInt32.toNat_inj.1 value)
  · rintro rfl
    simp [encodeChar_of_isAscii ascii]

/-! ## ASCII characters among bytes -/

/-- Where the byte of an ASCII character is, there is that character. -/
theorem getElem?_bytes_eq_some_iff (ascii : IsAscii c) {i : Nat} :
    (bytes text)[i]? = some c.toUInt8 ↔
      ∃ before after, text = before ++ c :: after ∧ size before = i := by
  induction text generalizing i with
  | nil => simp
  | cons d text ih =>
    rw [bytes_cons]
    constructor
    · intro found
      by_cases early : i < (String.utf8EncodeChar d).length
      · rw [List.getElem?_append_left early] at found
        obtain rfl := (mem_encodeChar_iff ascii).1 (List.mem_of_getElem? found)
        rw [encodeChar_of_isAscii ascii, List.length_singleton, Nat.lt_one_iff] at early
        exact ⟨[], text, rfl, early.symm⟩
      · rw [List.getElem?_append_right (Nat.not_lt.1 early)] at found
        obtain ⟨before, after, rfl, behind⟩ := ih.1 found
        rw [String.length_utf8EncodeChar] at early behind
        exact ⟨d :: before, after, rfl, by rw [size_cons]; omega⟩
    · rintro ⟨before, after, split, rfl⟩
      cases before with
      | nil =>
        obtain ⟨rfl, rfl⟩ := List.cons.inj split
        simp [encodeChar_of_isAscii ascii]
      | cons e before =>
        obtain ⟨rfl, rfl⟩ := List.cons.inj split
        have behind : (String.utf8EncodeChar d).length ≤ size (d :: before) := by simp
        rw [List.getElem?_append_right behind]
        exact ih.2 ⟨before, after, rfl, by simp⟩

/-- The same behind another text. -/
theorem getElem?_bytes_append_eq_some_iff (ascii : IsAscii c) {before : List Char} {i : Nat}
    (behind : size before ≤ i) :
    (bytes (before ++ text))[i]? = some c.toUInt8 ↔
      ∃ between after, text = between ++ c :: after ∧ size before + size between = i := by
  rw [bytes_append, List.getElem?_append_right (by simpa using behind), length_bytes,
    getElem?_bytes_eq_some_iff ascii]
  refine exists_congr fun between ↦ exists_congr fun after ↦ and_congr_right fun _ ↦ ?_
  omega

theorem count_bytes (ascii : IsAscii c) (text : List Char) :
    (bytes text).count c.toUInt8 = text.count c := by
  induction text with
  | nil => rfl
  | cons d text ih =>
    rw [bytes_cons, List.count_append, ih]
    by_cases same : d = c
    · simp [same, encodeChar_of_isAscii ascii, Nat.add_comm]
    · have absent := List.count_eq_zero.2 (mt (mem_encodeChar_iff ascii).1 same)
      rw [absent, List.count_cons_of_ne same, Nat.zero_add]

/-- The bytes that a text starts with hold the ASCII characters of some characters that it starts
with; the bytes of a last character that is cut hold none. -/
theorem exists_prefix_of_prefix_bytes {part : List UInt8} (h : part <+: bytes text) :
    ∃ first, first <+: text ∧ ∀ c, IsAscii c → part.count c.toUInt8 = first.count c := by
  induction text generalizing part with
  | nil =>
    obtain rfl := List.prefix_nil.1 h
    exact ⟨[], List.nil_prefix, by simp⟩
  | cons d text ih =>
    rw [bytes_cons] at h
    by_cases whole : String.utf8EncodeChar d <+: part
    · obtain ⟨rest, rfl⟩ := whole
      obtain ⟨first, starts, same⟩ := ih ((List.prefix_append_right_inj _).1 h)
      refine ⟨d :: first, List.cons_prefix_cons.2 ⟨rfl, starts⟩, fun c ascii ↦ ?_⟩
      have form := count_bytes ascii [d]
      rw [bytes_cons, bytes_nil, List.append_nil] at form
      rw [List.count_append, same c ascii, form, ← List.count_append, List.singleton_append]
    · have cut : part <+: String.utf8EncodeChar d :=
        (List.prefix_or_prefix_of_prefix h (List.prefix_append _ _)).resolve_right whole
      refine ⟨[], List.nil_prefix, fun c ascii ↦ ?_⟩
      rw [List.count_nil, List.count_eq_zero]
      intro mem
      obtain rfl := (mem_encodeChar_iff ascii).1 (cut.subset mem)
      rw [encodeChar_of_isAscii ascii] at cut whole
      rcases List.prefix_cons_iff.1 cut with rfl | ⟨rest, rfl, -⟩
      · simp at mem
      · exact whole (by simp)

end SoloScript.Text.Utf8
