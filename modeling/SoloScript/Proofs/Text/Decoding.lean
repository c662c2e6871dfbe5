import SoloScript.Proofs.Text.Utf8

/-!
# Decoding what has been encoded

The UTF-8 form of a text is read back character by character, whatever bytes follow.  So a text is
recovered from its bytes, and a text that starts with the bytes of another one starts with its
characters.
-/

namespace SoloScript.Text.Utf8

variable {c : Char} {text more : List Char}

/-! ## The bytes of a character -/

/-- The number of a character, which is none of a surrogate. -/
theorem char_bounds (c : Char) :
    c.val.toNat < 0xD800 ∨ 0xDFFF < c.val.toNat ∧ c.val.toNat < 0x110000 := by
  rcases c.valid with low | high
  · exact .inl low
  · exact .inr high

theorem toNat_ofNat_byte {n : Nat} (small : n < 256) : (UInt8.ofNat n).toNat = n := by
  rw [UInt8.toNat_ofNat', Nat.mod_eq_of_lt small]

/-- A follower within its range adds its six bits. -/
theorem followers_follower {low high : UInt8} {n : Nat} (bits left : Nat) (rest : List UInt8)
    (above : low.toNat ≤ n % 64 + 0x80) (below : n % 64 + 0x80 ≤ high.toNat) :
    followers low high bits (left + 1) (UInt8.ofNat (n % 64 + 0x80) :: rest) =
      followers 0x80 0xBF (bits * 64 + n % 64) left rest := by
  have value : (UInt8.ofNat (n % 64 + 0x80)).toNat = n % 64 + 0x80 := toNat_ofNat_byte (by omega)
  have inside : low ≤ UInt8.ofNat (n % 64 + 0x80) ∧ UInt8.ofNat (n % 64 + 0x80) ≤ high := by
    rw [UInt8.le_iff_toNat_le, UInt8.le_iff_toNat_le, value]
    exact ⟨above, below⟩
  have low_bits : (n % 64 + 0x80) % 64 = n % 64 := by omega
  rw [followers, if_pos inside, value, low_bits]

/-- A lead byte says how many followers there are, and allows the first of them. -/
structure Leads (byte : UInt8) (followers bits first : Nat) : Prop where
  high : ¬byte < 0x80
  lead : ∃ low high, Lead.of? byte = some ⟨followers, bits, low, high⟩ ∧
    low.toNat ≤ first ∧ first ≤ high.toNat

theorem not_lt_of_toNat_eq {byte : UInt8} {n lead : Nat} (value : byte.toNat = n + lead)
    (high : 0x80 ≤ lead) : ¬byte < 0x80 := by
  rw [UInt8.lt_iff_toNat_lt, value]
  exact Nat.not_lt.2 (Nat.le_add_left_of_le high)

theorem leads_two {n : Nat} (above : 0x7f < n) (below : n ≤ 0x7ff) :
    Leads (UInt8.ofNat (n / 64 % 32 + 0xc0)) 1 (n / 64) (n % 64 + 0x80) := by
  have value : (UInt8.ofNat (n / 64 % 32 + 0xc0)).toNat = n / 64 + 0xc0 := by
    rw [toNat_ofNat_byte (by omega)]
    omega
  refine ⟨not_lt_of_toNat_eq value (by decide), 0x80, 0xBF, ?_, ?_⟩
  · simp only [Lead.of?, value]
    rw [if_neg (by omega), if_pos (by omega), Nat.add_sub_cancel]
  · show 0x80 ≤ n % 64 + 0x80 ∧ n % 64 + 0x80 ≤ 0xBF
    omega

theorem leads_three {n : Nat} (above : 0x7ff < n) (below : n ≤ 0xffff)
    (plain : n < 0xD800 ∨ 0xDFFF < n) :
    Leads (UInt8.ofNat (n / 4096 % 16 + 0xe0)) 2 (n / 4096) (n / 64 % 64 + 0x80) := by
  have value : (UInt8.ofNat (n / 4096 % 16 + 0xe0)).toNat = n / 4096 + 0xe0 := by
    rw [toNat_ofNat_byte (by omega)]
    omega
  refine ⟨not_lt_of_toNat_eq value (by decide), ?_⟩
  simp only [Lead.of?, value]
  rw [if_neg (by omega), if_neg (by omega)]
  by_cases least : n / 4096 = 0
  · refine ⟨0xA0, 0xBF, ?_, ?_⟩
    · rw [if_pos (by omega), least]
    · show 0xA0 ≤ n / 64 % 64 + 0x80 ∧ n / 64 % 64 + 0x80 ≤ 0xBF
      omega
  rw [if_neg (by omega)]
  by_cases surrogates : n / 4096 = 0xD
  · refine ⟨0x80, 0x9F, ?_, ?_⟩
    · rw [if_pos (by omega), surrogates]
    · show 0x80 ≤ n / 64 % 64 + 0x80 ∧ n / 64 % 64 + 0x80 ≤ 0x9F
      omega
  · refine ⟨0x80, 0xBF, ?_, ?_⟩
    · rw [if_neg (by omega), if_pos (by omega), Nat.add_sub_cancel]
    · show 0x80 ≤ n / 64 % 64 + 0x80 ∧ n / 64 % 64 + 0x80 ≤ 0xBF
      omega

theorem leads_four {n : Nat} (above : 0xffff < n) (below : n < 0x110000) :
    Leads (UInt8.ofNat (n / 262144 % 8 + 0xf0)) 3 (n / 262144) (n / 4096 % 64 + 0x80) := by
  have value : (UInt8.ofNat (n / 262144 % 8 + 0xf0)).toNat = n / 262144 + 0xf0 := by
    rw [toNat_ofNat_byte (by omega)]
    omega
  refine ⟨not_lt_of_toNat_eq value (by decide), ?_⟩
  simp only [Lead.of?, value]
  rw [if_neg (by omega), if_neg (by omega), if_neg (by omega), if_neg (by omega),
    if_neg (by omega)]
  by_cases least : n / 262144 = 0
  · refine ⟨0x90, 0xBF, ?_, ?_⟩
    · rw [if_pos (by omega), least]
    · show 0x90 ≤ n / 4096 % 64 + 0x80 ∧ n / 4096 % 64 + 0x80 ≤ 0xBF
      omega
  rw [if_neg (by omega)]
  by_cases greatest : n / 262144 = 4
  · refine ⟨0x80, 0x8F, ?_, ?_⟩
    · rw [if_neg (by omega), if_pos (by omega), greatest]
    · show 0x80 ≤ n / 4096 % 64 + 0x80 ∧ n / 4096 % 64 + 0x80 ≤ 0x8F
      omega
  · refine ⟨0x80, 0xBF, ?_, ?_⟩
    · rw [if_pos (by omega), Nat.add_sub_cancel]
    · show 0x80 ≤ n / 4096 % 64 + 0x80 ∧ n / 4096 % 64 + 0x80 ≤ 0xBF
      omega

/-! ## Characters -/

/-- A follower that needs no narrower range. -/
theorem followers_plain (bits left n : Nat) (rest : List UInt8) :
    followers 0x80 0xBF bits (left + 1) (UInt8.ofNat (n % 64 + 0x80) :: rest) =
      followers 0x80 0xBF (bits * 64 + n % 64) left rest := by
  apply followers_follower bits left rest
  · show 0x80 ≤ n % 64 + 0x80
    omega
  · show n % 64 + 0x80 ≤ 0xBF
    omega

/-- A lead byte and its followers are read as the number of their bits. -/
theorem head_of_leads {byte : UInt8} {left bits n m : Nat} {bytes rest : List UInt8}
    (leads : Leads byte (left + 1) bits (n % 64 + 0x80))
    (others : followers 0x80 0xBF (bits * 64 + n % 64) left bytes = (some m, rest)) :
    head byte (UInt8.ofNat (n % 64 + 0x80) :: bytes) = (some (Char.ofNat m), rest) := by
  obtain ⟨low, high, found, above, below⟩ := leads.lead
  rw [head, if_neg leads.high, found]
  simp only [followers_follower bits left bytes above below, others, Option.map_some]

/-- The form of a character is read as that character, whatever follows it. -/
theorem head_encodeChar (c : Char) (rest : List UInt8) :
    ∃ byte bytes, String.utf8EncodeChar c ++ rest = byte :: bytes ∧
      head byte bytes = (some c, rest) := by
  have valid := char_bounds c
  have back : Char.ofNat c.val.toNat = c := Char.ofNat_toNat c
  rw [String.utf8EncodeChar]
  generalize c.val.toNat = n at valid back
  by_cases one : n ≤ 0x7f
  · refine ⟨UInt8.ofNat n, rest, by simp only [if_pos one, List.singleton_append], ?_⟩
    have value : (UInt8.ofNat n).toNat = n := toNat_ofNat_byte (by omega)
    have small : UInt8.ofNat n < 0x80 := by
      rw [UInt8.lt_iff_toNat_lt, value]
      exact Nat.lt_succ_of_le one
    rw [head, if_pos small, value, back]
  by_cases two : n ≤ 0x7ff
  · refine ⟨_, _, by simp only [if_neg one, if_pos two, List.cons_append, List.nil_append]; rfl, ?_⟩
    have bits : n / 64 * 64 + n % 64 = n := Nat.div_add_mod' n 64
    have none : followers 0x80 0xBF (n / 64 * 64 + n % 64) 0 rest =
        (some (n / 64 * 64 + n % 64), rest) := by
      rw [followers]
    rw [head_of_leads (leads_two (by omega) two) none, bits, back]
  by_cases three : n ≤ 0xffff
  · refine ⟨_, _, by
      simp only [if_neg one, if_neg two, if_pos three, List.cons_append, List.nil_append]; rfl, ?_⟩
    have bits : (n / 4096 * 64 + n / 64 % 64) * 64 + n % 64 = n := by omega
    have one : followers 0x80 0xBF (n / 4096 * 64 + n / 64 % 64) 1
        (UInt8.ofNat (n % 64 + 0x80) :: rest) =
          (some ((n / 4096 * 64 + n / 64 % 64) * 64 + n % 64), rest) := by
      rw [followers_plain, followers]
    rw [head_of_leads (leads_three (by omega) three (by omega)) one, bits, back]
  · refine ⟨_, _, by
      simp only [if_neg one, if_neg two, if_neg three, List.cons_append, List.nil_append]; rfl, ?_⟩
    have bits : ((n / 262144 * 64 + n / 4096 % 64) * 64 + n / 64 % 64) * 64 + n % 64 = n := by omega
    have two : followers 0x80 0xBF (n / 262144 * 64 + n / 4096 % 64) 2
        (UInt8.ofNat (n / 64 % 64 + 0x80) :: UInt8.ofNat (n % 64 + 0x80) :: rest) =
          (some (((n / 262144 * 64 + n / 4096 % 64) * 64 + n / 64 % 64) * 64 + n % 64), rest) := by
      rw [followers_plain, followers_plain, followers]
    rw [head_of_leads (leads_four (by omega) (by omega)) two, bits, back]

theorem scalars_encodeChar_append (c : Char) (rest : List UInt8) :
    scalars (String.utf8EncodeChar c ++ rest) = some c :: scalars rest := by
  obtain ⟨byte, bytes, split, read⟩ := head_encodeChar c rest
  rw [split, scalars, read]

/-! ## Texts -/

/-- What follows a text does not change how it is read. -/
theorem scalars_bytes_append (text : List Char) (rest : List UInt8) :
    scalars (bytes text ++ rest) = text.map some ++ scalars rest := by
  induction text with
  | nil => rfl
  | cons c text ih =>
    rw [bytes_cons, List.append_assoc, scalars_encodeChar_append, ih, List.map_cons,
      List.cons_append]

theorem scalars_bytes (text : List Char) : scalars (bytes text) = text.map some := by
  have whole := scalars_bytes_append text []
  rwa [List.append_nil, scalars, List.append_nil] at whole

theorem decode?_encode (text : String) : decode? (encode text) = some text := by
  have read : (text.toList.map some).mapM id = some text.toList := by
    rw [List.mapM_map]
    exact List.mapM_pure.trans (congrArg some (List.map_id _))
  rw [decode?, encode_eq_bytes, scalars_bytes, read, Option.map_some, String.ofList_toList]

/-- No character of a text is lost. -/
theorem decodeLossy_encode (text : String) : decodeLossy (encode text) = text := by
  rw [decodeLossy, encode_eq_bytes, scalars_bytes, List.map_map]
  exact (congrArg String.ofList (List.map_id _)).trans String.ofList_toList

/-- A text starts with the characters whose bytes it starts with. -/
theorem prefix_of_bytes_prefix (h : bytes text <+: bytes more) : text <+: more := by
  obtain ⟨rest, split⟩ := h
  have same := scalars_bytes_append text rest
  rw [split, scalars_bytes] at same
  exact (List.prefix_map_iff_of_injective fun _ _ ↦ Option.some.inj).1 ⟨_, same.symm⟩

end SoloScript.Text.Utf8
