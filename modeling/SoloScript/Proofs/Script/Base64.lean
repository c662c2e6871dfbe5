import Mathlib.Tactic.SplitIfs
import SoloScript.Script.Base64

/-!
# Base64 reads back

`decode?` accepts exactly what `encode` writes.  The argument goes group by group: a digit and its
value determine each other, hence so do the bytes and the digits of a group of one, two or three
bytes, and the bytes and the digits of a whole text.
-/

namespace SoloScript.Script.Base64

/-! ## Digits and values -/

theorem value?_digit {n : Nat} (h : n < 64) : value? (digit n) = some n := by
  revert n
  decide

theorem eq_digit_of_value? {c : Char} {n : Nat} (h : value? c = some n) :
    n < 64 ∧ c = digit n := by
  have code {k : Nat} (hk : c.toNat = k) : c = Char.ofNat k := by
    rw [← hk, Char.ofNat_toNat]
  simp only [value?] at h
  split_ifs at h with upper lower number plus slash
  · obtain rfl : c.toNat - 65 = n := by simpa using h
    exact ⟨by omega, by rw [digit, if_pos (by omega)]; exact code (by omega)⟩
  · obtain rfl : c.toNat - 71 = n := by simpa using h
    refine ⟨by omega, ?_⟩
    rw [digit, if_neg (by omega), if_pos (by omega)]
    exact code (by omega)
  · obtain rfl : c.toNat + 4 = n := by simpa using h
    refine ⟨by omega, ?_⟩
    rw [digit, if_neg (by omega), if_neg (by omega), if_pos (by omega)]
    exact code (by omega)
  · obtain rfl : 62 = n := by simpa using h
    exact ⟨by omega, plus⟩
  · obtain rfl : 63 = n := by simpa using h
    exact ⟨by omega, slash⟩

/-- Digits and values below 64 correspond. -/
theorem value?_eq_some_iff {c : Char} {n : Nat} : value? c = some n ↔ n < 64 ∧ c = digit n :=
  ⟨eq_digit_of_value?, fun ⟨h, hc⟩ ↦ hc ▸ value?_digit h⟩

theorem digit_ne_pad {n : Nat} (h : n < 64) : digit n ≠ '=' := by
  revert n
  decide

/-! ## Groups -/

theorem oneByte?_eq_some_iff {p q : Char} {bytes : List UInt8} :
    oneByte? p q = some bytes ↔
      ∃ a : UInt8, bytes = [a] ∧ p = digit (a.toNat / 4) ∧ q = digit (a.toNat % 4 * 16) := by
  simp only [oneByte?, Option.bind_eq_bind, Option.bind_eq_some_iff, value?_eq_some_iff]
  constructor
  · rintro ⟨x, ⟨hx, rfl⟩, y, ⟨hy, rfl⟩, h⟩
    split_ifs at h with low
    have byte := UInt8.toNat_ofNat_of_lt' (show x * 4 + y / 16 < 256 by omega)
    refine ⟨_, (Option.some.inj h).symm, ?_, ?_⟩
    · rw [byte]; congr 1; omega
    · rw [byte]; congr 1; omega
  · rintro ⟨a, rfl, rfl, rfl⟩
    have := a.toNat_lt
    refine ⟨_, ⟨by omega, rfl⟩, _, ⟨by omega, rfl⟩, ?_⟩
    rw [if_pos (by omega)]
    have : a.toNat / 4 * 4 + a.toNat % 4 * 16 / 16 = a.toNat := by omega
    rw [this, UInt8.ofNat_toNat]

theorem twoBytes?_eq_some_iff {p q r : Char} {bytes : List UInt8} :
    twoBytes? p q r = some bytes ↔
      ∃ a b : UInt8, bytes = [a, b] ∧ p = digit (a.toNat / 4) ∧
        q = digit (a.toNat % 4 * 16 + b.toNat / 16) ∧ r = digit (b.toNat % 16 * 4) := by
  simp only [twoBytes?, Option.bind_eq_bind, Option.bind_eq_some_iff, value?_eq_some_iff]
  constructor
  · rintro ⟨x, ⟨hx, rfl⟩, y, ⟨hy, rfl⟩, z, ⟨hz, rfl⟩, h⟩
    split_ifs at h with low
    have first := UInt8.toNat_ofNat_of_lt' (show x * 4 + y / 16 < 256 by omega)
    have second := UInt8.toNat_ofNat_of_lt' (show y % 16 * 16 + z / 4 < 256 by omega)
    refine ⟨_, _, (Option.some.inj h).symm, ?_, ?_, ?_⟩
    · rw [first]; congr 1; omega
    · rw [first, second]; congr 1; omega
    · rw [second]; congr 1; omega
  · rintro ⟨a, b, rfl, rfl, rfl, rfl⟩
    have := a.toNat_lt
    have := b.toNat_lt
    refine ⟨_, ⟨by omega, rfl⟩, _, ⟨by omega, rfl⟩, _, ⟨by omega, rfl⟩, ?_⟩
    rw [if_pos (by omega)]
    have first : a.toNat / 4 * 4 + (a.toNat % 4 * 16 + b.toNat / 16) / 16 = a.toNat := by omega
    have second : (a.toNat % 4 * 16 + b.toNat / 16) % 16 * 16 + b.toNat % 16 * 4 / 4 = b.toNat := by
      omega
    rw [first, second, UInt8.ofNat_toNat, UInt8.ofNat_toNat]

theorem threeBytes?_eq_some_iff {p q r s : Char} {bytes : List UInt8} :
    threeBytes? p q r s = some bytes ↔
      ∃ a b c : UInt8, bytes = [a, b, c] ∧ p = digit (a.toNat / 4) ∧
        q = digit (a.toNat % 4 * 16 + b.toNat / 16) ∧
        r = digit (b.toNat % 16 * 4 + c.toNat / 64) ∧ s = digit (c.toNat % 64) := by
  simp only [threeBytes?, Option.bind_eq_bind, Option.bind_eq_some_iff, value?_eq_some_iff]
  constructor
  · rintro ⟨x, ⟨hx, rfl⟩, y, ⟨hy, rfl⟩, z, ⟨hz, rfl⟩, w, ⟨hw, rfl⟩, h⟩
    have first := UInt8.toNat_ofNat_of_lt' (show x * 4 + y / 16 < 256 by omega)
    have second := UInt8.toNat_ofNat_of_lt' (show y % 16 * 16 + z / 4 < 256 by omega)
    have third := UInt8.toNat_ofNat_of_lt' (show z % 4 * 64 + w < 256 by omega)
    refine ⟨_, _, _, (Option.some.inj h).symm, ?_, ?_, ?_, ?_⟩
    · rw [first]; congr 1; omega
    · rw [first, second]; congr 1; omega
    · rw [second, third]; congr 1; omega
    · rw [third]; congr 1; omega
  · rintro ⟨a, b, c, rfl, rfl, rfl, rfl, rfl⟩
    have := a.toNat_lt
    have := b.toNat_lt
    have := c.toNat_lt
    refine ⟨_, ⟨by omega, rfl⟩, _, ⟨by omega, rfl⟩, _, ⟨by omega, rfl⟩, _, ⟨by omega, rfl⟩, ?_⟩
    have first : a.toNat / 4 * 4 + (a.toNat % 4 * 16 + b.toNat / 16) / 16 = a.toNat := by omega
    have second : (a.toNat % 4 * 16 + b.toNat / 16) % 16 * 16 +
        (b.toNat % 16 * 4 + c.toNat / 64) / 4 = b.toNat := by omega
    have third : (b.toNat % 16 * 4 + c.toNat / 64) % 4 * 64 + c.toNat % 64 = c.toNat := by omega
    rw [first, second, third, UInt8.ofNat_toNat, UInt8.ofNat_toNat, UInt8.ofNat_toNat]

/-! ## Whole texts -/

theorem decode?_encode (bytes : List UInt8) : decode? (encode bytes) = some bytes := by
  fun_induction encode bytes with
  | case1 => rfl
  | case2 a =>
    have read := oneByte?_eq_some_iff.2 ⟨a, rfl, rfl, rfl⟩
    simpa [decode?] using read
  | case3 a b =>
    have read := twoBytes?_eq_some_iff.2 ⟨a, b, rfl, rfl, rfl, rfl⟩
    have := b.toNat_lt
    have third : digit (b.toNat % 16 * 4) ≠ '=' := digit_ne_pad (by omega)
    simpa [decode?, third] using read
  | case4 a b c rest ih =>
    have read := threeBytes?_eq_some_iff.2 ⟨a, b, c, rfl, rfl, rfl, rfl, rfl⟩
    have fourth : digit (c.toNat % 64) ≠ '=' := digit_ne_pad (by omega)
    simp [decode?, fourth, read, ih]

theorem eq_encode_of_decode? {text : List Char} {bytes : List UInt8}
    (h : decode? text = some bytes) : text = encode bytes := by
  fun_induction decode? text generalizing bytes with
  | case1 =>
    obtain rfl : [] = bytes := by simpa using h
    rfl
  | case2 p q s rest last =>
    obtain ⟨rfl, rfl⟩ := last
    obtain ⟨a, rfl, rfl, rfl⟩ := oneByte?_eq_some_iff.1 h
    rfl
  | case3 p q r s rest last pad =>
    obtain ⟨rfl, rfl⟩ := last
    obtain ⟨a, b, rfl, rfl, rfl, rfl⟩ := twoBytes?_eq_some_iff.1 h
    rfl
  | case4 p q r s rest last ih =>
    obtain ⟨group, read, more, readMore, rfl⟩ : ∃ group, threeBytes? p q r s = some group ∧
        ∃ more, decode? rest = some more ∧ group ++ more = bytes := by
      simpa [Option.bind_eq_some_iff] using h
    obtain ⟨a, b, c, rfl, rfl, rfl, rfl, rfl⟩ := threeBytes?_eq_some_iff.1 read
    rw [ih readMore]
    rfl
  | case5 => simp at h

theorem decode?_eq_some_iff {text : List Char} {bytes : List UInt8} :
    decode? text = some bytes ↔ text = encode bytes :=
  ⟨eq_encode_of_decode?, fun h ↦ h ▸ decode?_encode bytes⟩

/-- An encoded text is digits with padding behind them that fills up the last group of four. -/
theorem encode_eq_digits_append (bytes : List UInt8) :
    ∃ digits, encode bytes = digits ++ List.replicate ((3 - bytes.length % 3) % 3) '=' ∧
      ∀ c ∈ digits, (value? c).isSome := by
  have isDigit {n : Nat} (h : n < 64) : (value? (digit n)).isSome := by simp [value?_digit h]
  fun_induction encode bytes with
  | case1 => exact ⟨[], rfl, by simp⟩
  | case2 a =>
    have := a.toNat_lt
    refine ⟨_ :: _ :: [], rfl, ?_⟩
    simp only [List.forall_mem_cons]
    exact ⟨isDigit (by omega), isDigit (by omega), by simp⟩
  | case3 a b =>
    have := a.toNat_lt
    have := b.toNat_lt
    refine ⟨_ :: _ :: _ :: [], rfl, ?_⟩
    simp only [List.forall_mem_cons]
    exact ⟨isDigit (by omega), isDigit (by omega), isDigit (by omega), by simp⟩
  | case4 a b c rest ih =>
    have := a.toNat_lt
    have := b.toNat_lt
    have := c.toNat_lt
    obtain ⟨digits, h, all⟩ := ih
    have filled : (3 - (a :: b :: c :: rest).length % 3) % 3 = (3 - rest.length % 3) % 3 := by
      simp only [List.length_cons]
      omega
    refine ⟨_ :: _ :: _ :: _ :: digits, by rw [filled, h]; rfl, ?_⟩
    simp only [List.forall_mem_cons]
    exact ⟨isDigit (by omega), isDigit (by omega), isDigit (by omega), isDigit (by omega), all⟩

end SoloScript.Script.Base64
