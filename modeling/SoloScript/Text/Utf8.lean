/-!
# UTF-8 on lists

Lengths and offsets in this library count the bytes of a text's UTF-8 form.  Decoding reads one
scalar value at a time: `head` either yields the scalar value at the front of a byte list, or
drops the longest piece that could still have become one.
-/

namespace SoloScript.Text.Utf8

/-! ## Lengths and encoding -/

/-- The number of bytes in the UTF-8 form of a text. -/
def size : List Char → Nat
  | [] => 0
  | c :: cs => c.utf8Size + size cs

@[simp] theorem size_nil : size [] = 0 := rfl
@[simp] theorem size_cons (c : Char) (cs : List Char) : size (c :: cs) = c.utf8Size + size cs := rfl

@[simp] theorem size_append (u v : List Char) : size (u ++ v) = size u + size v := by
  induction u with
  | nil => simp
  | cons c u ih => simp [ih, Nat.add_assoc]

def encode (text : String) : List UInt8 := text.toList.flatMap String.utf8EncodeChar

/-! ## Decoding -/

/-- What a lead byte announces: how many bytes follow it, the bits it contributes, and the range
of the first follower.  The narrowed ranges exclude overlong forms, surrogates and values past
`U+10FFFF`. -/
structure Lead where
  followers : Nat
  bits : Nat
  low : UInt8
  high : UInt8

def Lead.of? (b : UInt8) : Option Lead :=
  let n := b.toNat
  if n < 0xC2 then none
  else if n < 0xE0 then some ⟨1, n - 0xC0, 0x80, 0xBF⟩
  else if n = 0xE0 then some ⟨2, 0, 0xA0, 0xBF⟩
  else if n = 0xED then some ⟨2, 0xD, 0x80, 0x9F⟩
  else if n < 0xF0 then some ⟨2, n - 0xE0, 0x80, 0xBF⟩
  else if n = 0xF0 then some ⟨3, 0, 0x90, 0xBF⟩
  else if n < 0xF4 then some ⟨3, n - 0xF0, 0x80, 0xBF⟩
  else if n = 0xF4 then some ⟨3, 4, 0x80, 0x8F⟩
  else none

/-- Reads `n` follower bytes onto `bits`, the first of them between `low` and `high`. -/
def followers (low high : UInt8) (bits : Nat) : Nat → List UInt8 → Option Nat × List UInt8
  | 0, rest => (some bits, rest)
  | _ + 1, [] => (none, [])
  | n + 1, b :: rest =>
    if low ≤ b ∧ b ≤ high then followers 0x80 0xBF (bits * 64 + b.toNat % 64) n rest
    else (none, b :: rest)

theorem length_followers_le (low high : UInt8) (bits n : Nat) (bytes : List UInt8) :
    (followers low high bits n bytes).2.length ≤ bytes.length := by
  induction n generalizing low high bits bytes with
  | zero => simp [followers]
  | succ n ih =>
    cases bytes with
    | nil => simp [followers]
    | cons b rest =>
      simp only [followers]
      split
      · exact Nat.le_succ_of_le (ih ..)
      · simp

/-- The scalar value that `b :: rest` starts with, or `none` where none does, and the bytes left. -/
def head (b : UInt8) (rest : List UInt8) : Option Char × List UInt8 :=
  if b < 0x80 then (some (Char.ofNat b.toNat), rest)
  else match Lead.of? b with
    | none => (none, rest)
    | some lead =>
      let read := followers lead.low lead.high lead.bits lead.followers rest
      (read.1.map Char.ofNat, read.2)

theorem length_head_le (b : UInt8) (rest : List UInt8) : (head b rest).2.length ≤ rest.length := by
  simp only [head]
  split
  · simp
  · split
    · simp
    · exact length_followers_le ..

/-- The scalar values of a byte list, with `none` for each ill-formed piece. -/
def scalars : List UInt8 → List (Option Char)
  | [] => []
  | b :: rest => (head b rest).1 :: scalars (head b rest).2
termination_by bytes => bytes.length
decreasing_by exact Nat.lt_succ_of_le (length_head_le b rest)

/-- The text whose UTF-8 form is `bytes`, if there is one. -/
def decode? (bytes : List UInt8) : Option String :=
  ((scalars bytes).mapM id).map String.ofList

/-- Decodes with `U+FFFD` in place of every ill-formed piece.  A byte order mark stays. -/
def decodeLossy (bytes : List UInt8) : String :=
  String.ofList ((scalars bytes).map fun c ↦ c.getD '\uFFFD')

end SoloScript.Text.Utf8
