/-!
# Punycode

A label of a host name that is not plain ASCII is written with the letters, digits and hyphens
alone: first its ASCII characters, then, in ascending order of the others, how far each is from
the one before it, as numbers of variable length in base 36.
-/

namespace SoloScript.Http.Punycode

/-- What labels that are written in this way begin with. -/
def mark : List Char := ['x', 'n', '-', '-']

def digit (n : Nat) : Char := if n < 26 then Char.ofNat (n + 97) else Char.ofNat (n + 22)

/-- The number of values of the digit with weight index `k` that end a number. -/
def threshold (k bias : Nat) : Nat := max 1 (min 26 (k - bias))

theorem threshold_pos (k bias : Nat) : 1 ≤ threshold k bias := by simp only [threshold]; omega

/-- Writes a number, least digit first. -/
def number (bias k n : Nat) : List Char :=
  let t := threshold k bias
  if n < t then [digit n]
  else digit (t + (n - t) % (36 - t)) :: number bias (k + 36) ((n - t) / (36 - t))
termination_by n
decreasing_by
  have := threshold_pos k bias
  have := Nat.div_le_self (n - threshold k bias) (36 - threshold k bias)
  omega

/-- Divides by 35 until the result is at most 455: the result and 36 for each division. -/
def shrink (n : Nat) : Nat × Nat :=
  if 455 < n then
    let (m, k) := shrink (n / 35)
    (m, k + 36)
  else (n, 0)

/-- The bias after a number has been written, as the `count`-th. -/
def adapt (first : Bool) (n count : Nat) : Nat :=
  let n := if first then n / 700 else n / 2
  let (m, k) := shrink (n + n / count)
  k + 36 * m / (m + 38)

/-- What has been written, and the state in which the next number is written: the distance so far,
the bias and the count of characters done. -/
structure Output where
  text : List Char
  distance : Nat
  bias : Nat
  done : Nat

/-- Looks at one character of the label while those equal to `next` are written; `plain` is the
number of ASCII characters. -/
def Output.see (plain : Nat) (next : Char) (out : Output) (c : Char) : Output :=
  if c < next then { out with distance := out.distance + 1 }
  else if c = next then
    let done := out.done + 1
    ⟨out.text ++ number out.bias 36 out.distance, 0,
      adapt (out.done = plain) out.distance done, done⟩
  else out

/-- Writes all characters of a label that are in `others`, which ascends; all smaller ones than
`floor` are done. -/
def writeOthers (label : List Char) (plain : Nat) : Nat → List Char → Output → Output
  | _, [], out => out
  | floor, next :: others, out =>
    let out := { out with distance := out.distance + (next.toNat - floor) * (out.done + 1) }
    let out := label.foldl (Output.see plain next) out
    writeOthers label plain (next.toNat + 1) others { out with distance := out.distance + 1 }

/-- The label in ASCII; one that is ASCII already stays. -/
def encode (label : List Char) : List Char :=
  let plain := label.filter (·.toNat < 0x80)
  let others := (label.filter (0x80 ≤ ·.toNat)).mergeSort (· ≤ ·)
  let others := others.foldr (fun c cs ↦ if cs.head? = some c then cs else c :: cs) []
  if others = [] then label
  else
    let out := writeOthers label plain.length 0x80 others ⟨[], 0, 72, plain.length⟩
    mark ++ plain ++ (if plain = [] then [] else ['-']) ++ out.text

/-! ## Reading -/

/-- No number that is read, and no weight of a digit, may be greater. -/
def limit : Nat := Nat.pow 2 32 - 1

def digitValue? (c : Char) : Option Nat :=
  if 'a' ≤ c ∧ c ≤ 'z' then some (c.toNat - 97)
  else if '0' ≤ c ∧ c ≤ '9' then some (c.toNat - 22)
  else none

/-- Reads a number and adds it to `sum`; `weight` is the weight of its next digit, with weight index
`k`. -/
def readNumber? (bias k weight sum : Nat) : List Char → Option (Nat × List Char)
  | [] => none
  | c :: cs =>
    match digitValue? c with
    | none => none
    | some d =>
      let t := threshold k bias
      let sum := sum + d * weight
      if limit < sum then none
      else if d < t then some (sum, cs)
      else if limit < weight * (36 - t) then none
      else readNumber? bias (k + 36) (weight * (36 - t)) sum cs

theorem length_of_readNumber? {bias k weight sum n : Nat} {text rest : List Char}
    (h : readNumber? bias k weight sum text = some (n, rest)) : rest.length < text.length := by
  induction text generalizing k weight sum with
  | nil => simp [readNumber?] at h
  | cons c cs ih =>
    simp only [readNumber?] at h
    split at h
    · simp at h
    · split at h
      · simp at h
      · split at h
        · simp only [Option.some.injEq, Prod.mk.injEq] at h
          simp [h.2]
        · split at h
          · simp at h
          · exact Nat.lt_succ_of_lt (ih h)

/-- Reads the characters that are not ASCII into `out`: the next has at least the code point `code`,
and `place` is where it would stand if it had that one. -/
def readOthers? (code place bias : Nat) (out : List Char) (text : List Char) :
    Option (List Char) :=
  match text with
  | [] => some out
  | c :: cs =>
    match _h : readNumber? bias 36 1 place (c :: cs) with
    | none => none
    | some (n, rest) =>
      let size := out.length + 1
      let code := code + n / size
      if code.isValidChar then
        readOthers? code (n % size + 1) (adapt (place = 0) (n - place) size)
          (out.insertIdx (n % size) (Char.ofNat code)) rest
      else none
termination_by text.length
decreasing_by exact length_of_readNumber? ‹_›

/-- The label that was written as `text` behind the mark.  The ASCII characters, if there are any,
stand before the last hyphen. -/
def decode? (text : List Char) : Option (List Char) :=
  let others := (text.reverse.takeWhile (· ≠ '-')).reverse
  let plain := text.take (text.length - others.length - 1)
  readOthers? 0x80 0 72 plain (if plain = [] then text else others)

end SoloScript.Http.Punycode
