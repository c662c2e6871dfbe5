/-!
# How alike two words are

Two characters of two words match if they are equal and less than half the longer word apart.  The
measure is the mean of three shares: of the matches in either word, and of the matches that come in
the same order.
-/

namespace SoloScript.Text

/-- Marks the first free character among those at `low`, …, `high - 1` that equals `c`; `none` if
there is none. -/
def mark? (c : Char) (low high : Nat) (free : List (Char × Bool)) : Option (List (Char × Bool)) :=
  let place := (free.zipIdx.find? fun ((d, isFree), i) ↦ low ≤ i ∧ i < high ∧ d = c ∧ isFree)
  place.map fun ((d, _), i) ↦ free.set i (d, false)

/-- The characters of the first word that match, in order, and what is left free of the second. -/
def matching (reach : Nat) : List (Char × Nat) → List (Char × Bool) → List Char × List (Char × Bool)
  | [], free => ([], free)
  | (c, i) :: rest, free =>
    match mark? c (i - reach) (i + reach + 1) free with
    | some free =>
      let (others, free) := matching reach rest free
      (c :: others, free)
    | none => matching reach rest free

def similarity (u v : List Char) : Float :=
  let reach := max u.length v.length / 2 - 1
  let (left, free) := matching reach u.zipIdx (v.map (·, true))
  let right := (free.filter (!·.2)).map (·.1)
  let common := left.length
  let moved := ((left.zip right).filter fun (c, d) ↦ c ≠ d).length / 2
  if u = [] ∧ v = [] then 1
  else if common = 0 then 0
  else
    (common.toFloat / u.length.toFloat + common.toFloat / v.length.toFloat
      + (common - moved).toFloat / common.toFloat) / 3

end SoloScript.Text
