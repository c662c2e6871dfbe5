/-!
# Shortest decimal form

A binary64 number is written with the fewest significant digits that still read back as it; of
two such forms of one length the nearer one is taken, and the even one if they are equally near.
All comparisons are exact, on natural numbers.
-/

namespace SoloScript.Number

/-! ## Reals that round to a number -/

/-- The reals that round to a positive number: those between `low` and `high`, over the common
denominator `denominator`, with the ends included if `closed`. -/
structure Rounding where
  low : Nat
  value : Nat
  high : Nat
  denominator : Nat
  closed : Bool
deriving DecidableEq, Repr

namespace Rounding

/-- The bits of a positive finite number are its exponent field and its fraction.  At a power of two
the gap below is half the gap above. -/
def ofBits (bits : Nat) : Rounding :=
  let field := bits / Nat.pow 2 52 % Nat.pow 2 11
  let fraction := bits % Nat.pow 2 52
  let significand := if field = 0 then fraction else Nat.pow 2 52 + fraction
  let exponent := max field 1
  let below := if fraction = 0 ∧ 1 < field then 1 else 2
  let scale := Nat.pow 2 (exponent - 1077)
  ⟨(4 * significand - below) * scale, 4 * significand * scale, (4 * significand + 2) * scale,
    Nat.pow 2 (1077 - exponent), significand % 2 = 0⟩

/-- Whether `n` units of `10 ^ k` round to the number. -/
def holds (r : Rounding) (k : Int) (n : Nat) : Bool :=
  let x := n * Nat.pow 10 k.toNat * r.denominator
  let scale := Nat.pow 10 (-k).toNat
  if r.closed then r.low * scale ≤ x && x ≤ r.high * scale
  else r.low * scale < x && x < r.high * scale

/-- The multiple of `10 ^ k` that is nearest to the number, among those that round to it. -/
def nearest? (r : Rounding) (k : Int) : Option Nat :=
  let unit := Nat.pow 10 k.toNat * r.denominator
  let value := r.value * Nat.pow 10 (-k).toNat
  let n := value / unit
  let excess := 2 * (value % unit)
  let nearer := if excess < unit ∨ (excess = unit ∧ n % 2 = 0) then [n, n + 1] else [n + 1, n]
  nearer.find? (r.holds k)

/-- The least `e` such that the number is below `10 ^ e`. -/
def magnitude (r : Rounding) : Int :=
  (Nat.toDigits 10 (r.value * Nat.pow 10 400 / r.denominator)).length - 400

/-- The shortest decimal form: its digits, and the power of ten that counts the last of them. -/
def shortest (r : Rounding) : Nat × Int :=
  let attempts := (List.range 17).filterMap fun (n : Nat) ↦
    let k := r.magnitude - (n + 1 : Nat)
    (r.nearest? k).map (·, k)
  attempts.headD (0, 0)

end Rounding

/-! ## Notation -/

/-- A decimal number in positional notation, with at least one digit on either side of the point;
`point` digits stand before the point. -/
def positional (digits : List Char) (point : Int) : List Char :=
  if point ≤ 0 then '0' :: '.' :: List.replicate (-point).toNat '0' ++ digits
  else
    let whole := digits.take point.toNat
    let fraction := digits.drop point.toNat
    whole ++ List.replicate (point.toNat - digits.length) '0'
      ++ '.' :: (if fraction = [] then ['0'] else fraction)

/-- A decimal number with one digit before the point and a signed exponent. -/
def scientific (digits : List Char) (exponent : Int) : List Char :=
  digits.take 1 ++ (if digits.length = 1 then [] else '.' :: digits.drop 1)
    ++ 'e' :: (if exponent < 0 then '-' else '+') :: Nat.toDigits 10 exponent.natAbs

/-- Numbers from `10 ^ (-5)` up to below `10 ^ 16` are written positionally. -/
def decimalText (digits : Nat) (unit : Int) : List Char :=
  let all := Nat.toDigits 10 digits
  let point := all.length + unit
  let significant := (all.reverse.dropWhile (· = '0')).reverse
  if -5 < point ∧ point ≤ 16 then positional significant point
  else scientific significant (point - 1)

/-- The text of a finite number. -/
def render (x : Float) : String :=
  let bits := x.toBits.toNat
  let sign := if Nat.pow 2 63 ≤ bits then ['-'] else []
  let size := bits % Nat.pow 2 63
  let body :=
    if size = 0 then ['0', '.', '0']
    else
      let (digits, unit) := (Rounding.ofBits size).shortest
      decimalText digits unit
  String.ofList (sign ++ body)

end SoloScript.Number
