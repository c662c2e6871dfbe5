import SoloScript.Json.Value
import SoloScript.Proofs.Json.Cursor

/-!
# The grammar of JSON

What is a JSON text and what it stands for, told without a reader.  A value has no blanks around it:
they belong to the array or object that it is in, where they may stand between any two tokens.  A
string may hold escapes of single surrogates; then it is a string as any other, but there is no text
that it stands for.
-/

namespace SoloScript.Json

/-! ## Strings -/

/-- The letters of short escapes and what they stand for. -/
def shortEscapes : List (Char × Char) :=
  [('"', '"'), ('\\', '\\'), ('/', '/'), ('b', '\x08'), ('f', '\x0c'), ('n', '\n'), ('r', '\r'),
    ('t', '\t')]

/-- A character that stands for itself. -/
def IsPlain (c : Char) : Prop := c ≠ '"' ∧ c ≠ '\\' ∧ 0x20 ≤ c.toNat

instance (c : Char) : Decidable (IsPlain c) := inferInstanceAs (Decidable (_ ∧ _))

def ArePlain (text : List Char) : Prop := ∀ c ∈ text, IsPlain c

instance (text : List Char) : Decidable (ArePlain text) := List.decidableBAll _ text

/-- A string behind its opening quote. -/
inductive Quoted : List Char → Prop
  | close : Quoted ['"']
  | plain {c : Char} {text : List Char} (plain : IsPlain c) (others : Quoted text) :
      Quoted (c :: text)
  | short {letter c : Char} {text : List Char} (escape : (letter, c) ∈ shortEscapes)
      (others : Quoted text) : Quoted ('\\' :: letter :: text)
  | numbered {p q r s : Char} {n : Nat} {text : List Char}
      (number : StringLiteral.hexUnit? p q r s = some n) (others : Quoted text) :
      Quoted ('\\' :: 'u' :: p :: q :: r :: s :: text)

/-- A string behind its opening quote, and the text that it stands for. -/
inductive Denotes : List Char → List Char → Prop
  | close : Denotes ['"'] []
  | plain {c : Char} {text value : List Char} (plain : IsPlain c) (others : Denotes text value) :
      Denotes (c :: text) (c :: value)
  | short {letter c : Char} {text value : List Char} (escape : (letter, c) ∈ shortEscapes)
      (others : Denotes text value) : Denotes ('\\' :: letter :: text) (c :: value)
  | numbered {p q r s : Char} {n : Nat} {text value : List Char}
      (number : StringLiteral.hexUnit? p q r s = some n) (scalar : n < 0xD800 ∨ 0xDFFF < n)
      (others : Denotes text value) :
      Denotes ('\\' :: 'u' :: p :: q :: r :: s :: text) (Char.ofNat n :: value)
  | pair {p q r s p' q' r' s' : Char} {n n' : Nat} {text value : List Char}
      (high : StringLiteral.hexUnit? p q r s = some n) (leads : 0xD800 ≤ n ∧ n ≤ 0xDBFF)
      (low : StringLiteral.hexUnit? p' q' r' s' = some n') (trails : 0xDC00 ≤ n' ∧ n' ≤ 0xDFFF)
      (others : Denotes text value) :
      Denotes ('\\' :: 'u' :: p :: q :: r :: s :: '\\' :: 'u' :: p' :: q' :: r' :: s' :: text)
        (Char.ofNat (0x10000 + (n - 0xD800) * 0x400 + (n' - 0xDC00)) :: value)

/-- What stands for a text is a string. -/
theorem Denotes.quoted {text value : List Char} (h : Denotes text value) : Quoted text := by
  induction h with
  | close => exact .close
  | plain plain _ ih => exact .plain plain ih
  | short escape _ ih => exact .short escape ih
  | numbered number _ _ ih => exact .numbered number ih
  | pair high _ low _ _ ih => exact .numbered high (.numbered low ih)

/-- Plain characters stand for themselves. -/
theorem Denotes.append {front text value : List Char} (plain : ArePlain front)
    (others : Denotes text value) : Denotes (front ++ text) (front ++ value) := by
  induction front with
  | nil => exact others
  | cons c front ih =>
    obtain ⟨first, plain⟩ := List.forall_mem_cons.1 plain
    exact .plain first (ih plain)

/-! ## Numbers -/

/-- One digit or more. -/
def Digits (text : List Char) : Prop := text ≠ [] ∧ ∀ d ∈ text, d.isDigit = true

instance (text : List Char) : Decidable (Digits text) :=
  @instDecidableAnd _ _ inferInstance (List.decidableBAll _ text)

/-- The digits of a whole number: a zero stands alone. -/
def Whole (text : List Char) : Prop := Digits text ∧ ∀ others, text = '0' :: others → others = []

/-- A point and the digits behind it, or nothing. -/
inductive Fraction : List Char → List Char → Prop
  | absent : Fraction [] []
  | present {digits : List Char} (digits' : Digits digits) : Fraction ('.' :: digits) digits

/-- The sign of an exponent; `true` stands for a minus. -/
inductive Sign : List Char → Bool → Prop
  | absent : Sign [] false
  | plus : Sign ['+'] false
  | minus : Sign ['-'] true

/-- An exponent with its sign and digits, or nothing. -/
inductive Exponent : List Char → Option (Bool × List Char) → Prop
  | absent : Exponent [] none
  | present {mark : Char} {sign digits : List Char} {negative : Bool}
      (marks : mark = 'e' ∨ mark = 'E') (signed : Sign sign negative) (digits' : Digits digits) :
      Exponent (mark :: (sign ++ digits)) (some (negative, digits))

/-- A number and its parts. -/
inductive Numeral : List Char → NumberLiteral → Prop
  | positive {whole fraction exponent digits : List Char} {power : Option (Bool × List Char)}
      (whole' : Whole whole) (fraction' : Fraction fraction digits)
      (exponent' : Exponent exponent power) :
      Numeral (whole ++ (fraction ++ exponent)) ⟨false, whole, digits, power⟩
  | negative {whole fraction exponent digits : List Char} {power : Option (Bool × List Char)}
      (whole' : Whole whole) (fraction' : Fraction fraction digits)
      (exponent' : Exponent exponent power) :
      Numeral ('-' :: (whole ++ (fraction ++ exponent))) ⟨true, whole, digits, power⟩

/-! ## Values -/

/-- The parts of a text that have values in them: a value, and the elements of an array or the
members of an object with the bracket or brace behind them. -/
inductive Part where
  | value
  | elements
  | members

def keywords : List (List Char) :=
  [['n', 'u', 'l', 'l'], ['t', 'r', 'u', 'e'], ['f', 'a', 'l', 's', 'e']]

/-- The texts of a part. -/
inductive Valid : Part → List Char → Prop
  | keyword {text : List Char} (known : text ∈ keywords) : Valid .value text
  | string {text : List Char} (quoted : Quoted text) : Valid .value ('"' :: text)
  | number {text : List Char} {literal : NumberLiteral} (numeral : Numeral text literal) :
      Valid .value text
  | emptyArray {blanks : List Char} (blank : Blank blanks) : Valid .value ('[' :: (blanks ++ [']']))
  | array {text : List Char} (elements : Valid .elements text) : Valid .value ('[' :: text)
  | emptyObject {blanks : List Char} (blank : Blank blanks) :
      Valid .value ('{' :: (blanks ++ ['}']))
  | object {text : List Char} (members : Valid .members text) : Valid .value ('{' :: text)
  | lastElement {blanks value blanks' : List Char} (blank : Blank blanks)
      (value' : Valid .value value) (blank' : Blank blanks') :
      Valid .elements (blanks ++ (value ++ (blanks' ++ [']'])))
  | element {blanks value blanks' text : List Char} (blank : Blank blanks)
      (value' : Valid .value value) (blank' : Blank blanks') (others : Valid .elements text) :
      Valid .elements (blanks ++ (value ++ (blanks' ++ ',' :: text)))
  | lastMember {blanks key blanks' blanks'' value trailing : List Char} (blank : Blank blanks)
      (key' : Quoted key) (blank' : Blank blanks') (blank'' : Blank blanks'')
      (value' : Valid .value value) (trails : Blank trailing) :
      Valid .members
        (blanks ++ '"' :: (key ++ (blanks' ++ ':' ::
          (blanks'' ++ (value ++ (trailing ++ ['}']))))))
  | member {blanks key blanks' blanks'' value trailing text : List Char} (blank : Blank blanks)
      (key' : Quoted key) (blank' : Blank blanks') (blank'' : Blank blanks'')
      (value' : Valid .value value) (trails : Blank trailing) (others : Valid .members text) :
      Valid .members
        (blanks ++ '"' :: (key ++ (blanks' ++ ':' ::
          (blanks'' ++ (value ++ (trailing ++ ',' :: text))))))

end SoloScript.Json
