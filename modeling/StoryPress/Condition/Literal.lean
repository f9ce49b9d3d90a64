import StoryPress.Condition.Eval
import StoryPress.Number.Rounding

namespace StoryPress.Condition

open StoryPress.Number (Double)

structure Literal where
  negative : Bool
  whole : List Char
  /-- What stands after the point, if there is one. -/
  fraction : Option (List Char)
  whole_ne_nil : whole ≠ []
  isDigit_whole : ∀ c ∈ whole, c.isDigit = true
  isDigit_fraction : ∀ digits ∈ fraction, ∀ c ∈ digits, c.isDigit = true

namespace Literal

def sign (l : Literal) : List Char := if l.negative then ['-'] else []

/-- The point and what stands after it. -/
def tail (l : Literal) : List Char :=
  match l.fraction with
  | none => []
  | some digits => '.' :: digits

def text (l : Literal) : String := String.ofList (l.sign ++ l.whole ++ l.tail)

def places (l : Literal) : List Char := l.fraction.getD []

def numerator (l : Literal) : Nat :=
  (Token.digitValues l.whole ++ Token.digitValues l.places).foldl (fun n d => 10 * n + d) 0

def denominator (l : Literal) : Nat := Double.tenTo (Token.digitValues l.places).length

/-- No double is nearest to the literal. -/
def IsBeyond (l : Literal) : Prop := l.denominator * Double.ceiling ≤ l.numerator

instance (l : Literal) : Decidable l.IsBeyond :=
  inferInstanceAs (Decidable (l.denominator * Double.ceiling ≤ l.numerator))

def double (l : Literal) : Double :=
  ⟨l.negative, Double.roundQuotient (l.numerator * Double.one) l.denominator⟩

def numeral (l : Literal) : Numeral :=
  if l.IsBeyond then .infinite l.negative else .finite l.double

/-- What a condition compares. -/
def value (l : Literal) : Json.Value := if l.IsBeyond then .null else .number (.real l.double)

theorem denominator_pos (l : Literal) : 0 < l.denominator := Nat.pow_pos (by decide)

theorem ofDigits?_eq (l : Literal) :
    Double.ofDigits? l.negative (Token.digitValues l.whole) (Token.digitValues l.places) =
      if l.IsBeyond then none else some l.double :=
  Double.ofQuotient?_eq l.negative l.denominator_pos

end Literal

end StoryPress.Condition
