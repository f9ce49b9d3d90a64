import StoryPress.Condition.Eval

/-! A parenthesis is open until it is closed, and a negation until its operand ends. `openAfter`
tells from the tokens alone what is still open after them. Of expressions, `height` counts how far
they are nested, and `evalWithin` evaluates them in a bounded depth of recursion. -/
namespace StoryPress.Condition

open StoryPress.Json (Lookup Value)

namespace Nesting

/-- What may enclose the tokens after it. -/
inductive Opener where
  | parenthesis
  | negation
  deriving DecidableEq, Repr

/-- What is still open when an operand has ended: the innermost negations end with it. -/
def settle (stack : List Opener) : List Opener := stack.dropWhile (· = .negation)

/-- What is open after one more token, the innermost first. -/
def step (stack : List Opener) : Token → List Opener
  | .opening => .parenthesis :: stack
  | .not => .negation :: stack
  | .closing => settle (settle stack).tail
  | .number _ | .text _ | .name _ => settle stack
  | .and | .or | .compare _ => stack

def openAfter (stack : List Opener) (tokens : List Token) : List Opener := tokens.foldl step stack

/-- How many parentheses and negations enclose a token; a parenthesis does not enclose its ends. -/
def level (stack : List Opener) : Token → Nat
  | .closing => (settle stack).tail.length
  | _ => stack.length

def levelsFrom (stack : List Opener) : List Token → List Nat
  | [] => []
  | token :: rest => level stack token :: levelsFrom (step stack token) rest

def levels (tokens : List Token) : List Nat := levelsFrom [] tokens

end Nesting

/-- No token of the source is enclosed by more parentheses and negations than this. -/
def NestsWithin (limit : Nat) (source : String) : Prop :=
  ∀ ts, tokenize source = .ok ts → ∀ n ∈ Nesting.levels (ts.map Prod.fst), n ≤ limit

instance (limit : Nat) (source : String) : Decidable (NestsWithin limit source) :=
  match h : tokenize source with
  | .ok ts =>
    decidable_of_iff (∀ n ∈ Nesting.levels (ts.map Prod.fst), n ≤ limit) (by simp [NestsWithin, h])
  | .error _ => isTrue (by simp [NestsWithin, h])

namespace Expr

mutual

/-- The longest way from the expression down to a literal or a variable, both counted. -/
def height : Expr → Nat
  | literal _ => 1
  | var _ => 1
  | not inner => inner.height + 1
  | all terms => heights terms + 1
  | any terms => heights terms + 1
  | compare _ left right => max left.height right.height + 1

def heights : List Expr → Nat
  | [] => 0
  | term :: rest => max term.height (heights rest)

end

/-- The value of an expression if no evaluation inside another goes deeper than this. -/
def evalWithin (lookup : Lookup) : Nat → Expr → Option Value
  | 0, _ => none
  | _ + 1, literal value => some value
  | _ + 1, var path => some (lookupPath lookup path)
  | depth + 1, not inner => (evalWithin lookup depth inner).map fun value => .bool !value.isTruthy
  | depth + 1, all terms =>
    (terms.allM fun term => (evalWithin lookup depth term).map Value.isTruthy).map .bool
  | depth + 1, any terms =>
    (terms.anyM fun term => (evalWithin lookup depth term).map Value.isTruthy).map .bool
  | depth + 1, compare op left right =>
    (evalWithin lookup depth left).bind fun a =>
      (evalWithin lookup depth right).map fun b => .bool (op.decide a b)

end Expr

end StoryPress.Condition
