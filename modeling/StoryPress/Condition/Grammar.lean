import StoryPress.Condition.Expr

/-!
# The grammar of conditions

    expr       := or
    or         := and ("or" and)*
    and        := comparison ("and" comparison)*
    comparison := unary (operator unary)?
    unary      := "not" unary | atom
    atom       := number | text | name | "(" expr ")"

Derivations of this grammar as trees, one type for each rule. A derivation says nothing about the
order of reading and has no limit on nesting.
-/
namespace StoryPress.Condition.Grammar

mutual

inductive Atom where
  | number (n : Numeral)
  | text (s : String)
  | name (s : String)
  | group (inner : Disjunction)

inductive Unary where
  | not (inner : Unary)
  | atom (only : Atom)

inductive Compared where
  | single (only : Unary)
  | pair (left : Unary) (op : Comparison) (right : Unary)

inductive Conjunction where
  | last (only : Compared)
  | more (first : Compared) (others : Conjunction)

inductive Disjunction where
  | last (only : Conjunction)
  | more (first : Conjunction) (others : Disjunction)

end

mutual

def Atom.tokens : Atom → List Token
  | .number n => [.number n]
  | .text s => [.text s]
  | .name s => [.name s]
  | .group inner => .opening :: (inner.tokens ++ [.closing])

def Unary.tokens : Unary → List Token
  | .not inner => .not :: inner.tokens
  | .atom only => only.tokens

def Compared.tokens : Compared → List Token
  | .single only => only.tokens
  | .pair left op right => left.tokens ++ .compare op :: right.tokens

def Conjunction.tokens : Conjunction → List Token
  | .last only => only.tokens
  | .more first others => first.tokens ++ .and :: others.tokens

def Disjunction.tokens : Disjunction → List Token
  | .last only => only.tokens
  | .more first others => first.tokens ++ .or :: others.tokens

end

def inside (levels : List Nat) : List Nat := levels.map (· + 1)

/-- No token lies deeper than this. -/
def Within (depth : Nat) (levels : List Nat) : Prop := ∀ n ∈ levels, n ≤ depth

mutual

def Atom.levels : Atom → List Nat
  | .number _ => [0]
  | .text _ => [0]
  | .name _ => [0]
  | .group inner => 0 :: (inside inner.levels ++ [0])

def Unary.levels : Unary → List Nat
  | .not inner => 0 :: inside inner.levels
  | .atom only => only.levels

def Compared.levels : Compared → List Nat
  | .single only => only.levels
  | .pair left _ right => left.levels ++ 0 :: right.levels

def Conjunction.levels : Conjunction → List Nat
  | .last only => only.levels
  | .more first others => first.levels ++ 0 :: others.levels

def Disjunction.levels : Disjunction → List Nat
  | .last only => only.levels
  | .more first others => first.levels ++ 0 :: others.levels

end

mutual

/-- A number beyond the doubles is null, and so are two of the names. -/
def Atom.expr : Atom → Expr
  | .number (.finite d) => .literal (.number (.real d))
  | .number (.infinite _) => .literal .null
  | .text s => .literal (.text s)
  | .name "true" => .literal (.bool true)
  | .name "false" => .literal (.bool false)
  | .name "null" => .literal .null
  | .name "undefined" => .literal .null
  | .name s => .var s
  | .group inner => inner.expr

def Unary.expr : Unary → Expr
  | .not inner => .not inner.expr
  | .atom only => only.expr

def Compared.expr : Compared → Expr
  | .single only => only.expr
  | .pair left op right => .compare op left.expr right.expr

def Conjunction.terms : Conjunction → List Expr
  | .last only => [only.expr]
  | .more first others => first.expr :: others.terms

/-- One term stands for itself. -/
def Conjunction.expr : Conjunction → Expr
  | .last only => only.expr
  | .more first others => .all (first.expr :: others.terms)

def Disjunction.terms : Disjunction → List Expr
  | .last only => [only.expr]
  | .more first others => first.expr :: others.terms

def Disjunction.expr : Disjunction → Expr
  | .last only => only.expr
  | .more first others => .any (first.expr :: others.terms)

end

end StoryPress.Condition.Grammar
