import StoryPress.Condition.Token
import StoryPress.Json.Value

/-! A condition is an expression over story variables. `parse` reads, from the weakest binding to
the strongest: chains of `or`, chains of `and`, one comparison, negation, atoms. Chains are kept
flat, parentheses leave nothing behind, and at most `maxDepth` parentheses and negations may enclose
a token. -/
namespace StoryPress.Condition

inductive Expr where
  | literal (value : Json.Value)
  | var (path : String)
  | not (inner : Expr)
  | all (terms : List Expr)
  | any (terms : List Expr)
  | compare (op : Comparison) (left right : Expr)
  deriving Repr

/-- How many parentheses and negations may enclose a token. -/
def maxDepth : Nat := 64

/-- An expression and the tokens after it. -/
abbrev Parser (α : Type) := List Placed → Except Error (α × List Placed)

namespace Expr

/-- A chain of one term is that term. -/
def chain (make : List Expr → Expr) : List Expr → Expr
  | [only] => only
  | terms => make terms

/-- A number beyond the range of doubles has no value. -/
def ofNumeral : Numeral → Expr
  | .finite d => literal (.number (.real d))
  | .infinite _ => literal .null

/-- Four words are literals; any other name is a variable. -/
def ofName (s : String) : Expr :=
  if s = "true" then literal (.bool true)
  else if s = "false" then literal (.bool false)
  else if s = "null" then literal .null
  else if s = "undefined" then literal .null
  else var s

/-- Terms joined by one operator. Every link is a token, so the number of tokens bounds the number
of links. -/
def terms (link : Token) (term : Parser Expr) : Nat → Parser (List Expr)
  | 0, ts => (term ts).map fun (e, rest) => ([e], rest)
  | links + 1, ts =>
    match term ts with
    | .error e => .error e
    | .ok (e, []) => .ok ([e], [])
    | .ok (e, (token, offset) :: rest) =>
      if token = link then (terms link term links rest).map fun (es, rest) => (e :: es, rest)
      else .ok ([e], (token, offset) :: rest)

/-- At most one comparison between two operands. -/
def comparison (operand : Parser Expr) : Parser Expr := fun ts =>
  match operand ts with
  | .error e => .error e
  | .ok (left, (.compare op, _) :: rest) =>
    (operand rest).map fun (right, rest) => (compare op left right, rest)
  | .ok (left, rest) => .ok (left, rest)

def conjunction (operand : Parser Expr) : Parser Expr := fun ts =>
  (terms .and (comparison operand) ts.length ts).map fun (es, rest) => (chain all es, rest)

def disjunction (operand : Parser Expr) : Parser Expr := fun ts =>
  (terms .or (conjunction operand) ts.length ts).map fun (es, rest) => (chain any es, rest)

def close (inner : Expr) : Parser Expr
  | [] => .error .unexpectedEnd
  | (.closing, _) :: rest => .ok (inner, rest)
  | (token, offset) :: _ => .error (.unexpectedToken token.describe offset)

/-- An operand under a budget of further parentheses and negations. -/
def operand : Nat → Parser Expr
  | _, [] => .error .unexpectedEnd
  | 0, (.not, offset) :: _ => .error (.tooDeep offset)
  | 0, (.opening, offset) :: _ => .error (.tooDeep offset)
  | depth + 1, (.not, _) :: rest =>
    (operand depth rest).map fun (inner, rest) => (not inner, rest)
  | depth + 1, (.opening, _) :: rest =>
    match disjunction (operand depth) rest with
    | .error e => .error e
    | .ok (inner, rest) => close inner rest
  | _, (.number n, _) :: rest => .ok (ofNumeral n, rest)
  | _, (.text s, _) :: rest => .ok (literal (.text s), rest)
  | _, (.name s, _) :: rest => .ok (ofName s, rest)
  | _, (token, offset) :: _ => .error (.unexpectedToken token.describe offset)

def ofTokens (ts : List Placed) : Except Error Expr :=
  match disjunction (operand maxDepth) ts with
  | .error e => .error e
  | .ok (e, []) => .ok e
  | .ok (_, (token, offset) :: _) => .error (.unexpectedToken token.describe offset)

end Expr

def parse (source : String) : Except Error Expr :=
  match tokenize source with
  | .error e => .error e
  | .ok ts => Expr.ofTokens ts

end StoryPress.Condition
