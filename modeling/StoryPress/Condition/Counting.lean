import StoryPress.Condition.Expr

/-! The same grammar as in `Expr`, read with one count of the parentheses and negations that are
open. The count goes up where one starts and down where what it encloses has been read, and it may
not go beyond `maxDepth`. Errors end the parse, so they leave the count as it is. -/
namespace StoryPress.Condition.Counting

/-- The tokens to read and the count of what is open. -/
structure State where
  tokens : List Placed
  depth : Nat

abbrev Counted (α : Type) := State → Except Error (α × State)

/-- The count after a parenthesis or a negation that starts at this place. -/
def descend (offset depth : Nat) : Except Error Nat :=
  if maxDepth < depth + 1 then .error (.tooDeep offset) else .ok (depth + 1)

def terms (link : Token) (term : Counted Expr) : Nat → Counted (List Expr)
  | 0, s => (term s).map fun (e, s) => ([e], s)
  | links + 1, s =>
    match term s with
    | .error e => .error e
    | .ok (e, ⟨[], depth⟩) => .ok ([e], ⟨[], depth⟩)
    | .ok (e, ⟨(token, offset) :: rest, depth⟩) =>
      if token = link then
        (terms link term links ⟨rest, depth⟩).map fun (es, s) => (e :: es, s)
      else .ok ([e], ⟨(token, offset) :: rest, depth⟩)

def comparison (operand : Counted Expr) : Counted Expr := fun s =>
  match operand s with
  | .error e => .error e
  | .ok (left, ⟨(.compare op, _) :: rest, depth⟩) =>
    (operand ⟨rest, depth⟩).map fun (right, s) => (.compare op left right, s)
  | .ok (left, s) => .ok (left, s)

def conjunction (operand : Counted Expr) : Counted Expr := fun s =>
  (terms .and (comparison operand) s.tokens.length s).map fun (es, s) => (Expr.chain .all es, s)

def disjunction (operand : Counted Expr) : Counted Expr := fun s =>
  (terms .or (conjunction operand) s.tokens.length s).map fun (es, s) => (Expr.chain .any es, s)

def close (inner : Expr) : Counted Expr
  | ⟨[], _⟩ => .error .unexpectedEnd
  | ⟨(.closing, _) :: rest, depth⟩ => .ok (inner, ⟨rest, depth⟩)
  | ⟨(token, offset) :: _, _⟩ => .error (.unexpectedToken token.describe offset)

/-- Every operand inside another one starts at a later token, so the number of tokens bounds how far
operands are inside each other. -/
def operand : Nat → Counted Expr
  | _, ⟨[], _⟩ => .error .unexpectedEnd
  | 0, _ => .error .unexpectedEnd
  | inside + 1, ⟨(.not, offset) :: rest, depth⟩ =>
    match descend offset depth with
    | .error e => .error e
    | .ok deeper =>
      (operand inside ⟨rest, deeper⟩).map fun (inner, s) => (.not inner, ⟨s.tokens, s.depth - 1⟩)
  | inside + 1, ⟨(.opening, offset) :: rest, depth⟩ =>
    match descend offset depth with
    | .error e => .error e
    | .ok deeper =>
      match disjunction (operand inside) ⟨rest, deeper⟩ with
      | .error e => .error e
      | .ok (inner, s) => close inner ⟨s.tokens, s.depth - 1⟩
  | _, ⟨(.number n, _) :: rest, depth⟩ => .ok (Expr.ofNumeral n, ⟨rest, depth⟩)
  | _, ⟨(.text s, _) :: rest, depth⟩ => .ok (.literal (.text s), ⟨rest, depth⟩)
  | _, ⟨(.name s, _) :: rest, depth⟩ => .ok (Expr.ofName s, ⟨rest, depth⟩)
  | _, ⟨(token, offset) :: _, _⟩ => .error (.unexpectedToken token.describe offset)

def ofTokens (ts : List Placed) : Except Error Expr :=
  match disjunction (operand ts.length) ⟨ts, 0⟩ with
  | .error e => .error e
  | .ok (e, ⟨[], _⟩) => .ok e
  | .ok (_, ⟨(token, offset) :: _, _⟩) => .error (.unexpectedToken token.describe offset)

end StoryPress.Condition.Counting
