import StoryPress.Condition.Counting
import StoryPress.Proofs.Condition.Parser

/-! The parser that counts does what the parser does that hands a budget down: what is left of the
budget is what the count may still rise by. For this every parser of the grammar leaves the count as
it found it, so nothing counts any longer when it has been closed. -/
namespace StoryPress.Condition.Counting

open StoryPress.Condition.Grammar

/-- What is read at some depth leaves the count at that depth. -/
def settled {α : Type} (depth : Nat) : α × List Placed → α × State :=
  fun (a, rest) => (a, ⟨rest, depth⟩)

/-- On so many tokens the count at some depth changes nothing and is left as it is. -/
def Agrees {α : Type} (size depth : Nat) (p : Counted α) (q : Parser α) : Prop :=
  ∀ ts : List Placed, ts.length ≤ size → p ⟨ts, depth⟩ = (q ts).map (settled depth)

/-- Reading makes no tokens. -/
def Shrinks {α : Type} (q : Parser α) : Prop :=
  ∀ ts a rest, q ts = .ok (a, rest) → rest.length ≤ ts.length

theorem shrinks_of_sound {δ α : Type} {tokens : δ → List Token} {levels : δ → List Nat}
    {value : δ → α} {depth : Nat} {q : Parser α} (h : Sound tokens levels value depth q) :
    Shrinks q := by
  intro ts a rest hread
  obtain ⟨-, used, rfl, -⟩ := h ts a rest hread
  rw [List.length_append]
  omega

section

variable {size depth : Nat} {p : Counted Expr} {q : Parser Expr}

theorem comparison_agrees (h : Agrees size depth p q) (hshrinks : Shrinks q) :
    Agrees size depth (comparison p) (Expr.comparison q) := by
  intro ts hts
  rw [comparison, Expr.comparison, h ts hts]
  cases hleft : q ts with
  | error e => rfl
  | ok read =>
    obtain ⟨left, rest⟩ := read
    have hrest := hshrinks ts left rest hleft
    cases rest with
    | nil => rfl
    | cons first rest =>
      obtain ⟨token, offset⟩ := first
      cases token with
      | compare op =>
        rw [List.length_cons] at hrest
        have hright := h rest (by omega)
        simp only [Except.map, settled, hright]
        cases q rest <;> rfl
      | _ => rfl

theorem terms_agrees (h : Agrees size depth p q) (hshrinks : Shrinks q) (link : Token)
    (links : Nat) : Agrees size depth (terms link p links) (Expr.terms link q links) := by
  induction links with
  | zero =>
    intro ts hts
    rw [terms, Expr.terms, h ts hts]
    cases q ts <;> rfl
  | succ links ih =>
    intro ts hts
    rw [terms, Expr.terms, h ts hts]
    cases hfirst : q ts with
    | error e => rfl
    | ok read =>
      obtain ⟨first, rest⟩ := read
      have hrest := hshrinks ts first rest hfirst
      cases rest with
      | nil => rfl
      | cons next rest =>
        obtain ⟨token, offset⟩ := next
        rw [List.length_cons] at hrest
        have hmore := ih rest (by omega)
        by_cases hlink : token = link
        · simp only [Except.map, settled, hlink, if_true, hmore]
          cases Expr.terms link q links rest <;> rfl
        · simp only [Except.map, settled, hlink, if_false]

end

section

variable {size depth budget : Nat} {p : Counted Expr}

theorem conjunction_agrees (h : Agrees size depth p (Expr.operand budget)) :
    Agrees size depth (conjunction p) (Expr.conjunction (Expr.operand budget)) := by
  have hoperand := operand_sound budget
  have hcomparison := comparison_agrees h (shrinks_of_sound hoperand)
  intro ts hts
  have hterms := terms_agrees hcomparison
    (shrinks_of_sound (comparison_sound hoperand)) .and ts.length ts hts
  rw [conjunction, Expr.conjunction, hterms]
  cases Expr.terms .and (Expr.comparison (Expr.operand budget)) ts.length ts <;> rfl

theorem disjunction_agrees (h : Agrees size depth p (Expr.operand budget)) :
    Agrees size depth (disjunction p) (Expr.disjunction (Expr.operand budget)) := by
  have hconjunction := conjunction_agrees h
  intro ts hts
  have hterms := terms_agrees hconjunction
    (shrinks_of_sound (conjunction_sound (operand_sound budget))) .or ts.length ts hts
  rw [disjunction, Expr.disjunction, hterms]
  cases Expr.terms .or (Expr.conjunction (Expr.operand budget)) ts.length ts <;> rfl

end

theorem descend_full (offset : Nat) : descend offset maxDepth = .error (.tooDeep offset) := by
  simp [descend]

theorem descend_of_lt (offset : Nat) {depth : Nat} (h : depth < maxDepth) :
    descend offset depth = .ok (depth + 1) := by
  simp [descend, Nat.not_lt.mpr (Nat.succ_le_of_lt h)]

/-- An operand that may hold so many openers more, of so many tokens at most, is read with the rest
of the count for its budget. -/
theorem operand_agrees (size : Nat) : ∀ depth budget, depth + budget = maxDepth →
    Agrees size depth (operand size) (Expr.operand budget) := by
  induction size with
  | zero =>
    intro depth budget _ ts hts
    obtain rfl := List.eq_nil_of_length_eq_zero (Nat.le_zero.mp hts)
    cases budget <;> rfl
  | succ size ih =>
    intro depth budget hdepth ts hts
    cases ts with
    | nil => cases budget <;> rfl
    | cons first rest =>
      obtain ⟨token, offset⟩ := first
      have hrest : rest.length ≤ size := Nat.le_of_succ_le_succ hts
      cases budget with
      | zero =>
        obtain rfl : depth = maxDepth := hdepth
        cases token with
        | not | opening => simp only [operand, descend_full, Expr.operand, Except.map]
        | _ => rfl
      | succ budget =>
        have hinner := ih (depth + 1) budget (by omega)
        have hdescend := descend_of_lt offset (show depth < maxDepth by omega)
        cases token with
        | not =>
          simp only [operand, hdescend, Expr.operand, hinner rest hrest]
          cases Expr.operand budget rest <;> rfl
        | opening =>
          simp only [operand, hdescend, Expr.operand, disjunction_agrees hinner rest hrest]
          cases Expr.disjunction (Expr.operand budget) rest with
          | error e => rfl
          | ok read =>
            obtain ⟨inner, later⟩ := read
            cases later with
            | nil => rfl
            | cons next later =>
              obtain ⟨last, place⟩ := next
              cases last <;> rfl
        | _ => rfl

/-- An operand that has been read counts no longer. -/
theorem depth_of_operand {size : Nat} {s s' : State} {e : Expr} (hdepth : s.depth ≤ maxDepth)
    (hsize : s.tokens.length ≤ size) (h : operand size s = .ok (e, s')) : s'.depth = s.depth := by
  have hagrees := operand_agrees size s.depth (maxDepth - s.depth) (Nat.add_sub_of_le hdepth)
  have hread := (hagrees s.tokens hsize).symm.trans h
  obtain ⟨⟨inner, rest⟩, -, hsettled⟩ := ok_of_map_ok hread
  cases hsettled
  rfl

/-- The whole parser may count or hand a budget down. -/
theorem ofTokens_eq (ts : List Placed) : ofTokens ts = Expr.ofTokens ts := by
  have hoperand := operand_agrees ts.length 0 maxDepth (Nat.zero_add maxDepth)
  rw [ofTokens, Expr.ofTokens, disjunction_agrees hoperand ts (Nat.le_refl _)]
  cases Expr.disjunction (Expr.operand maxDepth) ts with
  | error e => rfl
  | ok read =>
    obtain ⟨e, rest⟩ := read
    cases rest <;> rfl

end StoryPress.Condition.Counting
