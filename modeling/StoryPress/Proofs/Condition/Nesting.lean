import StoryPress.Condition.Nesting
import StoryPress.Proofs.Condition.Counting
import StoryPress.Proofs.Condition.Tokens

/-! What is open between the tokens of a derivation is what the grammar says, and nothing of an
operand is open after it. So the budget of the parser is spent exactly by what is still open: the
token that it finds too deep has as many parentheses and negations around it as may be. The
expressions that it gives are bounded in height by the same budget, however long their chains are.
-/
namespace StoryPress.Condition

open StoryPress.Json (Lookup Value)

namespace Nesting

open StoryPress.Condition.Grammar

theorem openAfter_cons (stack : List Opener) (token : Token) (rest : List Token) :
    openAfter stack (token :: rest) = openAfter (step stack token) rest := rfl

theorem openAfter_append (stack : List Opener) (xs ys : List Token) :
    openAfter stack (xs ++ ys) = openAfter (openAfter stack xs) ys := List.foldl_append

theorem settle_parenthesis (stack : List Opener) :
    settle (.parenthesis :: stack) = .parenthesis :: stack := rfl

mutual

theorem openAfter_atom (stack : List Opener) :
    (a : Atom) → openAfter stack a.tokens = settle stack
  | .number _ | .text _ | .name _ => rfl
  | .group inner => by
    rw [Atom.tokens, openAfter_cons, openAfter_append, step,
      openAfter_disjunction (settle_parenthesis stack) inner]
    rfl

theorem openAfter_unary (stack : List Opener) :
    (u : Unary) → openAfter stack u.tokens = settle stack
  | .not inner => by
    rw [Unary.tokens, openAfter_cons, openAfter_unary _ inner]
    rfl
  | .atom only => openAfter_atom stack only

theorem openAfter_compared {stack : List Opener} (h : settle stack = stack) :
    (c : Compared) → openAfter stack c.tokens = stack
  | .single only => (openAfter_unary stack only).trans h
  | .pair left op right => by
    rw [Compared.tokens, openAfter_append, openAfter_unary, h, openAfter_cons, step,
      openAfter_unary, h]

theorem openAfter_conjunction {stack : List Opener} (h : settle stack = stack) :
    (c : Conjunction) → openAfter stack c.tokens = stack
  | .last only => openAfter_compared h only
  | .more first others => by
    rw [Conjunction.tokens, openAfter_append, openAfter_compared h, openAfter_cons, step,
      openAfter_conjunction h]

theorem openAfter_disjunction {stack : List Opener} (h : settle stack = stack) :
    (d : Disjunction) → openAfter stack d.tokens = stack
  | .last only => openAfter_conjunction h only
  | .more first others => by
    rw [Disjunction.tokens, openAfter_append, openAfter_conjunction h, openAfter_cons, step,
      openAfter_disjunction h]

end

theorem levelsFrom_append (stack : List Opener) (xs ys : List Token) :
    levelsFrom stack (xs ++ ys) = levelsFrom stack xs ++ levelsFrom (openAfter stack xs) ys := by
  induction xs generalizing stack with
  | nil => rfl
  | cons x xs ih => rw [List.cons_append, levelsFrom, levelsFrom, ih, openAfter_cons, List.cons_append]

theorem map_inside (levels : List Nat) (count : Nat) :
    (inside levels).map (· + count) = levels.map (· + (count + 1)) := by
  rw [inside, List.map_map]
  refine List.map_congr_left fun n _ => ?_
  rw [Function.comp_apply]
  omega

mutual

theorem levelsFrom_atom (stack : List Opener) :
    (a : Atom) → levelsFrom stack a.tokens = a.levels.map (· + stack.length)
  | .number _ | .text _ | .name _ => by simp [Atom.tokens, Atom.levels, levelsFrom, level]
  | .group inner => by
    have hinner := levelsFrom_disjunction (settle_parenthesis stack) inner
    rw [Atom.tokens, levelsFrom, levelsFrom_append, step, hinner,
      openAfter_disjunction (settle_parenthesis stack), Atom.levels, List.map_cons, List.map_append,
      map_inside]
    simp [levelsFrom, level, settle_parenthesis]

theorem levelsFrom_unary (stack : List Opener) :
    (u : Unary) → levelsFrom stack u.tokens = u.levels.map (· + stack.length)
  | .not inner => by
    rw [Unary.tokens, levelsFrom, step, levelsFrom_unary, Unary.levels, List.map_cons, map_inside]
    simp [level]
  | .atom only => levelsFrom_atom stack only

theorem levelsFrom_compared {stack : List Opener} (h : settle stack = stack) :
    (c : Compared) → levelsFrom stack c.tokens = c.levels.map (· + stack.length)
  | .single only => levelsFrom_unary stack only
  | .pair left op right => by
    rw [Compared.tokens, levelsFrom_append, levelsFrom_unary, openAfter_unary, h, levelsFrom, step,
      levelsFrom_unary, Compared.levels, List.map_append, List.map_cons]
    simp [level]

theorem levelsFrom_conjunction {stack : List Opener} (h : settle stack = stack) :
    (c : Conjunction) → levelsFrom stack c.tokens = c.levels.map (· + stack.length)
  | .last only => levelsFrom_compared h only
  | .more first others => by
    rw [Conjunction.tokens, levelsFrom_append, levelsFrom_compared h, openAfter_compared h,
      levelsFrom, step, levelsFrom_conjunction h, Conjunction.levels, List.map_append, List.map_cons]
    simp [level]

theorem levelsFrom_disjunction {stack : List Opener} (h : settle stack = stack) :
    (d : Disjunction) → levelsFrom stack d.tokens = d.levels.map (· + stack.length)
  | .last only => levelsFrom_conjunction h only
  | .more first others => by
    rw [Disjunction.tokens, levelsFrom_append, levelsFrom_conjunction h, openAfter_conjunction h,
      levelsFrom, step, levelsFrom_disjunction h, Disjunction.levels, List.map_append, List.map_cons]
    simp [level]

end

/-- What the tokens of a derivation tell about its nesting is what the grammar says. -/
theorem levels_tokens (d : Disjunction) : levels d.tokens = d.levels := by
  have hlevels : levelsFrom [] d.tokens = d.levels.map (· + 0) := levelsFrom_disjunction rfl d
  rw [levels, hlevels]
  exact List.map_id d.levels

end Nesting

section Heights

open StoryPress.Condition.Grammar
open StoryPress.Condition.Expr (height heights)

theorem height_le_heights {terms : List Expr} {term : Expr} (h : term ∈ terms) :
    term.height ≤ heights terms := by
  induction terms with
  | nil => cases h
  | cons first rest ih =>
    rw [heights]
    rcases List.mem_cons.mp h with rfl | h
    · omega
    · have hrest := ih h
      omega

theorem height_token {a : Atom} {token : Token} (h : a.tokens = [token]) : a.expr.height = 1 := by
  cases a with
  | number n => cases n <;> rfl
  | text s => rfl
  | name s =>
    rw [expr_name, Expr.ofName]
    split_ifs <;> rfl
  | group inner => simp [Atom.tokens] at h

/-- A chain is one higher than its highest term at most. -/
theorem height_conjunction (c : Conjunction) : c.expr.height ≤ heights c.terms + 1 := by
  cases c with
  | last only =>
    rw [Conjunction.expr, Conjunction.terms, heights, heights]
    omega
  | more first others => exact Nat.le_refl _

theorem height_disjunction (d : Disjunction) : d.expr.height ≤ heights d.terms + 1 := by
  cases d with
  | last only =>
    rw [Disjunction.expr, Disjunction.terms, heights, heights]
    omega
  | more first others => exact Nat.le_refl _

mutual

/-- Every opener that is left adds three to the height at most: of a chain of `or`, a chain of `and`
and a comparison. -/
theorem height_atom_le {depth : Nat} :
    (a : Atom) → Within depth a.levels → a.expr.height ≤ 3 * depth + 1
  | .number n, _ => by
    have hone := height_token (a := .number n) rfl
    omega
  | .text s, _ => by
    have hone : (Atom.text s).expr.height = 1 := rfl
    omega
  | .name s, _ => by
    have hone := height_token (a := .name s) rfl
    omega
  | .group inner, h => by
    simp only [Atom.levels, within_zero_cons, within_append,
      within_inside (inner.length_levels ▸ inner.tokens_pos)] at h
    obtain ⟨⟨less, rfl, hless⟩, -⟩ := h
    have hinner := height_disjunction inner
    have hterms := heights_disjunction_le inner hless
    rw [Atom.expr]
    omega

theorem height_unary_le {depth : Nat} :
    (u : Unary) → Within depth u.levels → u.expr.height ≤ 3 * depth + 1
  | .not inner, h => by
    simp only [Unary.levels, within_zero_cons,
      within_inside (inner.length_levels ▸ inner.tokens_pos)] at h
    obtain ⟨less, rfl, hless⟩ := h
    have hinner := height_unary_le inner hless
    rw [Unary.expr, height]
    omega
  | .atom only, h => height_atom_le only h

theorem height_compared_le {depth : Nat} :
    (c : Compared) → Within depth c.levels → c.expr.height ≤ 3 * depth + 2
  | .single only, h => by
    have honly := height_unary_le only h
    rw [Compared.expr]
    omega
  | .pair left op right, h => by
    simp only [Compared.levels, within_append, within_zero_cons] at h
    have hleft := height_unary_le left h.1
    have hright := height_unary_le right h.2
    rw [Compared.expr, height]
    omega

theorem heights_conjunction_le {depth : Nat} :
    (c : Conjunction) → Within depth c.levels → heights c.terms ≤ 3 * depth + 2
  | .last only, h => by
    have honly := height_compared_le only h
    rw [Conjunction.terms, heights, heights]
    omega
  | .more first others, h => by
    simp only [Conjunction.levels, within_append, within_zero_cons] at h
    have hfirst := height_compared_le first h.1
    have hothers := heights_conjunction_le others h.2
    rw [Conjunction.terms, heights]
    omega

theorem heights_disjunction_le {depth : Nat} :
    (d : Disjunction) → Within depth d.levels → heights d.terms ≤ 3 * depth + 3
  | .last only, h => by
    have honly := height_conjunction only
    have hterms := heights_conjunction_le only h
    rw [Disjunction.terms, heights, heights]
    omega
  | .more first others, h => by
    simp only [Disjunction.levels, within_append, within_zero_cons] at h
    have hfirst := height_conjunction first
    have hterms := heights_conjunction_le first h.1
    have hothers := heights_disjunction_le others h.2
    rw [Disjunction.terms, heights]
    omega

end

theorem height_le {depth : Nat} (d : Disjunction) (h : Within depth d.levels) :
    d.expr.height ≤ 3 * depth + 4 := by
  have hchain := height_disjunction d
  have hterms := heights_disjunction_le d h
  omega

end Heights

section Evaluation

open StoryPress.Condition.Expr (evalAll evalAny evalWithin height heights)

variable {lookup : Lookup} {depth : Nat}

theorem allM_isTruthy {terms : List Expr}
    (h : ∀ term ∈ terms, term.evalWithin lookup depth = some (term.eval lookup)) :
    (terms.allM fun term => (term.evalWithin lookup depth).map Value.isTruthy) =
      some (evalAll lookup terms) := by
  induction terms with
  | nil => rfl
  | cons term rest ih =>
    have hterm := h term List.mem_cons_self
    have hrest := ih fun t ht => h t (List.mem_cons_of_mem term ht)
    simp only [List.allM, hterm, hrest, evalAll]
    cases htruth : (term.eval lookup).isTruthy <;> simp [htruth]

theorem anyM_isTruthy {terms : List Expr}
    (h : ∀ term ∈ terms, term.evalWithin lookup depth = some (term.eval lookup)) :
    (terms.anyM fun term => (term.evalWithin lookup depth).map Value.isTruthy) =
      some (evalAny lookup terms) := by
  induction terms with
  | nil => rfl
  | cons term rest ih =>
    have hterm := h term List.mem_cons_self
    have hrest := ih fun t ht => h t (List.mem_cons_of_mem term ht)
    simp only [List.anyM, hterm, hrest, evalAny]
    cases htruth : (term.eval lookup).isTruthy <;> simp [htruth]

/-- A depth that reaches the height of an expression is enough for its value. -/
theorem evalWithin_eq {e : Expr} (h : e.height ≤ depth) :
    e.evalWithin lookup depth = some (e.eval lookup) := by
  induction depth generalizing e with
  | zero => cases e <;> simp [height] at h
  | succ depth ih =>
    cases e with
    | literal value => rfl
    | var path => rfl
    | not inner =>
      have hinner : inner.height ≤ depth := by simpa [height] using h
      rw [evalWithin, ih hinner]
      rfl
    | all terms =>
      have hterms : heights terms ≤ depth := by simpa [height] using h
      have hall := allM_isTruthy fun term hterm => ih ((height_le_heights hterm).trans hterms)
      rw [evalWithin, hall]
      rfl
    | any terms =>
      have hterms : heights terms ≤ depth := by simpa [height] using h
      have hany := anyM_isTruthy fun term hterm => ih ((height_le_heights hterm).trans hterms)
      rw [evalWithin, hany]
      rfl
    | compare op left right =>
      simp only [height] at h
      rw [evalWithin, ih (by omega), ih (by omega)]
      rfl

end Evaluation

namespace Nesting

open StoryPress.Condition.Grammar
open StoryPress.Condition.Expr (close comparison conjunction disjunction operand terms)

/-- A parenthesis or a negation starts at this place, with so many openers around it. -/
def OpensAt (stack : List Opener) (count : Nat) (ts : List Placed) (offset : Nat) : Prop :=
  ∃ front token back, ts = front ++ (token, offset) :: back ∧ (token = .opening ∨ token = .not) ∧
    (openAfter stack (front.map Prod.fst)).length = count

/-- Whatever the parser reads leaves nothing open. -/
def Restores {α : Type} (stack : List Opener) (p : Parser α) : Prop :=
  ∀ ts a rest, p ts = .ok (a, rest) →
    ∃ used, ts = used ++ rest ∧ openAfter stack (used.map Prod.fst) = stack

/-- What the parser finds too deep is an opener with so many others around it, those around all its
tokens among them. -/
def Blames {α : Type} (stack : List Opener) (count : Nat) (p : Parser α) : Prop :=
  ∀ ts offset, p ts = .error (.tooDeep offset) → OpensAt stack count ts offset

section

variable {stack : List Opener} {count offset place : Nat} {token : Token} {ts used : List Placed}

theorem OpensAt.cons (h : OpensAt (step stack token) count ts offset) :
    OpensAt stack count ((token, place) :: ts) offset := by
  obtain ⟨front, found, back, rfl, hfound, hcount⟩ := h
  exact ⟨(token, place) :: front, found, back, rfl, hfound, hcount⟩

/-- What is read before leaves nothing open, and the token after it opens nothing. -/
theorem OpensAt.after (hused : openAfter stack (used.map Prod.fst) = stack)
    (htoken : step stack token = stack) (h : OpensAt stack count ts offset) :
    OpensAt stack count (used ++ (token, place) :: ts) offset := by
  obtain ⟨front, found, back, rfl, hfound, hcount⟩ := h
  refine ⟨used ++ (token, place) :: front, found, back, by simp, hfound, ?_⟩
  rw [List.map_append, openAfter_append, hused, List.map_cons, openAfter_cons, htoken, hcount]

variable {p : Parser Expr}

theorem restores_of_sound {δ : Type} {tokens : δ → List Token} {levels : δ → List Nat}
    {value : δ → Expr} {depth : Nat} (hp : Sound tokens levels value depth p)
    (h : ∀ d, openAfter stack (tokens d) = stack) : Restores stack p := by
  intro ts a rest hread
  obtain ⟨d, used, hts, hused, -, -⟩ := hp ts a rest hread
  exact ⟨used, hts, by rw [hused, h]⟩

theorem comparison_blames (hrestores : Restores stack p) (hp : Blames stack count p) :
    Blames stack count (comparison p) := by
  intro ts offset h
  rw [comparison] at h
  split at h
  · next hleft =>
    cases h
    exact hp ts offset hleft
  · next left op place mid hleft =>
    obtain ⟨used, rfl, hused⟩ := hrestores _ _ _ hleft
    exact (hp mid offset (error_of_map_error h)).after hused rfl
  · cases h

theorem terms_error {link : Token} {term : Parser Expr} {links : Nat} {ts : List Placed} {e : Error}
    (h : terms link term links ts = .error e) :
    term ts = .error e ∨ ∃ first place mid more, term ts = .ok (first, (link, place) :: mid) ∧
      links = more + 1 ∧ terms link term more mid = .error e := by
  cases links with
  | zero => exact .inl (error_of_map_error h)
  | succ more =>
    rw [terms] at h
    split at h
    · next hterm =>
      cases h
      exact .inl hterm
    · cases h
    · next first token place mid hterm =>
      split at h
      · next hlink =>
        subst hlink
        exact .inr ⟨first, place, mid, more, hterm, rfl, error_of_map_error h⟩
      · cases h

theorem terms_blames {link : Token} (hlink : step stack link = stack) (hrestores : Restores stack p)
    (hp : Blames stack count p) (links : Nat) : Blames stack count (terms link p links) := by
  induction links using Nat.strongRecOn with
  | ind links ih =>
    intro ts offset h
    rcases terms_error h with hfirst | ⟨first, place, mid, more, hfirst, rfl, hmore⟩
    · exact hp ts offset hfirst
    · obtain ⟨used, rfl, hused⟩ := hrestores _ _ _ hfirst
      have hlater := ih more (by omega) mid offset hmore
      exact hlater.after hused hlink

variable {depth : Nat} (hstack : settle stack = stack) (hp : Blames stack count (operand depth))

include hstack hp

theorem conjunction_blames : Blames stack count (conjunction (operand depth)) := by
  have hoperand : Restores stack (operand depth) :=
    restores_of_sound (operand_sound depth) fun u => (openAfter_unary stack u).trans hstack
  have hcomparison : Restores stack (comparison (operand depth)) :=
    restores_of_sound (comparison_sound (operand_sound depth)) (openAfter_compared hstack)
  intro ts offset h
  exact terms_blames rfl hcomparison (comparison_blames hoperand hp) ts.length ts offset
    (error_of_map_error h)

theorem disjunction_blames : Blames stack count (disjunction (operand depth)) := by
  have hconjunction : Restores stack (conjunction (operand depth)) :=
    restores_of_sound (conjunction_sound (operand_sound depth)) (openAfter_conjunction hstack)
  intro ts offset h
  exact terms_blames rfl hconjunction (conjunction_blames hstack hp) ts.length ts offset
    (error_of_map_error h)

end

theorem close_ne_tooDeep {inner : Expr} {ts : List Placed} {offset : Nat} :
    close inner ts ≠ .error (.tooDeep offset) := by
  intro h
  unfold close at h
  split at h <;> cases h

/-- Each opener around an operand takes one from its budget and is one more that is open. -/
theorem operand_blames (depth : Nat) (stack : List Opener) :
    Blames stack (stack.length + depth) (operand depth) := by
  induction depth using Nat.strongRecOn generalizing stack with
  | ind depth ih =>
    intro ts offset h
    cases operand_fails h with
    | @deep _ rest token opens => exact ⟨[], token, rest, rfl, opens, rfl⟩
    | @not less _ more _ fails =>
      have hblames := ih less (by omega) (.negation :: stack)
      rw [List.length_cons, Nat.add_right_comm] at hblames
      exact OpensAt.cons (hblames more offset fails)
    | @group less _ more _ fails =>
      have hblames := ih less (by omega) (.parenthesis :: stack)
      rw [List.length_cons, Nat.add_right_comm] at hblames
      have hopens := disjunction_blames (settle_parenthesis stack) hblames more offset fails
      exact OpensAt.cons hopens
    | close _ fails => exact absurd fails close_ne_tooDeep

theorem lexeme_ne_tooDeep {offset place : Nat} {c : Char} {rest : List Char} :
    Token.lexeme offset c rest ≠ .error (.tooDeep place) := by
  intro h
  simp only [Token.lexeme] at h
  split_ifs at h
  · cases h
  · split at h <;> cases h
  · split at h <;> cases h

theorem tokens_ne_tooDeep {offset place : Nat} {cs : List Char} :
    tokens offset cs ≠ .error (.tooDeep place) := by
  intro h
  fun_induction tokens offset cs with
  | case1 => cases h
  | case2 _ _ _ _ ih => exact ih h
  | case3 _ _ _ _ _ hlexeme =>
    cases h
    exact lexeme_ne_tooDeep hlexeme
  | case4 _ _ _ _ _ _ _ _ hmore ih =>
    cases h
    exact ih hmore
  | case5 => cases h

/-- A condition that is too deep has tokens, and one of them is what the parser blames. -/
theorem opensAt_of_tooDeep {source : String} {offset : Nat}
    (h : parse source = .error (.tooDeep offset)) :
    ∃ ts, tokenize source = .ok ts ∧ OpensAt [] maxDepth ts offset := by
  unfold parse at h
  split at h
  · next htokens =>
    cases h
    exact absurd htokens tokens_ne_tooDeep
  · next ts hts =>
    refine ⟨ts, hts, ?_⟩
    unfold Expr.ofTokens at h
    split at h
    · next hread =>
      cases h
      have hoperand := operand_blames maxDepth []
      rw [List.length_nil, Nat.zero_add] at hoperand
      exact disjunction_blames rfl hoperand ts offset hread
    · cases h
    · cases h

theorem height_le_of_parse {source : String} {e : Expr} (h : parse source = .ok e) :
    e.height ≤ 3 * maxDepth + 4 := by
  obtain ⟨ts, -, d, -, hd, rfl⟩ := exists_of_parse h
  exact height_le d hd

/-- The place of a token as a cut of the source. -/
theorem exists_word_of_place {source : String} {ts : List Placed} {token : Token} {offset : Nat}
    (h : tokenize source = .ok ts) (hmem : (token, offset) ∈ ts)
    (htoken : token = .opening ∨ token = .not) :
    ∃ before word after, source = before ++ word ++ after ∧ before.utf8ByteSize = offset ∧
      word ∈ ["(", "!", "not"] := by
  obtain ⟨before, c, rest, count, hsource, hoffset, hlexeme⟩ := exists_of_mem_tokens h hmem
  obtain ⟨word, hword, after, hcover⟩ := Token.exists_word_of_opens hlexeme htoken
  refine ⟨String.ofList before, word, String.ofList after, ?_, ?_, hword⟩
  · apply String.toList_injective
    simp [hsource, ← hcover]
  · rw [hoffset, Nat.zero_add, Token.bytes_eq]

/-- What parses has at most the height that the depth allows, and evaluating it goes no deeper,
however long its chains are. What is too deep is an opener that the source has at this place, with
just so many others still open. Nothing else counts: the parser is one that counts up at an opener
and down after it, each operand leaves the count as it was, and a condition of the grammar in which
never more than those are open is read. -/
theorem nesting_bounded (source : String) :
    (∀ e, parse source = .ok e →
      e.height ≤ 196 ∧ ∀ lookup, e.evalWithin lookup 196 = some (e.eval lookup)) ∧
    (∀ offset, parse source = .error (.tooDeep offset) →
      ∃ front token back, tokenize source = .ok (front ++ (token, offset) :: back) ∧
        (token = .opening ∨ token = .not) ∧
        (openAfter [] (front.map Prod.fst)).length = 64 ∧
        ∃ before word after, source = before ++ word ++ after ∧ before.utf8ByteSize = offset ∧
          word ∈ ["(", "!", "not"]) ∧
    ∀ ts, tokenize source = .ok ts →
      parse source = Counting.ofTokens ts ∧
      (∀ s s' e, s.depth ≤ 64 → s.tokens.length ≤ ts.length →
        Counting.operand ts.length s = .ok (e, s') → s'.depth = s.depth) ∧
      ∀ d : Disjunction, d.tokens = ts.map Prod.fst → NestsWithin 64 source →
        parse source = .ok d.expr := by
  refine ⟨fun e he => ?_, fun offset hdeep => ?_, fun ts hts => ⟨?_, ?_, fun d hd hnests => ?_⟩⟩
  · have hheight : e.height ≤ 196 := height_le_of_parse he
    exact ⟨hheight, fun lookup => evalWithin_eq hheight⟩
  · obtain ⟨ts, hts, front, token, back, rfl, htoken, hcount⟩ := opensAt_of_tooDeep hdeep
    have hword := exists_word_of_place hts List.mem_append_cons_self htoken
    exact ⟨front, token, back, hts, htoken, hcount, hword⟩
  · rw [parse, hts, Counting.ofTokens_eq]
  · exact fun s s' e hdepth hsize hread => Counting.depth_of_operand hdepth hsize hread
  · have hlevels := hnests ts hts
    rw [← hd, levels_tokens] at hlevels
    exact parse_of_derivation hts hd hlevels

/-- The last of 65 negations is too deep, as the others are all open around it. -/
theorem last_negation_too_deep :
    (parse "not !(a)" = .ok (.not (.not (.var "a"))) ∧
      ∀ lookup, (Expr.not (.not (.var "a"))).evalWithin lookup 196 =
        some ((Expr.not (.not (.var "a"))).eval lookup)) ∧
    parse ("".pushn '!' 65 ++ "a") = .error (.tooDeep 64) ∧
      ∃ front token back,
        tokenize ("".pushn '!' 65 ++ "a") = .ok (front ++ (token, 64) :: back) ∧
        (openAfter [] (front.map Prod.fst)).length = 64 := by
  have htokens : tokenize "not !(a)" =
      .ok [(.not, 0), (.not, 4), (.opening, 5), (.name "a", 6), (.closing, 7)] := by decide +kernel
  have hread : (parse ("".pushn '!' 65 ++ "a")).map (fun _ => ()) = .error (.tooDeep 64) := by
    decide +kernel
  let group : Atom := .group (.last (.last (.single (.atom (.name "a")))))
  let negated : Disjunction := .last (.last (.single (.not (.not (.atom group)))))
  have hnests : NestsWithin 64 "not !(a)" := by decide +kernel
  have hparse : parse "not !(a)" = .ok (.not (.not (.var "a"))) :=
    ((nesting_bounded "not !(a)").2.2 _ htokens).2.2 negated rfl hnests
  have hdeep := error_of_map_error hread
  obtain ⟨front, token, back, htokens', -, hcount, -⟩ := (nesting_bounded _).2.1 64 hdeep
  exact ⟨⟨hparse, ((nesting_bounded _).1 _ hparse).2⟩, hdeep, front, token, back, htokens', hcount⟩

end Nesting

end StoryPress.Condition
