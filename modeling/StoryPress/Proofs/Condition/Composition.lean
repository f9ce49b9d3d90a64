import StoryPress.Proofs.Condition.Nesting

/-! Two texts next to each other read one after the other, if no lexeme of the first can go on in
the second. So conditions in parentheses may be joined and negated as texts, and the whole is
derived from the derivations of its parts: it says of every story what the parts say, joined or
negated. -/
namespace StoryPress.Condition

open StoryPress.Json (Lookup Value)
open StoryPress.Text (isAsciiBlank)

namespace Token

variable {c : Char} {rest : List Char}

theorem separates_cons (h : c ∈ [' ', '(', ')']) : Separates (c :: rest) := by
  rintro d ⟨⟩
  simp only [List.mem_cons, List.not_mem_nil, or_false] at h
  rcases h with rfl | rfl | rfl <;> decide

theorem mem_of_lexeme_quote {offset : Nat} {found : Token × Nat} (hquote : c = '"' ∨ c = '\'')
    (h : lexeme offset c rest = .ok found) : c ∈ rest := by
  rw [lexeme_text hquote] at h
  split_ifs at h with hinside
  exact hinside

end Token

namespace Reads

variable {xs ys blanks : List Char} {kinds others : List Token}

theorem append (hxs : Reads xs kinds) (hys : Reads ys others) (h : Token.Separates ys) :
    Reads (xs ++ ys) (kinds ++ others) := by
  induction hxs with
  | done => exact hys
  | blank skipped _ ih => exact .blank skipped ih
  | @token c rest kinds token count kept lexeme _ ih =>
    have hlexeme : ∀ offset, Token.lexeme offset c (rest ++ ys) = .ok (token, count) := by
      intro offset
      have hquote : c = '"' ∨ c = '\'' → c ∈ ys → c ∈ rest := fun hq _ =>
        Token.mem_of_lexeme_quote hq (lexeme 0)
      rw [Token.lexeme_append h hquote, lexeme]
    have hdrop : (rest ++ ys).drop count = rest.drop count ++ ys :=
      List.drop_append_of_le_length (Token.lexeme_length_le (lexeme 0))
    exact .token kept hlexeme (hdrop ▸ ih)

theorem blanks_append (hblanks : ∀ c ∈ blanks, isAsciiBlank c = true) (h : Reads xs kinds) :
    Reads (blanks ++ xs) kinds := by
  induction blanks with
  | nil => exact h
  | cons b blanks ih =>
    have hrest := ih fun c hc => hblanks c (List.mem_cons_of_mem b hc)
    exact .blank (hblanks b List.mem_cons_self) hrest

theorem append_blanks (h : Reads xs kinds) (hblanks : ∀ c ∈ blanks, isAsciiBlank c = true) :
    Reads (xs ++ blanks) kinds := by
  have hnone : Reads blanks [] := by
    have hdone := blanks_append hblanks .done
    rwa [List.append_nil] at hdone
  have hall := h.append hnone
    (Token.separates_of_allBlank fun c hc => Text.isBlank_of_isAsciiBlank (hblanks c hc))
  rwa [List.append_nil] at hall

theorem opening (h : Reads xs kinds) : Reads ('(' :: xs) (.opening :: kinds) :=
  .token (by decide) (fun _ => rfl) h

theorem closing (h : Reads xs kinds) : Reads (')' :: xs) (.closing :: kinds) :=
  .token (by decide) (fun _ => rfl) h

end Reads

open StoryPress.Condition.Grammar

section

variable {source : String} {d : Disjunction}

theorem nestsWithin_iff {limit : Nat} (h : Reads source.toList d.tokens) :
    NestsWithin limit source ↔ Within limit d.levels := by
  obtain ⟨ts, hts, hkinds⟩ := h.tokens 0
  have hlevels : Nesting.levels (ts.map Prod.fst) = d.levels := by
    rw [hkinds, Nesting.levels_tokens]
  constructor
  · intro hnests
    have hwithin := hnests ts hts
    rwa [hlevels] at hwithin
  · intro hwithin us hus
    obtain rfl : ts = us := Except.ok.inj (hts.symm.trans hus)
    rwa [hlevels]

theorem parse_of_reads (h : Reads source.toList d.tokens) (hnests : NestsWithin maxDepth source) :
    parse source = .ok d.expr := by
  obtain ⟨ts, hts, hkinds⟩ := h.tokens 0
  exact parse_of_derivation hts hkinds.symm ((nestsWithin_iff h).mp hnests)

theorem exists_derivation {e : Expr} (h : parse source = .ok e) :
    ∃ d : Disjunction, Reads source.toList d.tokens ∧ NestsWithin maxDepth source ∧ d.expr = e := by
  obtain ⟨ts, hts, d, hd, hwithin, he⟩ := exists_of_parse h
  have hreads : Reads source.toList d.tokens := hd ▸ reads_of_tokens hts
  exact ⟨d, hreads, (nestsWithin_iff hreads).mpr hwithin, he⟩

end

/-- Two sources in parentheses with a word between them. -/
def joined (word s t : String) : String := "(" ++ s ++ ") " ++ word ++ " (" ++ t ++ ")"

/-- A source in parentheses after a sign. -/
def negated (sign s : String) : String := sign ++ "(" ++ s ++ ")"

section

variable {s t word sign : String} {c d : Disjunction} {cs : List Char} {token : Token}

theorem Reads.group (h : Reads cs c.tokens) : Reads ('(' :: (cs ++ [')'])) (Atom.group c).tokens :=
  (h.append Reads.done.closing (Token.separates_cons (by simp))).opening

theorem reads_joined (hs : Reads s.toList c.tokens) (ht : Reads t.toList d.tokens)
    (hword : Reads word.toList [token]) :
    Reads (joined word s t).toList
      ((Atom.group c).tokens ++ token :: (Atom.group d).tokens) := by
  have hright : Reads (' ' :: '(' :: (t.toList ++ [')'])) (Atom.group d).tokens :=
    .blank (by decide) ht.group
  have hlink : Reads (' ' :: (word.toList ++ ' ' :: '(' :: (t.toList ++ [')'])))
      (token :: (Atom.group d).tokens) :=
    .blank (by decide) (hword.append hright (Token.separates_cons (by simp)))
  have hwhole := hs.group.append hlink (Token.separates_cons (by simp))
  simpa [joined] using hwhole

theorem reads_negated (hs : Reads s.toList c.tokens) (hsign : Reads sign.toList [.not]) :
    Reads (negated sign s).toList (Unary.not (.atom (.group c))).tokens := by
  have hwhole := hsign.append hs.group (Token.separates_cons (by simp))
  simpa [negated, Unary.tokens] using hwhole

end

/-- The source is a condition that is true just when this is. -/
def Says (source : String) (holds : Lookup → Bool) : Prop :=
  ∃ e, parse source = .ok e ∧ ∀ lookup, e.isTrue lookup = holds lookup

section

variable {s t word sign : String} {c d : Disjunction}

theorem says_and (hs : Reads s.toList c.tokens) (ht : Reads t.toList d.tokens)
    (hword : Reads word.toList [.and]) (hnests : NestsWithin maxDepth (joined word s t)) :
    Says (joined word s t) fun lookup => c.expr.isTrue lookup && d.expr.isTrue lookup := by
  let both : Disjunction :=
    .last (.more (.single (.atom (.group c))) (.last (.single (.atom (.group d)))))
  have hboth : Reads (joined word s t).toList both.tokens := reads_joined hs ht hword
  refine ⟨both.expr, parse_of_reads hboth hnests, fun lookup => ?_⟩
  have hexpr : both.expr = .all [c.expr, d.expr] := rfl
  rw [hexpr]
  simp [Expr.isTrue, Expr.eval, Expr.evalAll, Value.isTruthy]

theorem says_or (hs : Reads s.toList c.tokens) (ht : Reads t.toList d.tokens)
    (hword : Reads word.toList [.or]) (hnests : NestsWithin maxDepth (joined word s t)) :
    Says (joined word s t) fun lookup => c.expr.isTrue lookup || d.expr.isTrue lookup := by
  let either : Disjunction :=
    .more (.last (.single (.atom (.group c)))) (.last (.last (.single (.atom (.group d)))))
  have heither : Reads (joined word s t).toList either.tokens := reads_joined hs ht hword
  refine ⟨either.expr, parse_of_reads heither hnests, fun lookup => ?_⟩
  have hexpr : either.expr = .any [c.expr, d.expr] := rfl
  rw [hexpr]
  simp [Expr.isTrue, Expr.eval, Expr.evalAny, Value.isTruthy]

theorem says_not (hs : Reads s.toList c.tokens) (hsign : Reads sign.toList [.not])
    (hnests : NestsWithin maxDepth (negated sign s)) :
    Says (negated sign s) fun lookup => !c.expr.isTrue lookup := by
  let neither : Disjunction := .last (.last (.single (.not (.atom (.group c)))))
  have hneither : Reads (negated sign s).toList neither.tokens := reads_negated hs hsign
  refine ⟨neither.expr, parse_of_reads hneither hnests, fun lookup => ?_⟩
  have hexpr : neither.expr = .not c.expr := rfl
  rw [hexpr]
  simp [Expr.isTrue, Expr.eval, Value.isTruthy]

end

/-- Conditions compose as texts, as long as they nest within the limit: in parentheses they may be
joined or negated, in both spellings of each operator, and ASCII blanks around one are as nothing. -/
theorem conditions_compose {s t : String} {x y : Expr} (hs : parse s = .ok x)
    (ht : parse t = .ok y) :
    (∀ word ∈ ["and", "&&"], NestsWithin maxDepth (joined word s t) →
      Says (joined word s t) fun lookup => x.isTrue lookup && y.isTrue lookup) ∧
    (∀ word ∈ ["or", "||"], NestsWithin maxDepth (joined word s t) →
      Says (joined word s t) fun lookup => x.isTrue lookup || y.isTrue lookup) ∧
    (∀ sign ∈ ["not ", "!"], NestsWithin maxDepth (negated sign s) →
      Says (negated sign s) fun lookup => !x.isTrue lookup) ∧
    ∀ before after : String, before.toList.all isAsciiBlank = true →
      after.toList.all isAsciiBlank = true → parse (before ++ s ++ after) = .ok x := by
  obtain ⟨c, hc, hwithin, rfl⟩ := exists_derivation hs
  obtain ⟨d, hd, -, rfl⟩ := exists_derivation ht
  refine ⟨fun word hword => ?_, fun word hword => ?_, fun sign hsign => ?_,
    fun before after hbefore hafter => ?_⟩
  · have htoken : tokenize word = .ok [(.and, 0)] := by
      rcases List.mem_pair.mp hword with rfl | rfl <;> decide +kernel
    exact says_and hc hd (reads_of_tokens htoken)
  · have htoken : tokenize word = .ok [(.or, 0)] := by
      rcases List.mem_pair.mp hword with rfl | rfl <;> decide +kernel
    exact says_or hc hd (reads_of_tokens htoken)
  · have htoken : tokenize sign = .ok [(.not, 0)] := by
      rcases List.mem_pair.mp hsign with rfl | rfl <;> decide +kernel
    exact says_not hc (reads_of_tokens htoken)
  · have hreads : Reads (before ++ s ++ after).toList c.tokens := by
      rw [String.toList_append, String.toList_append]
      exact (hc.blanks_append (List.all_eq_true.mp hbefore)).append_blanks
        (List.all_eq_true.mp hafter)
    have hnests : NestsWithin maxDepth (before ++ s ++ after) :=
      (nestsWithin_iff hreads).mpr ((nestsWithin_iff hc).mp hwithin)
    exact parse_of_reads hreads hnests

/-- A parenthesis in quotes closes nothing. -/
theorem joined_with_quoted_parenthesis :
    (NestsWithin maxDepth (joined "&&" "a or b" "c = ')'") ∧
      Says (joined "&&" "a or b" "c = ')'") fun lookup =>
        (Expr.any [.var "a", .var "b"]).isTrue lookup &&
          (Expr.compare .eq (.var "c") (.literal (.text ")"))).isTrue lookup) ∧
    (NestsWithin maxDepth (negated "not " "a or b") ∧
      Says (negated "not " "a or b") fun lookup => !(Expr.any [.var "a", .var "b"]).isTrue lookup) ∧
    parse ("\t" ++ "a or b" ++ " \n") = .ok (.any [.var "a", .var "b"]) := by
  have hstokens : tokenize "a or b" = .ok [(.name "a", 0), (.or, 2), (.name "b", 5)] := by
    decide +kernel
  have httokens : tokenize "c = ')'" =
      .ok [(.name "c", 0), (.compare .eq, 2), (.text ")", 4)] := by decide +kernel
  have hs : parse "a or b" = .ok (.any [.var "a", .var "b"]) := by
    rw [parse, hstokens]
    rfl
  have ht : parse "c = ')'" = .ok (.compare .eq (.var "c") (.literal (.text ")"))) := by
    rw [parse, httokens]
    rfl
  have hjoined : NestsWithin maxDepth (joined "&&" "a or b" "c = ')'") := by decide +kernel
  have hnegated : NestsWithin maxDepth (negated "not " "a or b") := by decide +kernel
  obtain ⟨hand, -, hnot, hblanks⟩ := conditions_compose hs ht
  exact ⟨⟨hjoined, hand "&&" (by simp) hjoined⟩, ⟨hnegated, hnot "not " (by simp) hnegated⟩,
    hblanks "\t" " \n" (by decide) (by decide)⟩

end StoryPress.Condition
