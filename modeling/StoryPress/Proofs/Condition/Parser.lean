import StoryPress.Proofs.Condition.Derivation

namespace StoryPress.Condition.Grammar

open StoryPress.Condition.Expr (chain close comparison conjunction disjunction ofName ofNumeral
  operand terms)

theorem expr_number (n : Numeral) : (Atom.number n).expr = ofNumeral n := by
  cases n <;> rfl

theorem expr_name (s : String) : (Atom.name s).expr = ofName s := by
  unfold Atom.expr ofName
  split <;> simp_all

theorem chain_all (c : Conjunction) : chain .all c.terms = c.expr := by
  cases c with
  | last only => rfl
  | more first others => cases others <;> rfl

theorem chain_any (d : Disjunction) : chain .any d.terms = d.expr := by
  cases d with
  | last only => rfl
  | more first others => cases others <;> rfl

theorem ok_of_map_ok {ε α β : Type} {f : α → β} {x : Except ε α} {b : β}
    (h : x.map f = .ok b) : ∃ a, x = .ok a ∧ f a = b := by
  cases x with
  | error e => cases h
  | ok a => exact ⟨a, rfl, Except.ok.inj h⟩

theorem error_of_map_error {ε α β : Type} {f : α → β} {x : Except ε α} {e : ε}
    (h : x.map f = .error e) : x = .error e := by
  cases x with
  | error e' =>
    cases h
    rfl
  | ok a => cases h

section Chains

variable {link : Token} {term : Parser Expr} {ts mid rest : List Placed} {e : Expr}
  {es : List Expr} {links offset : Nat}

theorem terms_last (h : term ts = .ok (e, rest)) (hrest : (rest.map Prod.fst).head? ≠ some link) :
    terms link term links ts = .ok ([e], rest) := by
  cases links with
  | zero => simp [terms, h, Except.map]
  | succ links =>
    rw [terms, h]
    cases rest with
    | nil => rfl
    | cons first rest =>
      obtain ⟨token, offset⟩ := first
      have hne : token ≠ link := by simpa using hrest
      simp [hne]

theorem terms_more (h : term ts = .ok (e, (link, offset) :: mid))
    (hmore : terms link term links mid = .ok (es, rest)) :
    terms link term (links + 1) ts = .ok (e :: es, rest) := by
  rw [terms, h]
  simp [hmore, Except.map]

theorem terms_cases (h : terms link term links ts = .ok (es, rest)) :
    (∃ e, term ts = .ok (e, rest) ∧ es = [e]) ∨
      ∃ e offset mid more others, term ts = .ok (e, (link, offset) :: mid) ∧ links = more + 1 ∧
        terms link term more mid = .ok (others, rest) ∧ es = e :: others := by
  cases links with
  | zero =>
    obtain ⟨⟨e, left⟩, ht, he⟩ := ok_of_map_ok h
    cases he
    exact .inl ⟨e, ht, rfl⟩
  | succ more =>
    rw [terms] at h
    split at h
    · cases h
    · next e ht =>
      cases h
      exact .inl ⟨e, ht, rfl⟩
    · next e token offset mid ht =>
      split at h
      · next hlink =>
        subst hlink
        obtain ⟨⟨others, left⟩, hmore, he⟩ := ok_of_map_ok h
        cases he
        exact .inr ⟨e, offset, mid, more, others, ht, rfl, hmore, rfl⟩
      · cases h
        exact .inl ⟨e, ht, rfl⟩

theorem conjunction_ok {c : Conjunction}
    (h : terms .and (comparison term) ts.length ts = .ok (c.terms, rest)) :
    conjunction term ts = .ok (c.expr, rest) := by
  rw [conjunction, h, ← chain_all]
  rfl

theorem disjunction_ok {d : Disjunction}
    (h : terms .or (conjunction term) ts.length ts = .ok (d.terms, rest)) :
    disjunction term ts = .ok (d.expr, rest) := by
  rw [disjunction, h, ← chain_any]
  rfl

end Chains

theorem comparison_single {term : Parser Expr} {ts rest : List Placed} {e : Expr}
    (h : term ts = .ok (e, rest)) (hrest : EndsCompared (rest.map Prod.fst)) :
    comparison term ts = .ok (e, rest) := by
  rw [comparison, h]
  split
  · next he => cases he
  · next left op offset mid he =>
    cases he
    exact absurd rfl (hrest op)
  · next left mid _ he =>
    cases he
    rfl

theorem comparison_pair {term : Parser Expr} {ts mid rest : List Placed} {l r : Expr}
    {op : Comparison} {offset : Nat} (hl : term ts = .ok (l, (.compare op, offset) :: mid))
    (hr : term mid = .ok (r, rest)) :
    comparison term ts = .ok (.compare op l r, rest) := by
  rw [comparison, hl]
  simp [hr, Except.map]

theorem map_fst_cons {token : Token} {tokens : List Token} {ts : List Placed}
    (h : ts.map Prod.fst = token :: tokens) :
    ∃ offset more, ts = (token, offset) :: more ∧ more.map Prod.fst = tokens := by
  obtain ⟨⟨t, offset⟩, more, rfl, rfl, hmore⟩ := List.map_eq_cons_iff.mp h
  exact ⟨offset, more, rfl, hmore⟩

mutual

theorem Atom.complete {depth : Nat} {ts : List Placed} (rest : List Placed) :
    (a : Atom) → Within depth a.levels → ts.map Prod.fst = a.tokens →
      operand depth (ts ++ rest) = .ok (a.expr, rest)
  | .number n, _, h => by
    obtain ⟨offset, more, rfl, hmore⟩ := map_fst_cons h
    rw [List.map_eq_nil_iff.mp hmore, expr_number]
    cases depth <;> rfl
  | .text s, _, h => by
    obtain ⟨offset, more, rfl, hmore⟩ := map_fst_cons h
    rw [List.map_eq_nil_iff.mp hmore]
    cases depth <;> rfl
  | .name s, _, h => by
    obtain ⟨offset, more, rfl, hmore⟩ := map_fst_cons h
    rw [List.map_eq_nil_iff.mp hmore, expr_name]
    cases depth <;> rfl
  | .group inner, hw, h => by
    simp only [Atom.levels, within_zero_cons, within_append,
      within_inside (inner.length_levels ▸ inner.tokens_pos)] at hw
    obtain ⟨⟨less, rfl, hless⟩, -⟩ := hw
    obtain ⟨offset, more, rfl, hmore⟩ := map_fst_cons h
    obtain ⟨body, final, rfl, hbody, hfinal⟩ := List.map_eq_append_iff.mp hmore
    obtain ⟨offset', more, rfl, hnil⟩ := map_fst_cons hfinal
    obtain rfl := List.map_eq_nil_iff.mp hnil
    have hinner := disjunction_ok
      (Disjunction.complete ((.closing, offset') :: rest) inner hless hbody
        (endsDisjunction_closing _) (by simp))
    simp only [List.cons_append, List.append_assoc, List.nil_append, operand, hinner, close]
    rfl

theorem Unary.complete {depth : Nat} {ts : List Placed} (rest : List Placed) :
    (u : Unary) → Within depth u.levels → ts.map Prod.fst = u.tokens →
      operand depth (ts ++ rest) = .ok (u.expr, rest)
  | .not inner, hw, h => by
    simp only [Unary.levels, within_zero_cons,
      within_inside (inner.length_levels ▸ inner.tokens_pos)] at hw
    obtain ⟨less, rfl, hless⟩ := hw
    obtain ⟨offset, more, rfl, hmore⟩ := map_fst_cons h
    have hinner := Unary.complete rest inner hless hmore
    simp only [List.cons_append, operand, hinner]
    rfl
  | .atom only, hw, h => Atom.complete rest only hw h

theorem Compared.complete {depth : Nat} {ts : List Placed} (rest : List Placed) :
    (c : Compared) → Within depth c.levels → ts.map Prod.fst = c.tokens →
      EndsCompared (rest.map Prod.fst) →
      comparison (operand depth) (ts ++ rest) = .ok (c.expr, rest)
  | .single only, hw, h, hrest => comparison_single (Unary.complete rest only hw h) hrest
  | .pair left op right, hw, h, _ => by
    simp only [Compared.levels, within_append, within_zero_cons] at hw
    obtain ⟨ls, more, rfl, hl, hmore⟩ := List.map_eq_append_iff.mp h
    obtain ⟨offset, rs, rfl, hr⟩ := map_fst_cons hmore
    rw [List.append_assoc]
    exact comparison_pair (Unary.complete _ left hw.1 hl) (Unary.complete rest right hw.2 hr)

theorem Conjunction.complete {depth links : Nat} {ts : List Placed} (rest : List Placed) :
    (c : Conjunction) → Within depth c.levels → ts.map Prod.fst = c.tokens →
      EndsConjunction (rest.map Prod.fst) → ts.length ≤ links →
      terms .and (comparison (operand depth)) links (ts ++ rest) = .ok (c.terms, rest)
  | .last only, hw, h, hrest, _ => terms_last (Compared.complete rest only hw h hrest.2) hrest.1
  | .more first others, hw, h, hrest, hlinks => by
    simp only [Conjunction.levels, within_append, within_zero_cons] at hw
    obtain ⟨fs, more, rfl, hf, hmore⟩ := List.map_eq_append_iff.mp h
    obtain ⟨offset, os, rfl, ho⟩ := map_fst_cons hmore
    rw [List.length_append, List.length_cons] at hlinks
    cases links with
    | zero => omega
    | succ links =>
      have hfirst := Compared.complete ((.and, offset) :: (os ++ rest)) first hw.1 hf
        (endsCompared_and _)
      rw [List.append_assoc]
      exact terms_more hfirst (Conjunction.complete rest others hw.2 ho hrest (by omega))

theorem Disjunction.complete {depth links : Nat} {ts : List Placed} (rest : List Placed) :
    (d : Disjunction) → Within depth d.levels → ts.map Prod.fst = d.tokens →
      EndsDisjunction (rest.map Prod.fst) → ts.length ≤ links →
      terms .or (conjunction (operand depth)) links (ts ++ rest) = .ok (d.terms, rest)
  | .last only, hw, h, hrest, _ => by
    have hlast := conjunction_ok (Conjunction.complete rest only hw h hrest.2 (by simp))
    exact terms_last hlast hrest.1
  | .more first others, hw, h, hrest, hlinks => by
    simp only [Disjunction.levels, within_append, within_zero_cons] at hw
    obtain ⟨fs, more, rfl, hf, hmore⟩ := List.map_eq_append_iff.mp h
    obtain ⟨offset, os, rfl, ho⟩ := map_fst_cons hmore
    rw [List.length_append, List.length_cons] at hlinks
    cases links with
    | zero => omega
    | succ links =>
      have hfirst := conjunction_ok
        (Conjunction.complete ((.or, offset) :: (os ++ rest)) first hw.1 hf
          (endsConjunction_or _) (by simp))
      rw [List.append_assoc]
      exact terms_more hfirst (Disjunction.complete rest others hw.2 ho hrest (by omega))

end

/-- Whatever a parser accepts has a derivation of some kind, with the value that it gives. -/
def Sound {δ α : Type} (tokens : δ → List Token) (levels : δ → List Nat) (value : δ → α)
    (depth : Nat) (p : Parser α) : Prop :=
  ∀ ts a rest, p ts = .ok (a, rest) →
    ∃ d used, ts = used ++ rest ∧ used.map Prod.fst = tokens d ∧ Within depth (levels d) ∧
      value d = a

section Soundness

variable {depth : Nat} {p : Parser Expr}

theorem comparison_sound (hp : Sound Unary.tokens Unary.levels Unary.expr depth p) :
    Sound Compared.tokens Compared.levels Compared.expr depth (comparison p) := by
  intro ts e rest h
  rw [comparison] at h
  split at h
  · cases h
  · next left op offset mid hleft =>
    obtain ⟨⟨right, more⟩, hright, he⟩ := ok_of_map_ok h
    cases he
    obtain ⟨u, us, rfl, hu, hwu, rfl⟩ := hp _ _ _ hleft
    obtain ⟨v, vs, rfl, hv, hwv, rfl⟩ := hp _ _ _ hright
    refine ⟨.pair u op v, us ++ (.compare op, offset) :: vs, by simp, ?_, ?_, rfl⟩
    · simp [Compared.tokens, hu, hv]
    · exact within_append.mpr ⟨hwu, within_zero_cons.mpr hwv⟩
  · next left more _ hleft =>
    cases h
    obtain ⟨u, us, rfl, hu, hwu, rfl⟩ := hp _ _ _ hleft
    exact ⟨.single u, us, rfl, hu, hwu, rfl⟩

/-- A chain of derivations of one kind is a derivation of the next kind. -/
theorem terms_sound {δ γ : Type} {tokens : δ → List Token} {levels : δ → List Nat}
    {value : δ → Expr} {tokens' : γ → List Token} {levels' : γ → List Nat}
    {values' : γ → List Expr} {link : Token} (last : δ → γ) (more : δ → γ → γ)
    (hlast : ∀ d, tokens' (last d) = tokens d ∧ levels' (last d) = levels d ∧
      values' (last d) = [value d])
    (hmore : ∀ d c, tokens' (more d c) = tokens d ++ link :: tokens' c ∧
      levels' (more d c) = levels d ++ 0 :: levels' c ∧ values' (more d c) = value d :: values' c)
    (hp : Sound tokens levels value depth p) (links : Nat) :
    Sound tokens' levels' values' depth (terms link p links) := by
  induction links using Nat.strongRecOn with
  | ind links ih =>
    intro ts es rest h
    rcases terms_cases h with ⟨e, he, rfl⟩ | ⟨e, offset, mid, fewer, others, he, rfl, hrest, rfl⟩
    · obtain ⟨d, used, rfl, hd, hw, rfl⟩ := hp _ _ _ he
      obtain ⟨htokens, hlevels, hvalues⟩ := hlast d
      exact ⟨last d, used, rfl, htokens ▸ hd, hlevels ▸ hw, hvalues⟩
    · obtain ⟨d, used, rfl, hd, hw, rfl⟩ := hp _ _ _ he
      obtain ⟨c, os, rfl, hc, hwc, rfl⟩ := ih fewer (by omega) _ _ _ hrest
      obtain ⟨htokens, hlevels, hvalues⟩ := hmore d c
      refine ⟨more d c, used ++ (link, offset) :: os, by simp, ?_, ?_, hvalues⟩
      · rw [htokens, List.map_append, List.map_cons, hd, hc]
      · rw [hlevels]
        exact within_append.mpr ⟨hw, within_zero_cons.mpr hwc⟩

theorem conjunction_sound (hp : Sound Unary.tokens Unary.levels Unary.expr depth p) :
    Sound Conjunction.tokens Conjunction.levels Conjunction.expr depth (conjunction p) := by
  intro ts e rest h
  obtain ⟨⟨es, left⟩, hterms, he⟩ := ok_of_map_ok h
  cases he
  have hsound : Sound Conjunction.tokens Conjunction.levels Conjunction.terms depth _ :=
    terms_sound Conjunction.last Conjunction.more (fun _ => ⟨rfl, rfl, rfl⟩)
      (fun _ _ => ⟨rfl, rfl, rfl⟩) (comparison_sound hp) ts.length
  obtain ⟨c, used, hts, hc, hw, rfl⟩ := hsound _ _ _ hterms
  exact ⟨c, used, hts, hc, hw, (chain_all c).symm⟩

theorem disjunction_sound (hp : Sound Unary.tokens Unary.levels Unary.expr depth p) :
    Sound Disjunction.tokens Disjunction.levels Disjunction.expr depth (disjunction p) := by
  intro ts e rest h
  obtain ⟨⟨es, left⟩, hterms, he⟩ := ok_of_map_ok h
  cases he
  have hsound : Sound Disjunction.tokens Disjunction.levels Disjunction.terms depth _ :=
    terms_sound Disjunction.last Disjunction.more (fun _ => ⟨rfl, rfl, rfl⟩)
      (fun _ _ => ⟨rfl, rfl, rfl⟩) (conjunction_sound hp) ts.length
  obtain ⟨d, used, hts, hd, hw, rfl⟩ := hsound _ _ _ hterms
  exact ⟨d, used, hts, hd, hw, (chain_any d).symm⟩

theorem close_ok {inner e : Expr} {ts rest : List Placed} (h : close inner ts = .ok (e, rest)) :
    e = inner ∧ ∃ offset, ts = (.closing, offset) :: rest := by
  unfold close at h
  split at h
  · cases h
  · next offset more =>
    cases h
    exact ⟨rfl, offset, rfl⟩
  · cases h

/-- An operand is one token, or a negation or a group with a smaller budget inside. -/
inductive ReadsOperand : Nat → List Placed → Expr → List Placed → Prop
  | token {depth offset : Nat} {rest : List Placed} {token : Token} (a : Atom)
      (tokens : a.tokens = [token]) (levels : a.levels = [0]) :
      ReadsOperand depth ((token, offset) :: rest) a.expr rest
  | not {less offset : Nat} {more rest : List Placed} {inner : Expr}
      (reads : operand less more = .ok (inner, rest)) :
      ReadsOperand (less + 1) ((.not, offset) :: more) (.not inner) rest
  | group {less offset offset' : Nat} {more rest : List Placed} {inner : Expr}
      (reads : disjunction (operand less) more = .ok (inner, (.closing, offset') :: rest)) :
      ReadsOperand (less + 1) ((.opening, offset) :: more) inner rest

theorem operand_cases {depth : Nat} {ts rest : List Placed} {e : Expr}
    (h : operand depth ts = .ok (e, rest)) : ReadsOperand depth ts e rest := by
  rw [operand.eq_def] at h
  split at h
  · cases h
  · cases h
  · cases h
  · next less offset more =>
    obtain ⟨⟨inner, left⟩, hinner, he⟩ := ok_of_map_ok h
    cases he
    exact .not hinner
  · next less offset more =>
    split at h
    · cases h
    · next inner left hinner =>
      obtain ⟨rfl, offset', rfl⟩ := close_ok h
      exact .group hinner
  · next n offset more =>
    cases h
    rw [← expr_number]
    exact .token (.number n) rfl rfl
  · next s offset more =>
    cases h
    exact .token (.text s) rfl rfl
  · next s offset more =>
    cases h
    rw [← expr_name]
    exact .token (.name s) rfl rfl
  · cases h

/-- An operand fails at its first token, or inside of a negation or a group. -/
inductive FailsOperand : Nat → List Placed → Error → Prop
  | nothing {depth : Nat} : FailsOperand depth [] .unexpectedEnd
  | deep {offset : Nat} {rest : List Placed} {token : Token}
      (opens : token = .opening ∨ token = .not) :
      FailsOperand 0 ((token, offset) :: rest) (.tooDeep offset)
  | token {depth offset : Nat} {rest : List Placed} {token : Token} :
      FailsOperand depth ((token, offset) :: rest) (.unexpectedToken token.describe offset)
  | not {less offset : Nat} {more : List Placed} {e : Error}
      (fails : operand less more = .error e) : FailsOperand (less + 1) ((.not, offset) :: more) e
  | group {less offset : Nat} {more : List Placed} {e : Error}
      (fails : disjunction (operand less) more = .error e) :
      FailsOperand (less + 1) ((.opening, offset) :: more) e
  | close {less offset : Nat} {more rest : List Placed} {inner : Expr} {e : Error}
      (reads : disjunction (operand less) more = .ok (inner, rest))
      (fails : close inner rest = .error e) :
      FailsOperand (less + 1) ((.opening, offset) :: more) e

theorem operand_fails {depth : Nat} {ts : List Placed} {e : Error}
    (h : operand depth ts = .error e) : FailsOperand depth ts e := by
  rw [operand.eq_def] at h
  split at h
  · cases h
    exact .nothing
  · cases h
    exact .deep (.inr rfl)
  · cases h
    exact .deep (.inl rfl)
  · exact .not (error_of_map_error h)
  · next less offset more =>
    split at h
    · next hinner =>
      cases h
      exact .group hinner
    · next inner rest hinner => exact .close hinner h
  · cases h
  · cases h
  · cases h
  · cases h
    exact .token

theorem operand_sound (depth : Nat) :
    Sound Unary.tokens Unary.levels Unary.expr depth (operand depth) := by
  induction depth using Nat.strongRecOn with
  | ind depth ih =>
    intro ts e rest h
    cases operand_cases h with
    | @token _ offset _ token a tokens levels =>
      refine ⟨.atom a, [(token, offset)], rfl, tokens.symm, ?_, rfl⟩
      rw [Unary.levels, levels]
      exact within_zero_cons.mpr (List.forall_mem_nil _)
    | @not less offset more _ inner reads =>
      obtain ⟨u, used, rfl, hu, hw, rfl⟩ := ih less (by omega) _ _ _ reads
      refine ⟨.not u, (.not, offset) :: used, rfl, ?_, ?_, rfl⟩
      · rw [List.map_cons, hu, Unary.tokens]
      · have hpos := u.length_levels ▸ u.tokens_pos
        exact within_zero_cons.mpr ((within_inside hpos).mpr ⟨less, rfl, hw⟩)
    | @group less offset offset' more _ _ reads =>
      obtain ⟨d, used, rfl, hd, hw, rfl⟩ := disjunction_sound (ih less (by omega)) _ _ _ reads
      refine ⟨.atom (.group d), (.opening, offset) :: (used ++ [(.closing, offset')]), by simp,
        ?_, ?_, rfl⟩
      · simp [Unary.tokens, Atom.tokens, hd]
      · have hpos := d.length_levels ▸ d.tokens_pos
        rw [Unary.levels, Atom.levels, within_zero_cons, within_append, within_inside hpos]
        exact ⟨⟨less, rfl, hw⟩, within_zero_cons.mpr (List.forall_mem_nil _)⟩

end Soundness

theorem ofTokens_ok_iff {ts : List Placed} {e : Expr} :
    Expr.ofTokens ts = .ok e ↔ disjunction (operand maxDepth) ts = .ok (e, []) := by
  unfold Expr.ofTokens
  split
  · next h => simp [h]
  · next e' h => simp [h]
  · next e' token offset more h => simp [h]

theorem ofTokens_of_derivation {ts : List Placed} {d : Disjunction}
    (hd : d.tokens = ts.map Prod.fst) (hw : Within maxDepth d.levels) :
    Expr.ofTokens ts = .ok d.expr := by
  have hread := Disjunction.complete [] d hw hd.symm endsDisjunction_nil (Nat.le_refl _)
  rw [List.append_nil] at hread
  exact ofTokens_ok_iff.mpr (disjunction_ok hread)

theorem exists_of_ofTokens {ts : List Placed} {e : Expr} (h : Expr.ofTokens ts = .ok e) :
    ∃ d : Disjunction, d.tokens = ts.map Prod.fst ∧ Within maxDepth d.levels ∧ d.expr = e := by
  obtain ⟨d, used, rfl, hd, hw, he⟩ :=
    disjunction_sound (operand_sound maxDepth) _ _ _ (ofTokens_ok_iff.mp h)
  exact ⟨d, by rw [List.append_nil, hd], hw, he⟩

theorem parse_of_derivation {source : String} {ts : List Placed} {d : Disjunction}
    (h : tokenize source = .ok ts) (hd : d.tokens = ts.map Prod.fst)
    (hw : Within maxDepth d.levels) : parse source = .ok d.expr := by
  rw [parse, h]
  exact ofTokens_of_derivation hd hw

theorem exists_of_parse {source : String} {e : Expr} (h : parse source = .ok e) :
    ∃ ts, tokenize source = .ok ts ∧
      ∃ d : Disjunction, d.tokens = ts.map Prod.fst ∧ Within maxDepth d.levels ∧ d.expr = e := by
  unfold parse at h
  split at h
  · cases h
  · next ts hts => exact ⟨ts, hts, exists_of_ofTokens h⟩

/-- A condition parses exactly if its tokens have a derivation with at most `maxDepth` parentheses
and negations around any of them. It then means what the derivation says, and there is no other. -/
theorem parse_iff_derivation {source : String} {ts : List Placed} (h : tokenize source = .ok ts) :
    (∀ e, parse source = .ok e ↔
      ∃ d : Disjunction, d.tokens = ts.map Prod.fst ∧ Within maxDepth d.levels ∧ d.expr = e) ∧
    ∀ d d' : Disjunction, d.tokens = ts.map Prod.fst → d'.tokens = ts.map Prod.fst → d = d' := by
  have hparse : parse source = Expr.ofTokens ts := by rw [parse, h]
  refine ⟨fun e => ?_, fun d d' hd hd' => tokens_injective (hd.trans hd'.symm)⟩
  rw [hparse, ofTokens_ok_iff]
  constructor
  · intro hread
    obtain ⟨d, used, hts, hd, hw, he⟩ := disjunction_sound (operand_sound maxDepth) _ _ _ hread
    rw [List.append_nil] at hts
    exact ⟨d, by rw [hts, hd], hw, he⟩
  · rintro ⟨d, hd, hw, rfl⟩
    have hread := Disjunction.complete [] d hw hd.symm endsDisjunction_nil
      (Nat.le_refl _)
    rw [List.append_nil] at hread
    exact disjunction_ok hread

/-- A chain of two terms, the second a negated group in which one equals sign compares. -/
theorem parse_chain_with_group :
    tokenize "a or not (b = true)" = .ok [(.name "a", 0), (.or, 2), (.not, 5), (.opening, 9),
      (.name "b", 10), (.compare .eq, 12), (.name "true", 14), (.closing, 18)] ∧
    parse "a or not (b = true)" =
      .ok (.any [.var "a", .not (.compare .eq (.var "b") (.literal (.bool true)))]) := by
  let ts : List Placed := [(.name "a", 0), (.or, 2), (.not, 5), (.opening, 9), (.name "b", 10),
    (.compare .eq, 12), (.name "true", 14), (.closing, 18)]
  have h : tokenize "a or not (b = true)" = .ok ts := by
    have hread : (tokenize "a or not (b = true)").toOption = some ts := by decide +kernel
    cases htokens : tokenize "a or not (b = true)" with
    | error e => simp [htokens, Except.toOption] at hread
    | ok read =>
      rw [htokens] at hread
      rw [Option.some.inj hread]
  let group : Disjunction :=
    .last (.last (.pair (.atom (.name "b")) .eq (.atom (.name "true"))))
  let whole : Disjunction :=
    .more (.last (.single (.atom (.name "a"))))
      (.last (.last (.single (.not (.atom (.group group))))))
  refine ⟨h, ((parse_iff_derivation h).1 _).mpr ⟨whole, rfl, ?_, ?_⟩⟩
  · simp [whole, group, Within, maxDepth, inside, Disjunction.levels, Conjunction.levels,
      Compared.levels, Unary.levels, Atom.levels]
  · rfl

end StoryPress.Condition.Grammar
