import StoryPress.Condition.Grammar
import Mathlib.Data.List.Basic

/-! The grammar is unambiguous: different derivations derive different lists of tokens. What may
follow a derivation matters for this, since a chain goes on as long as its operator comes next. -/
namespace StoryPress.Condition.Grammar

@[simp] theorem length_inside (levels : List Nat) : (inside levels).length = levels.length :=
  List.length_map _

mutual

theorem Atom.length_levels : (a : Atom) → a.levels.length = a.tokens.length
  | .number _ | .text _ | .name _ => rfl
  | .group inner => by simp [Atom.levels, Atom.tokens, inner.length_levels]

theorem Unary.length_levels : (u : Unary) → u.levels.length = u.tokens.length
  | .not inner => by simp [Unary.levels, Unary.tokens, inner.length_levels]
  | .atom only => only.length_levels

theorem Compared.length_levels : (c : Compared) → c.levels.length = c.tokens.length
  | .single only => only.length_levels
  | .pair left _ right => by
    simp [Compared.levels, Compared.tokens, left.length_levels, right.length_levels]

theorem Conjunction.length_levels : (c : Conjunction) → c.levels.length = c.tokens.length
  | .last only => only.length_levels
  | .more first others => by
    simp [Conjunction.levels, Conjunction.tokens, first.length_levels, others.length_levels]

theorem Disjunction.length_levels : (d : Disjunction) → d.levels.length = d.tokens.length
  | .last only => only.length_levels
  | .more first others => by
    simp [Disjunction.levels, Disjunction.tokens, first.length_levels, others.length_levels]

end

mutual

theorem Atom.tokens_pos : (a : Atom) → 0 < a.tokens.length
  | .number _ | .text _ | .name _ => Nat.one_pos
  | .group _ => Nat.succ_pos _

theorem Unary.tokens_pos : (u : Unary) → 0 < u.tokens.length
  | .not _ => Nat.succ_pos _
  | .atom only => only.tokens_pos

end

theorem Compared.tokens_pos (c : Compared) : 0 < c.tokens.length := by
  cases c with
  | single only => exact only.tokens_pos
  | pair left op right =>
    rw [Compared.tokens, List.length_append, List.length_cons]
    omega

theorem Conjunction.tokens_pos (c : Conjunction) : 0 < c.tokens.length := by
  cases c with
  | last only => exact only.tokens_pos
  | more first others =>
    rw [Conjunction.tokens, List.length_append, List.length_cons]
    omega

theorem Disjunction.tokens_pos (d : Disjunction) : 0 < d.tokens.length := by
  cases d with
  | last only => exact only.tokens_pos
  | more first others =>
    rw [Disjunction.tokens, List.length_append, List.length_cons]
    omega

theorem within_append {depth : Nat} {xs ys : List Nat} :
    Within depth (xs ++ ys) ↔ Within depth xs ∧ Within depth ys := List.forall_mem_append

theorem within_zero_cons {depth : Nat} {levels : List Nat} :
    Within depth (0 :: levels) ↔ Within depth levels := by
  simp [Within]

/-- Parentheses and negations use up one level of what is left. -/
theorem within_inside {depth : Nat} {levels : List Nat} (h : 0 < levels.length) :
    Within depth (inside levels) ↔ ∃ less, depth = less + 1 ∧ Within less levels := by
  obtain ⟨first, hfirst⟩ := List.exists_mem_of_length_pos h
  constructor
  · intro hw
    have hall : ∀ n ∈ levels, n + 1 ≤ depth := fun n hn => hw (n + 1) (List.mem_map_of_mem hn)
    have := hall first hfirst
    refine ⟨depth - 1, by omega, fun n hn => ?_⟩
    have := hall n hn
    omega
  · rintro ⟨less, rfl, hw⟩ n hn
    obtain ⟨m, hm, rfl⟩ := List.mem_map.mp hn
    have := hw m hm
    omega

/-- No comparison goes on. -/
def EndsCompared (rest : List Token) : Prop := ∀ op, rest.head? ≠ some (.compare op)

/-- No chain of `and` goes on. -/
def EndsConjunction (rest : List Token) : Prop := rest.head? ≠ some .and ∧ EndsCompared rest

/-- No chain of `or` goes on. -/
def EndsDisjunction (rest : List Token) : Prop := rest.head? ≠ some .or ∧ EndsConjunction rest

theorem endsCompared_and (rest : List Token) : EndsCompared (.and :: rest) := by
  simp [EndsCompared]

theorem endsConjunction_or (rest : List Token) : EndsConjunction (.or :: rest) := by
  simp [EndsConjunction, EndsCompared]

theorem endsDisjunction_closing (rest : List Token) : EndsDisjunction (.closing :: rest) := by
  simp [EndsDisjunction, EndsConjunction, EndsCompared]

theorem endsDisjunction_nil : EndsDisjunction [] := by
  simp [EndsDisjunction, EndsConjunction, EndsCompared]

mutual

theorem Atom.unique {r s : List Token} :
    (a b : Atom) → a.tokens ++ r = b.tokens ++ s → a = b ∧ r = s
  | .group x, .group y, h => by
    simp only [Atom.tokens, List.cons_append, List.append_assoc, List.nil_append,
      List.cons.injEq, true_and] at h
    obtain ⟨rfl, hrest⟩ := Disjunction.unique x y h (endsDisjunction_closing r)
      (endsDisjunction_closing s)
    exact ⟨rfl, by simpa using hrest⟩
  | .number _, b, h | .text _, b, h | .name _, b, h => by
    cases b <;> simp_all [Atom.tokens]
  | .group x, .number _, h | .group x, .text _, h | .group x, .name _, h => by
    simp [Atom.tokens] at h

theorem Unary.unique {r s : List Token} :
    (u v : Unary) → u.tokens ++ r = v.tokens ++ s → u = v ∧ r = s
  | .not x, .not y, h => by
    simp only [Unary.tokens, List.cons_append, List.cons.injEq, true_and] at h
    obtain ⟨rfl, hrest⟩ := Unary.unique x y h
    exact ⟨rfl, hrest⟩
  | .atom a, .atom b, h => by
    obtain ⟨rfl, hrest⟩ := Atom.unique a b h
    exact ⟨rfl, hrest⟩
  | .not x, .atom b, h => by
    cases b <;> simp [Unary.tokens, Atom.tokens] at h
  | .atom a, .not y, h => by
    cases a <;> simp [Unary.tokens, Atom.tokens] at h

theorem Compared.unique {r s : List Token} :
    (c d : Compared) → c.tokens ++ r = d.tokens ++ s → EndsCompared r → EndsCompared s →
      c = d ∧ r = s
  | .single u, .single v, h, _, _ => by
    obtain ⟨rfl, hrest⟩ := Unary.unique u v h
    exact ⟨rfl, hrest⟩
  | .single u, .pair left op right, h, hr, _ => by
    rw [Compared.tokens, Compared.tokens, List.append_assoc] at h
    obtain ⟨-, rfl⟩ := Unary.unique u left h
    exact absurd rfl (hr op)
  | .pair left op right, .single v, h, _, hs => by
    rw [Compared.tokens, Compared.tokens, List.append_assoc] at h
    obtain ⟨-, hrest⟩ := Unary.unique left v h
    exact absurd (by rw [← hrest]; rfl) (hs op)
  | .pair left op right, .pair left' op' right', h, _, _ => by
    rw [Compared.tokens, Compared.tokens, List.append_assoc, List.append_assoc] at h
    obtain ⟨rfl, htail⟩ := Unary.unique left left' h
    obtain ⟨hop, hright⟩ := List.cons.inj htail
    cases hop
    obtain ⟨rfl, hrest⟩ := Unary.unique right right' hright
    exact ⟨rfl, hrest⟩

theorem Conjunction.unique {r s : List Token} :
    (c d : Conjunction) → c.tokens ++ r = d.tokens ++ s → EndsConjunction r → EndsConjunction s →
      c = d ∧ r = s
  | .last x, .last y, h, hr, hs => by
    obtain ⟨rfl, hrest⟩ := Compared.unique x y h hr.2 hs.2
    exact ⟨rfl, hrest⟩
  | .last x, .more y others, h, hr, _ => by
    rw [Conjunction.tokens, Conjunction.tokens, List.append_assoc] at h
    obtain ⟨-, rfl⟩ := Compared.unique x y h hr.2 (endsCompared_and _)
    exact absurd rfl hr.1
  | .more x others, .last y, h, _, hs => by
    rw [Conjunction.tokens, Conjunction.tokens, List.append_assoc] at h
    obtain ⟨-, hrest⟩ := Compared.unique x y h (endsCompared_and _) hs.2
    exact absurd (by rw [← hrest]; rfl) hs.1
  | .more x others, .more y others', h, hr, hs => by
    rw [Conjunction.tokens, Conjunction.tokens, List.append_assoc, List.append_assoc] at h
    obtain ⟨rfl, hothers⟩ := Compared.unique x y h (endsCompared_and _) (endsCompared_and _)
    obtain ⟨rfl, hrest⟩ := Conjunction.unique others others' (List.cons.inj hothers).2 hr hs
    exact ⟨rfl, hrest⟩

theorem Disjunction.unique {r s : List Token} :
    (c d : Disjunction) → c.tokens ++ r = d.tokens ++ s → EndsDisjunction r → EndsDisjunction s →
      c = d ∧ r = s
  | .last x, .last y, h, hr, hs => by
    obtain ⟨rfl, hrest⟩ := Conjunction.unique x y h hr.2 hs.2
    exact ⟨rfl, hrest⟩
  | .last x, .more y others, h, hr, _ => by
    rw [Disjunction.tokens, Disjunction.tokens, List.append_assoc] at h
    obtain ⟨-, rfl⟩ := Conjunction.unique x y h hr.2 (endsConjunction_or _)
    exact absurd rfl hr.1
  | .more x others, .last y, h, _, hs => by
    rw [Disjunction.tokens, Disjunction.tokens, List.append_assoc] at h
    obtain ⟨-, hrest⟩ := Conjunction.unique x y h (endsConjunction_or _) hs.2
    exact absurd (by rw [← hrest]; rfl) hs.1
  | .more x others, .more y others', h, hr, hs => by
    rw [Disjunction.tokens, Disjunction.tokens, List.append_assoc, List.append_assoc] at h
    obtain ⟨rfl, hothers⟩ := Conjunction.unique x y h (endsConjunction_or _) (endsConjunction_or _)
    obtain ⟨rfl, hrest⟩ := Disjunction.unique others others' (List.cons.inj hothers).2 hr hs
    exact ⟨rfl, hrest⟩

end

/-- Different derivations derive different lists of tokens. -/
theorem tokens_injective {d e : Disjunction} (h : d.tokens = e.tokens) : d = e :=
  (Disjunction.unique d e (congrArg (· ++ []) h) endsDisjunction_nil endsDisjunction_nil).1

end StoryPress.Condition.Grammar
