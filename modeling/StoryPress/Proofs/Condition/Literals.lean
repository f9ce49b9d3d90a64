import StoryPress.Condition.Literal
import StoryPress.Proofs.Condition.Comparison
import StoryPress.Proofs.Condition.Composition

namespace StoryPress.Condition

open StoryPress.Json (Value)
open StoryPress.Number (Double)

namespace Literal

variable {c : Char} {rest : List Char}

theorem isNumberRest_of_isDigit (h : c.isDigit = true) : Token.isNumberRest c = true := by
  rw [Token.isNumberRest, h, Bool.true_or]

theorem ne_of_isDigit (h : c.isDigit = true) : c ∉ ['(', ')', '"', '\'', '-', '.'] := by
  intro hmem
  have hall : ['(', ')', '"', '\'', '-', '.'].any Char.isDigit = false := by decide
  exact List.any_eq_false.mp hall c hmem h

theorem isAsciiBlank_of_isDigit (h : c.isDigit = true) : Text.isAsciiBlank c = false := by
  rw [Bool.eq_false_iff]
  intro hblank
  have hletter := Text.isAlphanum_of_isBlank (Text.isBlank_of_isAsciiBlank hblank)
  rw [Char.isAlphanum, h, Bool.or_true] at hletter
  cases hletter

variable (l : Literal)

theorem isNumberRest_tail : ∀ c ∈ l.tail, Token.isNumberRest c = true := by
  intro c hc
  rw [tail] at hc
  split at hc
  · cases hc
  · next digits hfraction =>
    rcases List.mem_cons.mp hc with rfl | hc
    · decide
    · exact isNumberRest_of_isDigit (l.isDigit_fraction digits hfraction c hc)

theorem not_isDigit_tail : ∀ c ∈ l.tail.head?, c.isDigit = false := by
  intro c hc
  rw [tail] at hc
  split at hc
  · cases hc
  · cases hc
    decide

theorem drop_tail : l.tail.drop 1 = l.places := by
  rw [tail, places]
  cases l.fraction <;> rfl

theorem takeWhile_whole : (l.whole ++ l.tail).takeWhile Char.isDigit = l.whole := by
  rw [Token.takeWhile_append_of_head l.whole l.not_isDigit_tail, List.takeWhile_eq_self_iff]
  exact l.isDigit_whole

theorem dropWhile_whole : (l.whole ++ l.tail).dropWhile Char.isDigit = l.tail := by
  have hsplit := List.takeWhile_append_dropWhile (p := Char.isDigit) (l := l.whole ++ l.tail)
  rw [takeWhile_whole] at hsplit
  exact List.append_cancel_left hsplit

theorem all_places : l.places.all Char.isDigit = true := by
  rw [List.all_eq_true, places]
  cases hfraction : l.fraction with
  | none => simp
  | some digits => exact l.isDigit_fraction digits hfraction

theorem exists_cons : ∃ c rest, l.whole = c :: rest ∧ c.isDigit = true := by
  obtain ⟨c, rest, hwhole⟩ := List.exists_cons_of_ne_nil l.whole_ne_nil
  exact ⟨c, rest, hwhole, l.isDigit_whole c (hwhole ▸ List.mem_cons_self)⟩

end Literal

namespace Token

/-- A numeral whose sign is read already. -/
def unsigned? (negative : Bool) (digits : List Char) : Option Numeral :=
  let whole := digits.takeWhile Char.isDigit
  let fraction := (digits.dropWhile Char.isDigit).drop 1
  if fraction.all Char.isDigit then
    match Double.ofDigits? negative (digitValues whole) (digitValues fraction) with
    | some d => some (.finite d)
    | none => some (.infinite negative)
  else none

/-- Whether a minus comes first, and what follows it. -/
def signed (cs : List Char) : Bool × List Char :=
  match cs with
  | '-' :: rest => (true, rest)
  | _ => (false, cs)

theorem numeral?_of_signed {cs digits : List Char} {negative : Bool}
    (h : signed cs = (negative, digits)) : numeral? cs = unsigned? negative digits := by
  delta numeral? unsigned?
  split
  next found rest hsign =>
    have hsame : (found, rest) = (negative, digits) := hsign.symm.trans h
    obtain ⟨rfl, rfl⟩ := Prod.mk.inj hsame
    exact Eq.refl _

theorem signed_of_ne {c : Char} (h : c ≠ '-') (cs : List Char) :
    signed (c :: cs) = (false, c :: cs) := by
  rw [signed]
  rintro rest heq
  exact absurd (List.cons.inj heq).1 h

theorem ofWord_ne_number (word : List Char) (n : Numeral) : ofWord word ≠ .number n := by
  rw [ofWord]
  split_ifs <;> simp

theorem operator?_ne_number {c : Char} {rest : List Char} {n : Numeral} {count : Nat} :
    operator? c rest ≠ some (.number n, count) := by
  intro h
  rw [operator?.eq_def] at h
  split at h <;> cases h

/-- Number tokens start and go on like numbers, and can be read as such. -/
theorem lexeme_eq_number_iff {offset count : Nat} {c : Char} {rest : List Char} {n : Numeral} :
    lexeme offset c rest = .ok (.number n, count) ↔
      startsNumber c rest = true ∧ numeral? (c :: rest.takeWhile isNumberRest) = some n ∧
        count = (rest.takeWhile isNumberRest).length := by
  constructor
  · intro h
    simp only [lexeme] at h
    split_ifs at h with hopening hclosing hquote hinside hnumber hname
    · cases h
    · cases h
    · cases h
    · split at h
      · next found hn =>
        cases h
        exact ⟨hnumber, hn, rfl⟩
      · cases h
    · have hpair := Prod.mk.inj (Except.ok.inj h)
      exact absurd hpair.1 (ofWord_ne_number _ n)
    · split at h
      · next found hoperator =>
        cases h
        exact absurd hoperator operator?_ne_number
      · cases h
  · rintro ⟨hstart, hn, rfl⟩
    rw [lexeme_number hstart, hn, Option.elim_some]

end Token

namespace Literal

theorem signed_eq (l : Literal) :
    Token.signed (l.sign ++ l.whole ++ l.tail) = (l.negative, l.whole ++ l.tail) := by
  rw [sign]
  cases l.negative with
  | true => rfl
  | false =>
    obtain ⟨c, rest, hwhole, hdigit⟩ := l.exists_cons
    have hminus : c ≠ '-' := fun h => ne_of_isDigit hdigit (by simp [h])
    rw [hwhole]
    exact Token.signed_of_ne hminus _

theorem numeral?_eq (l : Literal) :
    Token.numeral? (l.sign ++ l.whole ++ l.tail) = some l.numeral := by
  rw [Token.numeral?_of_signed l.signed_eq, Token.unsigned?, takeWhile_whole,
    dropWhile_whole, drop_tail, if_pos l.all_places, ofDigits?_eq, numeral]
  by_cases h : l.IsBeyond
  · rw [if_pos h, if_pos h]
  · rw [if_neg h, if_neg h]

/-- A literal is one token. -/
theorem exists_lexeme (l : Literal) : ∃ c rest, l.sign ++ l.whole ++ l.tail = c :: rest ∧
    Text.isAsciiBlank c = false ∧
    ∀ offset, Token.lexeme offset c rest = .ok (.number l.numeral, rest.length) := by
  obtain ⟨c, rest, htext, hblank, hstart, hrest⟩ : ∃ c rest,
      l.sign ++ l.whole ++ l.tail = c :: rest ∧ Text.isAsciiBlank c = false ∧
        Token.startsNumber c rest = true ∧ ∀ d ∈ rest, Token.isNumberRest d = true := by
    obtain ⟨c, whole, hwhole, hdigit⟩ := l.exists_cons
    have hdigits : ∀ d ∈ whole ++ l.tail, Token.isNumberRest d = true := by
      intro d hd
      rcases List.mem_append.mp hd with hd | hd
      · exact isNumberRest_of_isDigit (l.isDigit_whole d (hwhole ▸ List.mem_cons_of_mem c hd))
      · exact l.isNumberRest_tail d hd
    rw [sign, hwhole]
    cases l.negative with
    | true =>
      refine ⟨'-', c :: (whole ++ l.tail), rfl, rfl, ?_, ?_⟩
      · simp [Token.startsNumber, hdigit]
      · rw [List.forall_mem_cons]
        exact ⟨isNumberRest_of_isDigit hdigit, hdigits⟩
    | false =>
      refine ⟨c, whole ++ l.tail, rfl, isAsciiBlank_of_isDigit hdigit, ?_, hdigits⟩
      simp [Token.startsNumber, hdigit]
  refine ⟨c, rest, htext, hblank, fun offset => ?_⟩
  have hmore : rest.takeWhile Token.isNumberRest = rest := List.takeWhile_eq_self_iff.mpr hrest
  rw [Token.lexeme_eq_number_iff, hmore, ← htext]
  exact ⟨hstart, l.numeral?_eq, rfl⟩

theorem reads_text (l : Literal) : Reads l.text.toList [.number l.numeral] := by
  obtain ⟨c, rest, htext, hblank, hlexeme⟩ := l.exists_lexeme
  rw [text, String.toList_ofList, htext]
  refine .token hblank hlexeme ?_
  rw [List.drop_length]
  exact .done

/-- Digits and points that are read as a numeral are digits with at most one point. -/
theorem exists_of_unsigned? {negative : Bool} {cs : List Char} {n : Numeral}
    (hcs : ∀ c ∈ cs, Token.isNumberRest c = true) (hstart : ∀ c ∈ cs.head?, c.isDigit = true)
    (hne : cs ≠ []) (h : Token.unsigned? negative cs = some n) :
    ∃ l : Literal, l.negative = negative ∧ l.whole ++ l.tail = cs := by
  have hwhole : cs.takeWhile Char.isDigit ≠ [] := by
    obtain ⟨c, rest, rfl⟩ := List.exists_cons_of_ne_nil hne
    rw [List.takeWhile_cons_of_pos (hstart c rfl)]
    exact List.cons_ne_nil _ _
  have hdigits : ∀ c ∈ cs.takeWhile Char.isDigit, c.isDigit = true := fun c hc =>
    List.mem_takeWhile_imp hc
  have hsplit := List.takeWhile_append_dropWhile (p := Char.isDigit) (l := cs)
  cases htail : cs.dropWhile Char.isDigit with
  | nil =>
    rw [htail] at hsplit
    exact ⟨⟨negative, cs.takeWhile Char.isDigit, none, hwhole, hdigits, nofun⟩, rfl, hsplit⟩
  | cons c rest =>
    have hpoint : c = '.' := by
      have hnot := List.head?_dropWhile_not Char.isDigit cs
      have hmem : c ∈ cs := (List.dropWhile_suffix Char.isDigit).subset (by simp [htail])
      have hgoes := hcs c hmem
      rw [htail] at hnot
      simpa [Token.isNumberRest, show c.isDigit = false from hnot] using hgoes
    have hfraction : ∀ d ∈ rest, d.isDigit = true := by
      rw [Token.unsigned?, htail] at h
      simp only [List.drop_succ_cons, List.drop_zero] at h
      split at h
      · next hall => exact List.all_eq_true.mp hall
      · cases h
    rw [htail, hpoint] at hsplit
    refine ⟨⟨negative, cs.takeWhile Char.isDigit, some rest, hwhole, hdigits, ?_⟩, rfl, hsplit⟩
    rintro digits ⟨⟩
    exact hfraction

theorem startsNumber_cases (h : Token.startsNumber c rest = true) :
    c.isDigit = true ∨ c = '-' ∧ ∃ d more, rest = d :: more ∧ d.isDigit = true := by
  simp only [Token.startsNumber, Bool.or_eq_true, Bool.and_eq_true, beq_iff_eq] at h
  rcases h with hdigit | ⟨hminus, hnext⟩
  · exact .inl hdigit
  · cases rest with
    | nil => cases hnext
    | cons d more => exact .inr ⟨hminus, d, more, rfl, hnext⟩

/-- Every number token is a literal. -/
theorem exists_of_lexeme {offset count : Nat} {n : Numeral}
    (h : Token.lexeme offset c rest = .ok (.number n, count)) :
    ∃ l : Literal, l.text.toList = c :: rest.take count ∧ l.numeral = n := by
  obtain ⟨hstart, hn, rfl⟩ := Token.lexeme_eq_number_iff.mp h
  have htake : rest.take (rest.takeWhile Token.isNumberRest).length =
      rest.takeWhile Token.isNumberRest :=
    (List.prefix_iff_eq_take.mp (List.takeWhile_prefix _)).symm
  have hmore : ∀ d ∈ rest.takeWhile Token.isNumberRest, Token.isNumberRest d = true :=
    fun d hd => List.mem_takeWhile_imp hd
  rw [htake]
  suffices hsource : ∃ l : Literal,
      l.sign ++ l.whole ++ l.tail = c :: rest.takeWhile Token.isNumberRest by
    obtain ⟨l, hl⟩ := hsource
    refine ⟨l, by rw [text, String.toList_ofList, hl], Option.some.inj ?_⟩
    rw [← l.numeral?_eq, hl, hn]
  rcases startsNumber_cases hstart with hdigit | ⟨rfl, d, more, rfl, hdigit⟩
  · have hminus : c ≠ '-' := fun hc => ne_of_isDigit hdigit (by simp [hc])
    rw [Token.numeral?_of_signed (Token.signed_of_ne hminus _)] at hn
    have hall : ∀ d ∈ c :: rest.takeWhile Token.isNumberRest, Token.isNumberRest d = true := by
      rw [List.forall_mem_cons]
      exact ⟨isNumberRest_of_isDigit hdigit, hmore⟩
    obtain ⟨l, hsign, hl⟩ := exists_of_unsigned? hall (by simpa using hdigit) (by simp) hn
    exact ⟨l, by simp [sign, hsign, ← hl]⟩
  · have hsigned : Token.signed ('-' :: (d :: more).takeWhile Token.isNumberRest) =
        (true, (d :: more).takeWhile Token.isNumberRest) := rfl
    rw [Token.numeral?_of_signed hsigned] at hn
    have hfirst : (d :: more).takeWhile Token.isNumberRest =
        d :: more.takeWhile Token.isNumberRest :=
      List.takeWhile_cons_of_pos (isNumberRest_of_isDigit hdigit)
    rw [hfirst] at hn hmore ⊢
    obtain ⟨l, hsign, hl⟩ := exists_of_unsigned? hmore (by simpa using hdigit) (by simp) hn
    exact ⟨l, by simp [sign, hsign, ← hl]⟩

end Literal

open Grammar

/-- Two operands with an operator and blanks between them. -/
def compared (op : Comparison) (s t : String) : String := s ++ " " ++ op.symbol ++ " " ++ t

section

variable {s t : String} {a b : Atom}

theorem reads_symbol (op : Comparison) : Reads op.symbol.toList [.compare op] := by
  cases op <;> exact .token rfl (fun _ => rfl) .done

theorem reads_compared (op : Comparison) (hs : Reads s.toList a.tokens)
    (ht : Reads t.toList b.tokens) :
    Reads (compared op s t).toList (a.tokens ++ .compare op :: b.tokens) := by
  have hright : Reads (' ' :: t.toList) b.tokens := .blank (by decide) ht
  have hlink : Reads (' ' :: (op.symbol.toList ++ ' ' :: t.toList)) (.compare op :: b.tokens) :=
    .blank (by decide) ((reads_symbol op).append hright (Token.separates_cons (by simp)))
  have hwhole := hs.append hlink (Token.separates_cons (by simp))
  simpa [compared] using hwhole

/-- Two operands of one token each are compared by their values. -/
theorem says_compared (op : Comparison) (hs : Reads s.toList a.tokens)
    (ht : Reads t.toList b.tokens) (ha : a.levels = [0]) (hb : b.levels = [0]) :
    Says (compared op s t) fun lookup => op.decide (a.expr.eval lookup) (b.expr.eval lookup) := by
  let whole : Disjunction := .last (.last (.pair (.atom a) op (.atom b)))
  have hwhole : Reads (compared op s t).toList whole.tokens := reads_compared op hs ht
  have hlevels : whole.levels = a.levels ++ 0 :: b.levels := rfl
  have hnests : NestsWithin maxDepth (compared op s t) := by
    rw [nestsWithin_iff hwhole, hlevels, ha, hb]
    simp [Within]
  refine ⟨whole.expr, parse_of_reads hwhole hnests, fun lookup => ?_⟩
  have hexpr : whole.expr = .compare op a.expr b.expr := rfl
  rw [hexpr]
  simp [Expr.isTrue, Expr.eval, Value.isTruthy]

end

namespace Literal

theorem expr_numeral (l : Literal) : (Atom.number l.numeral).expr = .literal l.value := by
  rw [expr_number, numeral, value]
  by_cases h : l.IsBeyond
  · rw [if_pos h, if_pos h]
    rfl
  · rw [if_neg h, if_neg h]
    rfl

theorem says_numbers (op : Comparison) (m n : Literal) :
    Says (compared op m.text n.text) fun _ => op.decide m.value n.value := by
  have hmeans := says_compared (a := .number m.numeral) (b := .number n.numeral) op m.reads_text
    n.reads_text rfl rfl
  simpa only [expr_numeral, Expr.eval] using hmeans

theorem says_null (m : Literal) :
    Says (compared .eq m.text "null") fun _ => Comparison.eq.decide m.value .null := by
  have hnull : Reads "null".toList (Atom.name "null").tokens :=
    .token rfl (fun _ => rfl) .done
  have hmeans := says_compared (a := .number m.numeral) .eq m.reads_text hnull rfl rfl
  have hexpr : (Atom.name "null").expr = .literal .null := rfl
  simpa only [expr_numeral, hexpr, Expr.eval] using hmeans

variable {l m n : Literal}

theorem value_cases (l : Literal) :
    (l.IsBeyond ∧ l.value = .null) ∨ (¬ l.IsBeyond ∧ ∃ d, l.value = .number (.real d)) := by
  by_cases h : l.IsBeyond
  · exact .inl ⟨h, if_pos h⟩
  · exact .inr ⟨h, l.double, if_neg h⟩

theorem equal_null_iff : Comparison.eq.decide m.value .null = true ↔ m.IsBeyond := by
  rw [Comparison.equal_iff]
  rcases m.value_cases with ⟨hm, hvalue⟩ | ⟨hm, d, hvalue⟩
  · rw [hvalue]
    exact iff_of_true rfl hm
  · rw [hvalue]
    exact iff_of_false nofun hm

/-- Two literals have an order if both have a nearest double, and else they are equal only if both
have none. -/
theorem order?_cases (m n : Literal) :
    (¬ m.IsBeyond ∧ ¬ n.IsBeyond ∧ ∃ o, order? m.value n.value = some o) ∨
      ((m.IsBeyond ∨ n.IsBeyond) ∧ order? m.value n.value = none ∧
        (Comparison.eq.decide m.value n.value = true ↔ (m.IsBeyond ↔ n.IsBeyond))) := by
  rcases m.value_cases with ⟨hm, hvalue⟩ | ⟨hm, d, hvalue⟩
  · refine .inr ⟨.inl hm, by rw [hvalue]; rfl, ?_⟩
    rw [hvalue, Comparison.equal_comm, equal_null_iff, iff_true_left hm]
  · rcases n.value_cases with ⟨hn, hvalue'⟩ | ⟨hn, d', hvalue'⟩
    · refine .inr ⟨.inr hn, by rw [hvalue, hvalue']; rfl, ?_⟩
      rw [hvalue', equal_null_iff, iff_true_right hn]
    · rw [hvalue, hvalue']
      exact .inl ⟨hm, hn, order?_of_ordered (.numbers _ _)⟩

/-- The number tokens are the literals. Of two literals exactly one is less than, equal to or greater
than the other if both have a nearest double or both have none, `<=` is then the negation of `>` only
if both have one, and a literal is equal to null exactly if it has none. -/
theorem compared_as_numbers_iff (m n : Literal) :
    (∀ offset c rest count found, Token.lexeme offset c rest = .ok (.number found, count) →
      ∃ l : Literal, l.text.toList = c :: rest.take count ∧ l.numeral = found) ∧
    ∃ (holds : Comparison → Bool) (isNull : Bool),
      (∀ op, Says (compared op m.text n.text) fun _ => holds op) ∧
      (Says (compared .eq m.text "null") fun _ => isNull) ∧
      ([holds .lt, holds .eq, holds .gt].count true = 1 ↔ (m.IsBeyond ↔ n.IsBeyond)) ∧
      ((holds .le = !holds .gt) ↔ ¬ m.IsBeyond ∧ ¬ n.IsBeyond) ∧
      (isNull = true ↔ m.IsBeyond) := by
  refine ⟨fun offset c rest count found => exists_of_lexeme, ?_⟩
  refine ⟨fun op => op.decide m.value n.value, Comparison.eq.decide m.value .null,
    fun op => says_numbers op m n, says_null m, ?one, ?negated, equal_null_iff⟩
  case one =>
    dsimp only
    rcases order?_cases m n with ⟨hm, hn, o, ho⟩ | ⟨-, hnone, heq⟩
    · simp only [Comparison.decide_of_some ho]
      have hone : [Comparison.lt.holds o, Comparison.eq.holds o, Comparison.gt.holds o].count true
          = 1 := by cases o <;> rfl
      exact iff_of_true hone (iff_of_false hm hn)
    · rw [Comparison.decide_of_none hnone (show .lt ∈ Comparison.orderings by decide),
        Comparison.decide_of_none hnone (show .gt ∈ Comparison.orderings by decide), ← heq]
      cases Comparison.eq.decide m.value n.value <;> decide
  case negated =>
    dsimp only
    rcases order?_cases m n with ⟨hm, hn, o, ho⟩ | ⟨hbeyond, hnone, -⟩
    · simp only [Comparison.decide_of_some ho]
      have hnegated : Comparison.le.holds o = !Comparison.gt.holds o := by cases o <;> rfl
      exact iff_of_true hnegated ⟨hm, hn⟩
    · rw [Comparison.decide_of_none hnone (show .le ∈ Comparison.orderings by decide),
        Comparison.decide_of_none hnone (show .gt ∈ Comparison.orderings by decide)]
      exact iff_of_false (by decide) fun h => hbeyond.elim h.1 h.2

/-- A one with zeros after it. -/
def powerOfTen (zeros : Nat) : Literal where
  negative := false
  whole := '1' :: List.replicate zeros '0'
  fraction := none
  whole_ne_nil := List.cons_ne_nil _ _
  isDigit_whole := by
    rw [List.forall_mem_cons]
    refine ⟨rfl, fun c hc => ?_⟩
    rw [List.eq_of_mem_replicate hc]
    rfl
  isDigit_fraction := nofun

/-- The last power of ten that has a nearest double, and a literal that a lexeme holds. -/
theorem power_of_ten_compared :
    let one := powerOfTen 0
    let great := powerOfTen 308
    (∃ l : Literal, l.text.toList = ['-', '2', '.'] ∧
      l.numeral = .finite ⟨true, Double.one <<< 1⟩) ∧
    (¬ one.IsBeyond ∧ ¬ great.IsBeyond) ∧
    (∃ holds : Comparison → Bool,
      (∀ op, Says (compared op one.text great.text) fun _ => holds op) ∧
      [holds .lt, holds .eq, holds .gt].count true = 1 ∧ holds .le = !holds .gt) ∧
    Says (compared .eq great.text "null") fun _ => false := by
  intro one great
  have hlexeme : Token.lexeme 0 '-' ['2', '.', ')'] =
      .ok (.number (.finite ⟨true, Double.one <<< 1⟩), 2) := by decide +kernel
  have hone : ¬ one.IsBeyond := by decide +kernel
  have hgreat : ¬ great.IsBeyond := by decide +kernel
  obtain ⟨htokens, holds, -, hmeans, -, hexactly, hnegated, -⟩ := compared_as_numbers_iff one great
  obtain ⟨-, -, isNull, -, hnull, -, -, hiff⟩ := compared_as_numbers_iff great great
  have hnotNull : isNull = false := Bool.eq_false_iff.mpr fun h => hgreat (hiff.mp h)
  rw [hnotNull] at hnull
  exact ⟨htokens 0 '-' ['2', '.', ')'] 2 _ hlexeme, ⟨hone, hgreat⟩,
    ⟨holds, hmeans, hexactly.mpr (iff_of_false hone hgreat), hnegated.mpr ⟨hone, hgreat⟩⟩, hnull⟩

/-- A literal of 310 digits is neither greater than one nor less nor equal, since it is null. -/
theorem great_literal_is_null :
    let one := powerOfTen 0
    let beyond := powerOfTen 309
    Says (compared .lt one.text beyond.text) (fun _ => false) ∧
      Says (compared .eq one.text beyond.text) (fun _ => false) ∧
      Says (compared .gt one.text beyond.text) (fun _ => false) ∧
      Says (compared .le one.text beyond.text) (fun _ => false) ∧
      Says (compared .eq beyond.text "null") fun _ => true := by
  intro one beyond
  have hone : one.value = .number (.real one.double) := if_neg (by decide +kernel)
  have hbeyond : beyond.value = .null := if_pos (by decide +kernel)
  have hmeans (op : Comparison) := says_numbers op one beyond
  have hnull := says_null beyond
  rw [hbeyond] at hnull
  simp only [hone, hbeyond] at hmeans
  exact ⟨hmeans .lt, hmeans .eq, hmeans .gt, hmeans .le, hnull⟩

end Literal

end StoryPress.Condition
