import StoryPress.Proofs.Condition.Parser
import StoryPress.Proofs.Text.Blank

namespace StoryPress.Condition

open StoryPress.Text (AllBlank isAsciiBlank isBlank trimChars)

namespace Token

theorem isNumberRest_of_not_isNameRest {c : Char} (h : isNameRest c = false) :
    isNumberRest c = false := by
  simp only [isNameRest, Bool.or_eq_false_iff] at h
  obtain ⟨⟨⟨hletter, -⟩, -⟩, hpoint⟩ := h
  have hcases : (c.isAlpha || c.isDigit) = false := hletter
  rw [isNumberRest, (Bool.or_eq_false_iff.mp hcases).2, hpoint]
  rfl

/-- No name, number or operator goes on with the first of these characters. -/
def Separates (cs : List Char) : Prop :=
  ∀ c ∈ cs.head?, isNameRest c = false ∧ c ≠ '=' ∧ c ≠ '&' ∧ c ≠ '|'

variable {c : Char} {rest more : List Char}

theorem takeWhile_append_of_head {p : Char → Bool} (xs : List Char) {ys : List Char}
    (h : ∀ c ∈ ys.head?, p c = false) : (xs ++ ys).takeWhile p = xs.takeWhile p := by
  induction xs with
  | nil =>
    cases ys with
    | nil => rfl
    | cons y ys =>
      have hy : p y = false := h y rfl
      rw [List.nil_append, List.takeWhile_cons_of_neg (by simp [hy]), List.takeWhile_nil]
  | cons x xs ih => rw [List.cons_append, List.takeWhile_cons, List.takeWhile_cons, ih]

theorem takeWhile_isNameRest_append (h : Separates more) :
    (rest ++ more).takeWhile isNameRest = rest.takeWhile isNameRest :=
  takeWhile_append_of_head rest fun c hc => (h c hc).1

theorem Separates.ends_number (h : Separates more) : ∀ d ∈ more.head?, isNumberRest d = false :=
  fun d hd => isNumberRest_of_not_isNameRest (h d hd).1

theorem startsNumber_append (h : ∀ d ∈ more.head?, isNumberRest d = false) :
    startsNumber c (rest ++ more) = startsNumber c rest := by
  cases rest with
  | cons d rest => rfl
  | nil =>
    cases more with
    | nil => rfl
    | cons d more =>
      have hdigit : d.isDigit = false := (Bool.or_eq_false_iff.mp (h d rfl)).1
      simp [startsNumber, hdigit]

theorem operator?_append (h : Separates more) :
    operator? c (rest ++ more) = operator? c rest := by
  cases rest with
  | cons d rest =>
    rw [List.cons_append, operator?.eq_def, operator?.eq_def]
    split <;> simp_all
  | nil =>
    cases more with
    | nil => rfl
    | cons d more =>
      obtain ⟨-, heq, hand, hor⟩ := h d rfl
      rw [List.nil_append, operator?.eq_def, operator?.eq_def]
      split <;> simp_all

theorem operator?_length_le {found : Token × Nat} (h : operator? c rest = some found) :
    found.2 ≤ rest.length := by
  rw [operator?.eq_def] at h
  split at h <;> cases h <;> simp

theorem takeWhile_ne_length_lt_iff {cs : List Char} :
    (cs.takeWhile (· != c)).length < cs.length ↔ c ∈ cs := by
  induction cs with
  | nil => simp
  | cons d cs ih =>
    by_cases hd : d = c
    · simp [hd]
    · simp [hd, Ne.symm hd, ih]

theorem not_special_of_startsNumber (h : startsNumber c rest = true) :
    c ∉ ['(', ')', '"', '\''] := by
  intro hmem
  have hnone : ['(', ')', '"', '\''].any (fun d => startsNumber d rest) = false := rfl
  exact List.any_eq_false.mp hnone c hmem h

theorem ascii_of_isNameStart (h : isNameStart c = true) : c.toNat < 128 := by
  rw [isNameStart, Bool.or_eq_true, Bool.or_eq_true, beq_iff_eq, beq_iff_eq] at h
  rcases h with (halpha | rfl) | rfl
  · exact Text.toNat_lt_of_isAlpha halpha
  · decide
  · decide

theorem not_special_of_isNameStart (h : isNameStart c = true) (rest : List Char) :
    c ∉ ['(', ')', '"', '\''] ∧ startsNumber c rest = false := by
  have hpoints : ∀ n < 128, isNameStart (Char.ofNat n) = true →
      (Char.ofNat n).isDigit = false ∧ Char.ofNat n ∉ ['(', ')', '"', '\'', '-'] := by decide
  have hother := hpoints c.toNat (ascii_of_isNameStart h)
  rw [Char.ofNat_toNat] at hother
  obtain ⟨hdigit, hne⟩ := hother h
  simp only [List.mem_cons, List.not_mem_nil, or_false, not_or] at hne
  simp [startsNumber, hdigit, hne]

variable {offset : Nat}

theorem lexeme_text (h : c = '"' ∨ c = '\'') : lexeme offset c rest =
    if c ∈ rest then
      .ok (.text (String.ofList (rest.takeWhile (· != c))), (rest.takeWhile (· != c)).length + 1)
    else .error (.unterminatedText offset) := by
  have hopening : (c == '(') = false := by rcases h with rfl | rfl <;> decide
  have hclosing : (c == ')') = false := by rcases h with rfl | rfl <;> decide
  have htext : (c == '"' || c == '\'') = true := by simpa using h
  simp only [lexeme, hopening, hclosing, htext, Bool.false_eq_true, if_false, if_true,
    takeWhile_ne_length_lt_iff]

theorem lexeme_number (h : startsNumber c rest = true) : lexeme offset c rest =
    (numeral? (c :: rest.takeWhile isNumberRest)).elim
      (.error (.unexpectedToken (String.ofList (c :: rest.takeWhile isNumberRest)) offset))
      fun n => .ok (.number n, (rest.takeWhile isNumberRest).length) := by
  have hc := not_special_of_startsNumber h
  simp only [List.mem_cons, List.not_mem_nil, or_false, not_or] at hc
  simp only [lexeme, beq_iff_eq, hc, Bool.or_eq_true, or_self, if_false, h, if_true]
  cases numeral? (c :: rest.takeWhile isNumberRest) <;> rfl

theorem lexeme_word (h : isNameStart c = true) : lexeme offset c rest =
    .ok (ofWord (c :: rest.takeWhile isNameRest), (rest.takeWhile isNameRest).length) := by
  obtain ⟨hc, hnumber⟩ := not_special_of_isNameStart h rest
  simp only [List.mem_cons, List.not_mem_nil, or_false, not_or] at hc
  simp [lexeme, hc, hnumber, h]

theorem lexeme_of_other (hc : c ∉ ['(', ')', '"', '\'']) (hnumber : startsNumber c rest = false)
    (hname : isNameStart c = false) : lexeme offset c rest =
      (operator? c rest).elim (.error (.unexpectedToken (String.singleton c) offset)) .ok := by
  simp only [List.mem_cons, List.not_mem_nil, or_false, not_or] at hc
  simp only [lexeme, beq_iff_eq, hc, Bool.or_eq_true, or_self, if_false, hnumber, hname,
    Bool.false_eq_true]
  cases operator? c rest <;> rfl

theorem takeWhile_ne_append (h : c ∈ rest) :
    (rest ++ more).takeWhile (· != c) = rest.takeWhile (· != c) := by
  rw [List.takeWhile_append, if_neg (takeWhile_ne_length_lt_iff.mpr h).ne]

/-- What separates does not change a lexeme before it, unless a text literal gets its closing quote
from there. -/
theorem lexeme_append {offset : Nat} (h : Separates more)
    (hquote : c = '"' ∨ c = '\'' → c ∈ more → c ∈ rest) :
    lexeme offset c (rest ++ more) = lexeme offset c rest := by
  unfold lexeme
  rw [startsNumber_append h.ends_number, operator?_append h, takeWhile_isNameRest_append h,
    takeWhile_append_of_head rest h.ends_number]
  by_cases hq : c = '"' ∨ c = '\''
  · -- A text literal ends at the first such quote, which is in `rest` or nowhere.
    by_cases hin : c ∈ rest
    · have hinside := takeWhile_ne_length_lt_iff.mpr hin
      have hlonger : (rest.takeWhile (· != c)).length < (rest ++ more).length := by
        rw [List.length_append]
        omega
      simp only [takeWhile_ne_append hin, if_pos hinside, if_pos hlonger]
    · have hall : c ∉ rest ++ more := by
        rw [List.mem_append, not_or]
        exact ⟨hin, fun hmore => hin (hquote hq hmore)⟩
      simp only [takeWhile_ne_length_lt_iff, hin, hall, if_false]
  · have hno : (c == '"' || c == '\'') = false := by simpa using hq
    simp only [hno, Bool.false_eq_true, if_false]

theorem lexeme_offset {offset offset' : Nat} {found : Token × Nat}
    (h : lexeme offset c rest = .ok found) : lexeme offset' c rest = .ok found := by
  simp only [lexeme] at h ⊢
  split_ifs at h ⊢
  · exact h
  · exact h
  · exact h
  · cases hn : numeral? (c :: rest.takeWhile isNumberRest) with
    | some n =>
      rw [hn] at h
      exact h
    | none => simp [hn] at h
  · exact h
  · cases ho : operator? c rest with
    | some op =>
      rw [ho] at h
      exact h
    | none => simp [ho] at h

theorem lexeme_length_le {offset count : Nat} {token : Token}
    (h : lexeme offset c rest = .ok (token, count)) : count ≤ rest.length := by
  simp only [lexeme] at h
  split_ifs at h with hopening hclosing hquote hinside hnumber hname
  · cases h
    exact Nat.zero_le _
  · cases h
    exact Nat.zero_le _
  · cases h
    exact hinside
  · split at h
    · cases h
      exact (List.takeWhile_prefix _).length_le
    · cases h
  · cases h
    exact (List.takeWhile_prefix _).length_le
  · split at h
    · next found ho =>
      cases h
      exact operator?_length_le ho
    · cases h

theorem eq_of_operator?_opens {count : Nat} {token : Token}
    (h : operator? c rest = some (token, count)) (htoken : token = .opening ∨ token = .not) :
    c = '!' := by
  rw [operator?.eq_def] at h
  split at h <;> cases h <;> simp_all

/-- Parentheses and negations are written in three ways. -/
theorem exists_word_of_opens {offset count : Nat} {token : Token}
    (h : lexeme offset c rest = .ok (token, count)) (htoken : token = .opening ∨ token = .not) :
    ∃ word ∈ ["(", "!", "not"], word.toList <+: c :: rest := by
  simp only [lexeme] at h
  split_ifs at h with hopening hclosing hquote hinside hnumber hname
  · obtain rfl : c = '(' := by simpa using hopening
    exact ⟨"(", by simp, by simp⟩
  · cases h
    simp at htoken
  · cases h
    simp at htoken
  · split at h
    · cases h
      simp at htoken
    · cases h
  · have hword : c :: rest.takeWhile isNameRest = ['n', 'o', 't'] := by
      by_contra hne
      cases h
      rw [ofWord] at htoken
      split_ifs at htoken <;> simp at htoken
    have hstarts := (List.prefix_cons_inj c).mpr (List.takeWhile_prefix (l := rest) isNameRest)
    rw [hword] at hstarts
    exact ⟨"not", by simp, hstarts⟩
  · split at h
    · next found ho =>
      cases h
      obtain rfl := eq_of_operator?_opens ho htoken
      exact ⟨"!", by simp, by simp⟩
    · cases h

theorem not_mem_of_isBlank {cs : List Char} (h : isBlank c = true) (hcs : cs.any isBlank = false) :
    c ∉ cs := fun hmem => List.any_eq_false.mp hcs c hmem h

theorem isNameRest_of_isBlank (h : isBlank c = true) : isNameRest c = false := by
  have hne : c ∉ ['_', '$', '.'] := not_mem_of_isBlank h (by decide)
  simp only [List.mem_cons, List.not_mem_nil, or_false, not_or] at hne
  simp [isNameRest, Text.isAlphanum_of_isBlank h, hne]

theorem separates_of_allBlank {blanks : List Char} (h : AllBlank blanks) : Separates blanks := by
  intro c hc
  have hblank : isBlank c = true := h c (List.mem_of_mem_head? hc)
  have hne : c ∉ ['=', '&', '|'] := not_mem_of_isBlank hblank (by decide)
  simp only [List.mem_cons, List.not_mem_nil, or_false, not_or] at hne
  exact ⟨isNameRest_of_isBlank hblank, hne⟩

theorem mem_of_operator? {found : Token × Nat} (h : operator? c rest = some found) :
    c ∈ ['=', '!', '<', '>', '&', '|'] := by
  rw [operator?.eq_def] at h
  split at h <;> simp_all

theorem operator?_of_isBlank (h : isBlank c = true) : operator? c rest = none := by
  rw [Option.eq_none_iff_forall_ne_some]
  intro found hfound
  exact not_mem_of_isBlank h (by decide) (mem_of_operator? hfound)

/-- A blank that is not skipped cannot be read. -/
theorem not_lexeme_of_isBlank {offset : Nat} {found : Token × Nat} (h : isBlank c = true) :
    lexeme offset c rest ≠ .ok found := by
  have hne : c ∉ ['(', ')', '"', '\'', '-', '_', '$'] := not_mem_of_isBlank h (by decide)
  simp only [List.mem_cons, List.not_mem_nil, or_false, not_or] at hne
  have hletter : (c.isAlpha || c.isDigit) = false := Text.isAlphanum_of_isBlank h
  rw [Bool.or_eq_false_iff] at hletter
  simp [lexeme, startsNumber, isNameStart, operator?_of_isBlank h, hne, hletter]

end Token

/-- The tokens of a text, without their places. -/
inductive Reads : List Char → List Token → Prop
  | done : Reads [] []
  | blank {c : Char} {rest : List Char} {kinds : List Token} (skipped : isAsciiBlank c = true)
      (reads : Reads rest kinds) : Reads (c :: rest) kinds
  | token {c : Char} {rest : List Char} {kinds : List Token} {token : Token} {count : Nat}
      (kept : isAsciiBlank c = false)
      (lexeme : ∀ offset, Token.lexeme offset c rest = .ok (token, count))
      (reads : Reads (rest.drop count) kinds) : Reads (c :: rest) (token :: kinds)

theorem reads_of_tokens {offset : Nat} {cs : List Char} {ts : List Placed}
    (h : tokens offset cs = .ok ts) : Reads cs (ts.map Prod.fst) := by
  fun_induction tokens offset cs generalizing ts with
  | case1 =>
    cases h
    exact .done
  | case2 _ _ _ hskipped ih => exact .blank hskipped (ih h)
  | case3 => cases h
  | case4 => cases h
  | case5 _ _ _ hkept _ _ hlexeme _ hmore ih =>
    cases h
    exact .token (Bool.eq_false_iff.mpr hkept) (fun _ => Token.lexeme_offset hlexeme) (ih hmore)

theorem Token.bytes_append (xs ys : List Char) : bytes (xs ++ ys) = bytes xs + bytes ys := by
  induction xs with
  | nil => rw [List.nil_append, bytes, Nat.zero_add]
  | cons x xs ih => rw [List.cons_append, bytes, bytes, ih, Nat.add_assoc]

theorem Token.bytes_eq (cs : List Char) : bytes cs = (String.ofList cs).utf8ByteSize := by
  induction cs with
  | nil => rfl
  | cons c cs ih =>
    rw [bytes, ih, String.ofList_cons, String.utf8ByteSize_append, String.utf8ByteSize_singleton]

/-- A token stands where its lexeme starts. -/
theorem exists_of_mem_tokens {offset place : Nat} {cs : List Char} {token : Token}
    {ts : List Placed} (h : tokens offset cs = .ok ts) (hmem : (token, place) ∈ ts) :
    ∃ before c rest count, cs = before ++ c :: rest ∧ place = offset + Token.bytes before ∧
      Token.lexeme place c rest = .ok (token, count) := by
  fun_induction tokens offset cs generalizing ts with
  | case1 =>
    cases h
    cases hmem
  | case2 offset c rest _ ih =>
    obtain ⟨before, d, more, count, rfl, hplace, hlexeme⟩ := ih h hmem
    refine ⟨c :: before, d, more, count, rfl, ?_, hlexeme⟩
    rw [hplace, Token.bytes, Nat.add_assoc]
  | case3 => cases h
  | case4 => cases h
  | case5 offset c rest _ first count hlexeme later _ ih =>
    cases h
    rcases List.mem_cons.mp hmem with heq | hmem
    · cases heq
      exact ⟨[], c, rest, count, rfl, rfl, hlexeme⟩
    · obtain ⟨before, d, more, covered, hdrop, hplace, hlater⟩ := ih ‹_› hmem
      refine ⟨c :: rest.take count ++ before, d, more, covered, ?_, ?_, hlater⟩
      · rw [List.append_assoc, ← hdrop, List.cons_append, List.take_append_drop]
      · rw [hplace, Token.bytes_append, Nat.add_assoc]

theorem Reads.tokens {cs : List Char} {kinds : List Token} (h : Reads cs kinds) (offset : Nat) :
    ∃ ts, tokens offset cs = .ok ts ∧ ts.map Prod.fst = kinds := by
  induction h generalizing offset with
  | done => exact ⟨[], by rw [Condition.tokens.eq_def], rfl⟩
  | @blank c rest kinds skipped reads ih =>
    obtain ⟨ts, hts, hkinds⟩ := ih (offset + c.utf8Size)
    exact ⟨ts, by rw [Condition.tokens, if_pos skipped, hts], hkinds⟩
  | @token c rest kinds token count kept lexeme reads ih =>
    obtain ⟨ts, hts, hkinds⟩ := ih (offset + Token.bytes (c :: rest.take count))
    refine ⟨(token, offset) :: ts, ?_, by rw [List.map_cons, hkinds]⟩
    rw [Condition.tokens, if_neg (by simp [kept]), lexeme offset]
    simp only [hts]

theorem Reads.eq_nil_of_allBlank {blanks : List Char} {kinds : List Token} (h : Reads blanks kinds)
    (hblanks : AllBlank blanks) : kinds = [] := by
  induction h with
  | done => rfl
  | blank _ _ ih => exact ih fun c hc => hblanks c (List.mem_cons_of_mem _ hc)
  | token _ lexeme _ _ =>
    exact absurd (lexeme 0) (Token.not_lexeme_of_isBlank (hblanks _ List.mem_cons_self))

/-- A lexeme that starts before the blanks at the end also ends before them. -/
theorem Reads.of_append_blanks {cs blanks : List Char} {kinds : List Token}
    (h : Reads (cs ++ blanks) kinds) (hblanks : AllBlank blanks) : Reads cs kinds := by
  generalize hinput : cs ++ blanks = input at h
  induction h generalizing cs with
  | done =>
    rw [(List.append_eq_nil_iff.mp hinput).1]
    exact .done
  | @blank c rest kinds skipped reads ih =>
    cases cs with
    | nil =>
      rw [List.nil_append] at hinput
      rw [(Reads.blank skipped reads).eq_nil_of_allBlank (hinput ▸ hblanks)]
      exact .done
    | cons d cs =>
      rw [List.cons_append, List.cons.injEq] at hinput
      obtain ⟨rfl, rfl⟩ := hinput
      exact .blank skipped (ih rfl)
  | @token c rest kinds token count kept lexeme reads ih =>
    cases cs with
    | nil =>
      have hc : isBlank c = true := hblanks c (by rw [← List.nil_append blanks, hinput]; simp)
      exact absurd (lexeme 0) (Token.not_lexeme_of_isBlank hc)
    | cons d cs =>
      rw [List.cons_append, List.cons.injEq] at hinput
      obtain ⟨rfl, rfl⟩ := hinput
      have hquote : d = '"' ∨ d = '\'' → d ∈ blanks → d ∈ cs := by
        rintro (rfl | rfl) hmem <;> exact absurd (hblanks _ hmem) (by decide)
      have hlexeme : ∀ offset, Token.lexeme offset d cs = .ok (token, count) := fun offset => by
        rw [← lexeme offset, Token.lexeme_append (Token.separates_of_allBlank hblanks) hquote]
      refine .token kept hlexeme (ih ?_)
      rw [List.drop_append_of_le_length (Token.lexeme_length_le (hlexeme 0))]

theorem Reads.of_blanks_append {cs blanks : List Char} {kinds : List Token}
    (h : Reads (blanks ++ cs) kinds) (hblanks : AllBlank blanks) : Reads cs kinds := by
  induction blanks with
  | nil => exact h
  | cons b blanks ih =>
    cases h with
    | blank _ reads => exact ih reads fun c hc => hblanks c (List.mem_cons_of_mem _ hc)
    | token _ lexeme _ =>
      exact absurd (lexeme 0) (Token.not_lexeme_of_isBlank (hblanks b List.mem_cons_self))

theorem Reads.trimChars {cs : List Char} {kinds : List Token} (h : Reads cs kinds) :
    Reads (trimChars cs) kinds := by
  obtain ⟨lead, trail, hcs, hlead, htrail⟩ := Text.exists_trim cs
  rw [hcs, List.append_assoc] at h
  exact (h.of_blanks_append hlead).of_append_blanks htrail

theorem Grammar.ofTokens_congr {ts us : List Placed} {e : Expr}
    (h : ts.map Prod.fst = us.map Prod.fst) (hread : Expr.ofTokens ts = .ok e) :
    Expr.ofTokens us = .ok e := by
  obtain ⟨d, hd, hw, rfl⟩ := Grammar.exists_of_ofTokens hread
  exact Grammar.ofTokens_of_derivation (hd.trans h) hw

/-- A condition stays the same when it is trimmed. -/
theorem parse_trim {source : String} {condition : Expr} (h : parse source = .ok condition) :
    parse (Text.trim source) = .ok condition := by
  unfold parse at h
  split at h
  · cases h
  · next ts hts =>
    obtain ⟨us, hus, hkinds⟩ := (reads_of_tokens hts).trimChars.tokens 0
    rw [parse, tokenize, Text.trim, String.toList_ofList, hus]
    exact Grammar.ofTokens_congr hkinds.symm h

/-- A condition has a token, so not all of it is blank. -/
theorem trimChars_ne_nil {source : String} {condition : Expr} (h : parse source = .ok condition) :
    Text.trimChars source.toList ≠ [] := by
  intro hnil
  have htrim := parse_trim h
  rw [Text.trim, hnil, parse, tokenize, String.toList_ofList, tokens] at htrim
  cases htrim

end StoryPress.Condition
