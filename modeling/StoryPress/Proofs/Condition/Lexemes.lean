import StoryPress.Condition.Lexeme
import StoryPress.Proofs.Condition.Literals

namespace StoryPress.Condition

open StoryPress.Text (isAsciiBlank)

namespace Scanner

/-- A longer operator is tried before the shorter one that it starts with. -/
theorem operators_descend :
    operators.Pairwise fun first later => later.1.length ≤ first.1.length := by decide

theorem eq_of_mem_operators : ∀ x ∈ operators, ∀ y ∈ operators, x.1 = y.1 → x = y := by decide

variable {symbol : String} {token : Token} {cs : List Char}

theorem longest_of_find?
    (h : (operators.find? fun op => op.1.toList.isPrefixOf cs) = some (symbol, token)) :
    (symbol, token) ∈ operators ∧ symbol.toList <+: cs ∧
      ∀ other ∈ operators, other.1.toList <+: cs → other.1.length ≤ symbol.length := by
  obtain ⟨hstarts, before, after, hsplit, hbefore⟩ := List.find?_eq_some_iff_append.mp h
  refine ⟨List.mem_of_find?_eq_some h, List.isPrefixOf_iff_prefix.mp hstarts, ?_⟩
  intro other hother hfits
  have hdescend := operators_descend
  rw [hsplit] at hother hdescend
  rcases List.mem_append.mp hother with hmem | hmem
  · have hnot := hbefore other hmem
    rw [List.isPrefixOf_iff_prefix.mpr hfits] at hnot
    cases hnot
  · rcases List.mem_cons.mp hmem with rfl | hmem
    · exact Nat.le_refl _
    · exact (List.pairwise_cons.mp (List.pairwise_append.mp hdescend).2.1).1 other hmem

/-- The first operator that fits is the longest one. -/
theorem find?_eq_some_iff :
    (operators.find? fun op => op.1.toList.isPrefixOf cs) = some (symbol, token) ↔
      (symbol, token) ∈ operators ∧ symbol.toList <+: cs ∧
        ∀ other ∈ operators, other.1.toList <+: cs → other.1.length ≤ symbol.length := by
  refine ⟨longest_of_find?, ?_⟩
  rintro ⟨hlisted, hstarts, hlongest⟩
  cases hfind : operators.find? fun op => op.1.toList.isPrefixOf cs with
  | none =>
    exact absurd (List.isPrefixOf_iff_prefix.mpr hstarts) (List.find?_eq_none.mp hfind _ hlisted)
  | some found =>
    obtain ⟨hfound, hfits, hmost⟩ := longest_of_find? hfind
    have hlength : found.1.length = symbol.length :=
      Nat.le_antisymm (hlongest found hfound hfits) (hmost _ hlisted hstarts)
    have hsame : found.1.toList = symbol.toList :=
      (List.prefix_of_prefix_length_le hfits hstarts hlength.le).eq_of_length hlength
    rw [eq_of_mem_operators found hfound _ hlisted (String.toList_injective hsame)]

theorem not_prefix_of_not_cons {c : Char} {rest : List Char}
    (h : ∀ tail, rest = c :: tail → False) : ¬[c] <+: rest := by
  rintro ⟨tail, htail⟩
  exact h tail htail.symm

/-- The first operator that fits is the one that the first character and the next give. -/
theorem find?_operators (c : Char) (rest : List Char) :
    (operators.find? fun op => op.1.toList.isPrefixOf (c :: rest)) =
      (Token.operator? c rest).map fun found =>
        (String.ofList (c :: rest.take found.2), found.1) := by
  rw [Token.operator?.eq_def]
  split
  iterate 6 rfl
  iterate 4
    next h => simp [operators, not_prefix_of_not_cons h]
  next hlt hgt hnot heq _ _ _ _ hand hor =>
    have hand' : '&' = c → ¬['&'] <+: rest := fun hc =>
      not_prefix_of_not_cons fun tail => hand tail hc.symm
    have hor' : '|' = c → ¬['|'] <+: rest := fun hc =>
      not_prefix_of_not_cons fun tail => hor tail hc.symm
    simpa [operators, Ne.symm hlt, Ne.symm hgt, Ne.symm hnot, Ne.symm heq] using ⟨hand', hor'⟩

end Scanner

namespace Token

variable {c : Char} {rest more after : List Char} {offset count : Nat} {token : Token}

theorem exists_run (p : Char → Bool) (rest : List Char) :
    ∃ more after, rest = more ++ after ∧ rest.takeWhile p = more ∧ (∀ d ∈ more, p d = true) ∧
      ∀ d ∈ after.head?, p d = false := by
  refine ⟨rest.takeWhile p, rest.dropWhile p, List.takeWhile_append_dropWhile.symm, rfl,
    fun d hd => List.mem_takeWhile_imp hd, fun d hd => ?_⟩
  have hnot := List.head?_dropWhile_not p rest
  rw [Option.mem_def.mp hd] at hnot
  exact hnot

theorem takeWhile_run {p : Char → Bool} (all : ∀ d ∈ more, p d = true)
    (ends : ∀ d ∈ after.head?, p d = false) : (more ++ after).takeWhile p = more := by
  rw [takeWhile_append_of_head more ends, List.takeWhile_eq_self_iff.mpr all]

/-- What comes before the first such character. -/
theorem exists_of_mem_rest (h : c ∈ rest) :
    ∃ inside after, rest = inside ++ c :: after ∧ rest.takeWhile (· != c) = inside ∧
      c ∉ inside := by
  obtain ⟨inside, after, hrest, hinside, hall, hends⟩ := exists_run (· != c) rest
  have hnot : c ∉ inside := fun hmem => by simpa using hall c hmem
  cases after with
  | nil =>
    rw [hrest, List.append_nil] at h
    exact absurd h hnot
  | cons d after =>
    have hd : d = c := by simpa using hends d rfl
    exact ⟨inside, after, hd ▸ hrest, hinside, hnot⟩

/-- What a character starts that is no blank. -/
inductive Start (c : Char) (rest : List Char) : Prop
  | opening (same : c = '(')
  | closing (same : c = ')')
  | quote (kind : c = '"' ∨ c = '\'')
  | number (starts : startsNumber c rest = true)
  | name (starts : isNameStart c = true)
  | other (plain : c ∉ ['(', ')', '"', '\'']) (number : startsNumber c rest = false)
      (name : isNameStart c = false)

theorem start_cases (c : Char) (rest : List Char) : Start c rest := by
  by_cases hnumber : startsNumber c rest = true
  · exact .number hnumber
  by_cases hname : isNameStart c = true
  · exact .name hname
  by_cases hplain : c ∈ ['(', ')', '"', '\'']
  · simp only [List.mem_cons, List.not_mem_nil, or_false] at hplain
    rcases hplain with hc | hc | hc
    · exact .opening hc
    · exact .closing hc
    · exact .quote hc
  · exact .other hplain (Bool.eq_false_iff.mpr hnumber) (Bool.eq_false_iff.mpr hname)

theorem isLexeme_of_operator? (h : operator? c rest = some (token, count)) :
    IsLexeme token (c :: rest.take count) (rest.drop count) := by
  have hfind := Scanner.find?_operators c rest
  rw [h] at hfind
  obtain ⟨hlisted, -, hlongest⟩ := Scanner.longest_of_find? hfind
  have hcs : (String.ofList (c :: rest.take count)).toList ++ rest.drop count = c :: rest := by
    rw [String.toList_ofList, List.cons_append, List.take_append_drop]
  have hlexeme := IsLexeme.operator hlisted (hcs ▸ hlongest)
  rwa [String.toList_ofList] at hlexeme

theorem exists_of_lexeme (h : lexeme offset c rest = .ok (token, count)) :
    ∃ more after, rest = more ++ after ∧ count = more.length ∧
      IsLexeme token (c :: more) after := by
  cases start_cases c rest with
  | opening same =>
    subst same
    cases h
    exact ⟨[], rest, rfl, rfl, .opening⟩
  | closing same =>
    subst same
    cases h
    exact ⟨[], rest, rfl, rfl, .closing⟩
  | quote kind =>
    rw [lexeme_text kind] at h
    split_ifs at h with hclosed
    cases h
    obtain ⟨inside, after, rfl, hinside, hfirst⟩ := exists_of_mem_rest hclosed
    rw [hinside]
    refine ⟨inside ++ [c], after, ?_, ?_, .text kind hfirst⟩
    · rw [List.append_assoc, List.singleton_append]
    · rw [List.length_append, List.length_singleton]
  | number starts =>
    obtain ⟨more, after, rfl, hmore, hall, hends⟩ := exists_run isNumberRest rest
    rw [lexeme_number starts, hmore] at h
    rw [startsNumber_append hends] at starts
    cases hn : numeral? (c :: more) with
    | none =>
      rw [hn] at h
      cases h
    | some n =>
      rw [hn] at h
      cases h
      exact ⟨more, after, rfl, rfl, .number starts hall hends hn⟩
  | name starts =>
    obtain ⟨more, after, rfl, hmore, hall, hends⟩ := exists_run isNameRest rest
    rw [lexeme_word starts, hmore] at h
    cases h
    exact ⟨more, after, rfl, rfl, .word starts hall hends⟩
  | other plain number name =>
    rw [lexeme_of_other plain number name] at h
    cases hfound : operator? c rest with
    | none =>
      rw [hfound] at h
      cases h
    | some found =>
      rw [hfound] at h
      cases h
      refine ⟨rest.take count, rest.drop count, (List.take_append_drop count rest).symm, ?_,
        isLexeme_of_operator? hfound⟩
      rw [List.length_take, Nat.min_eq_left (operator?_length_le hfound)]

theorem not_special_of_operator? {found : Token × Nat} (h : operator? c rest = some found) :
    c ∉ ['(', ')', '"', '\''] ∧ startsNumber c rest = false ∧ isNameStart c = false := by
  have hc := mem_of_operator? h
  simp only [List.mem_cons, List.not_mem_nil, or_false] at hc
  rcases hc with rfl | rfl | rfl | rfl | rfl | rfl <;> exact ⟨by decide, rfl, by decide⟩

theorem lexeme_of_operator {symbol : String} (listed : (symbol, token) ∈ Scanner.operators)
    (longest : ∀ other ∈ Scanner.operators, other.1.toList <+: symbol.toList ++ after →
      other.1.length ≤ symbol.length) :
    ∃ c more, symbol.toList = c :: more ∧
      ∀ offset, lexeme offset c (more ++ after) = .ok (token, more.length) := by
  have hnonempty : ∀ op ∈ Scanner.operators, op.1.toList ≠ [] := by decide
  obtain ⟨c, more, hsymbol⟩ := List.exists_cons_of_ne_nil (hnonempty _ listed)
  have hfind := Scanner.find?_eq_some_iff.mpr ⟨listed, List.prefix_append _ after, longest⟩
  rw [hsymbol, List.cons_append, Scanner.find?_operators, Option.map_eq_some_iff] at hfind
  obtain ⟨⟨token', count⟩, hfound, heq⟩ := hfind
  obtain ⟨hchars, rfl⟩ := Prod.mk.inj heq
  have hcount : count = more.length := by
    have htake := congrArg String.toList hchars
    rw [String.toList_ofList, hsymbol, List.cons.injEq] at htake
    rw [← htake.2, List.length_take, Nat.min_eq_left (operator?_length_le hfound)]
  obtain ⟨hplain, hnumber, hname⟩ := not_special_of_operator? hfound
  refine ⟨c, more, hsymbol, fun offset => ?_⟩
  rw [lexeme_of_other hplain hnumber hname, hfound, hcount, Option.elim_some]

end Token

open Token

variable {cs rest : List Char} {offset : Nat} {token : Token} {e : Error}

theorem IsLexeme.exists_lexeme (h : IsLexeme token cs rest) :
    ∃ c more, cs = c :: more ∧
      ∀ offset, lexeme offset c (more ++ rest) = .ok (token, more.length) := by
  cases h with
  | opening => exact ⟨'(', [], rfl, fun _ => rfl⟩
  | closing => exact ⟨')', [], rfl, fun _ => rfl⟩
  | @text quote inside _ kind first =>
    refine ⟨quote, inside ++ [quote], rfl, fun offset => ?_⟩
    have hinside : ∀ d ∈ inside, (d != quote) = true := fun d hd => by
      simpa using fun hsame : d = quote => first (hsame ▸ hd)
    rw [lexeme_text kind, if_pos (by simp), List.append_assoc,
      takeWhile_run hinside (by simp), List.length_append, List.length_singleton]
  | @number c more _ n starts all ends reads =>
    refine ⟨c, more, rfl, fun offset => ?_⟩
    rw [lexeme_number (by rwa [startsNumber_append ends]), takeWhile_run all ends, reads,
      Option.elim_some]
  | @word c more _ starts all ends =>
    refine ⟨c, more, rfl, fun offset => ?_⟩
    rw [lexeme_word starts, takeWhile_run all ends]
  | operator listed longest => exact lexeme_of_operator listed longest

theorem not_startsNumber_of_isAsciiBlank {c : Char} (h : isAsciiBlank c = true) :
    startsNumber c rest = false := by
  simp only [isAsciiBlank, Bool.or_eq_true, beq_iff_eq] at h
  rcases h with (((rfl | rfl) | rfl) | rfl) | rfl <;> rfl

theorem stuck_of_lexeme {c : Char} (kept : isAsciiBlank c = false)
    (h : lexeme offset c rest = .error e) : Stuck offset (c :: rest) e := by
  cases start_cases c rest with
  | opening same =>
    subst same
    cases h
  | closing same =>
    subst same
    cases h
  | quote kind =>
    rw [lexeme_text kind] at h
    split_ifs at h with hclosed
    cases h
    exact .unclosed kind hclosed
  | number starts =>
    obtain ⟨more, after, rfl, hmore, hall, hends⟩ := exists_run isNumberRest rest
    rw [lexeme_number starts, hmore] at h
    rw [startsNumber_append hends] at starts
    cases hn : numeral? (c :: more) with
    | none =>
      rw [hn] at h
      cases h
      exact .number starts hall hends hn
    | some n =>
      rw [hn] at h
      cases h
  | name starts =>
    rw [lexeme_word starts] at h
    cases h
  | other plain number name =>
    rw [lexeme_of_other plain number name] at h
    cases hfound : operator? c rest with
    | some found =>
      rw [hfound] at h
      cases h
    | none =>
      rw [hfound] at h
      cases h
      have hfind := Scanner.find?_operators c rest
      rw [hfound, Option.map_none, List.find?_eq_none] at hfind
      exact .character kept plain number name fun op hop hfits =>
        hfind op hop (List.isPrefixOf_iff_prefix.mpr hfits)

theorem Stuck.exists_lexeme (h : Stuck offset cs e) :
    ∃ c rest, cs = c :: rest ∧ isAsciiBlank c = false ∧ lexeme offset c rest = .error e := by
  cases h with
  | @unclosed quote rest kind unclosed =>
    refine ⟨quote, rest, rfl, by rcases kind with rfl | rfl <;> rfl, ?_⟩
    rw [lexeme_text kind, if_neg unclosed]
  | @number c more rest starts all ends unread =>
    refine ⟨c, more ++ rest, rfl, ?_, ?_⟩
    · rw [Bool.eq_false_iff]
      intro hblank
      rw [not_startsNumber_of_isAsciiBlank hblank] at starts
      cases starts
    · rw [lexeme_number (by rwa [startsNumber_append ends]), takeWhile_run all ends, unread,
        Option.elim_none]
  | @character c rest kept other number name operator =>
    refine ⟨c, rest, rfl, kept, ?_⟩
    have hfind := Scanner.find?_operators c rest
    have hnone : (Scanner.operators.find? fun op => op.1.toList.isPrefixOf (c :: rest)) = none :=
      List.find?_eq_none.mpr fun op hop hfits =>
        operator op hop (List.isPrefixOf_iff_prefix.mp hfits)
    rw [hnone, eq_comm, Option.map_eq_none_iff] at hfind
    rw [lexeme_of_other other number name, hfind, Option.elim_none]

variable {pieces : List Piece} {piece : Piece} {ts : List Placed}

theorem textOf_cons (piece : Piece) (pieces : List Piece) :
    textOf (piece :: pieces) = piece.chars ++ textOf pieces := rfl

theorem tokens_cons_of_lexeme {c : Char} {more : List Char}
    (h : lexeme offset c (more ++ rest) = .ok (token, more.length)) :
    tokens offset (c :: (more ++ rest)) =
      (tokens (offset + bytes (c :: more)) rest).map ((token, offset) :: ·) := by
  have hblank : ¬isAsciiBlank c = true := fun hblank =>
    not_lexeme_of_isBlank (Text.isBlank_of_isAsciiBlank hblank) h
  rw [tokens, if_neg hblank, h]
  simp only [List.take_left, List.drop_left]
  cases tokens (offset + bytes (c :: more)) rest <;> rfl

/-- A scan reads the pieces and goes on with the rest. -/
theorem tokens_of_fitted (h : Fitted pieces rest) (offset : Nat) :
    tokens offset (textOf pieces ++ rest) =
      (tokens (offset + bytes (textOf pieces)) rest).map (placed offset pieces ++ ·) := by
  induction h generalizing offset with
  | @nil rest =>
    have hnothing : (tokens offset rest).map ([] ++ ·) = tokens offset rest := by
      cases tokens offset rest <;> rfl
    exact hnothing.symm
  | @cons piece pieces rest fits _ ih =>
    rw [textOf_cons, List.append_assoc, bytes_append, ← Nat.add_assoc]
    cases piece with
    | blank c =>
      have hblank : isAsciiBlank c = true := fits
      rw [Piece.chars, List.singleton_append, tokens, if_pos hblank, ih]
      rfl
    | lexeme token cs =>
      obtain ⟨c, more, rfl, hlexeme⟩ := IsLexeme.exists_lexeme fits
      rw [Piece.chars, List.cons_append, tokens_cons_of_lexeme (hlexeme offset), ih]
      cases tokens (offset + bytes (c :: more) + bytes (textOf pieces)) rest <;> rfl

theorem Stuck.tokens (h : Stuck offset rest e) : tokens offset rest = .error e := by
  obtain ⟨c, rest, rfl, kept, hlexeme⟩ := h.exists_lexeme
  rw [Condition.tokens, if_neg (Bool.eq_false_iff.mp kept), hlexeme]

/-- A scan skips a blank, stops where it is stuck, or goes on after a lexeme. -/
theorem scan_induction {motive : Nat → List Char → Prop} (nil : ∀ offset, motive offset [])
    (blank : ∀ offset c rest, isAsciiBlank c = true → motive (offset + bytes [c]) rest →
      motive offset (c :: rest))
    (stuck : ∀ offset c rest e, isAsciiBlank c = false → lexeme offset c rest = .error e →
      motive offset (c :: rest))
    (token : ∀ offset c more rest token, isAsciiBlank c = false →
      lexeme offset c (more ++ rest) = .ok (token, more.length) →
      motive (offset + bytes (c :: more)) rest → motive offset (c :: (more ++ rest)))
    (offset : Nat) (cs : List Char) : motive offset cs := by
  match cs with
  | [] => exact nil offset
  | c :: rest =>
    by_cases hblank : isAsciiBlank c = true
    · exact blank offset c rest hblank (scan_induction nil blank stuck token _ rest)
    have kept := Bool.eq_false_iff.mpr hblank
    cases hlexeme : lexeme offset c rest with
    | error e => exact stuck offset c rest e kept hlexeme
    | ok found =>
      obtain ⟨more, after, hrest, hcount, -⟩ := exists_of_lexeme hlexeme
      have hlater := scan_induction nil blank stuck token (offset + bytes (c :: more)) after
      rw [hrest] at hlexeme ⊢
      exact token offset c more after found.1 kept (by rw [hlexeme, ← hcount]) hlater
  termination_by cs.length
  decreasing_by
    · exact Nat.lt_succ_self rest.length
    · have hlength := congrArg List.length hrest
      rw [List.length_append] at hlength
      rw [List.length_cons]
      omega

/-- Every text is pieces to its end, or to a place where it is stuck. -/
theorem exists_fitted (offset : Nat) (cs : List Char) :
    ∃ pieces rest, cs = textOf pieces ++ rest ∧ Fitted pieces rest ∧
      (rest = [] ∨ ∃ e, Stuck (offset + bytes (textOf pieces)) rest e) := by
  induction offset, cs using scan_induction with
  | nil offset => exact ⟨[], [], rfl, .nil, .inl rfl⟩
  | blank offset c rest hblank ih =>
    obtain ⟨pieces, left, rfl, hfitted, hend⟩ := ih
    rw [Nat.add_assoc, ← bytes_append] at hend
    exact ⟨.blank c :: pieces, left, rfl, .cons hblank hfitted, hend⟩
  | stuck offset c rest e kept hlexeme =>
    exact ⟨[], c :: rest, rfl, .nil, .inr ⟨e, stuck_of_lexeme kept hlexeme⟩⟩
  | token offset c more rest token kept hlexeme ih =>
    obtain ⟨pieces, left, rfl, hfitted, hend⟩ := ih
    rw [Nat.add_assoc, ← bytes_append] at hend
    refine ⟨.lexeme token (c :: more) :: pieces, left, ?_, .cons ?_ hfitted, hend⟩
    · rw [textOf_cons, Piece.chars, List.append_assoc, List.cons_append]
    · obtain ⟨run, after, hsplit, hlength, hfits⟩ := exists_of_lexeme hlexeme
      obtain ⟨rfl, rfl⟩ := List.append_inj hsplit hlength
      exact hfits

theorem tokens_eq_ok_iff : tokens offset cs = .ok ts ↔
    ∃ pieces, Fitted pieces [] ∧ textOf pieces = cs ∧ placed offset pieces = ts := by
  have hdone : ∀ offset, tokens offset [] = .ok [] := fun _ => by rw [tokens]
  constructor
  · intro h
    obtain ⟨pieces, rest, rfl, hfitted, rfl | ⟨e, hstuck⟩⟩ := exists_fitted offset cs
    · rw [tokens_of_fitted hfitted, hdone] at h
      cases h
      exact ⟨pieces, hfitted, (List.append_nil _).symm, (List.append_nil _).symm⟩
    · rw [tokens_of_fitted hfitted, hstuck.tokens] at h
      cases h
  · rintro ⟨pieces, hfitted, rfl, rfl⟩
    have hscan := tokens_of_fitted hfitted offset
    rw [List.append_nil, hdone] at hscan
    rw [hscan, Except.map, List.append_nil]

theorem tokens_eq_error_iff : tokens offset cs = .error e ↔
    ∃ pieces rest, Fitted pieces rest ∧ textOf pieces ++ rest = cs ∧
      Stuck (offset + bytes (textOf pieces)) rest e := by
  constructor
  · intro h
    obtain ⟨pieces, rest, rfl, hfitted, rfl | ⟨e', hstuck⟩⟩ := exists_fitted offset cs
    · rw [tokens_of_fitted hfitted, tokens] at h
      cases h
    · rw [tokens_of_fitted hfitted, hstuck.tokens] at h
      cases h
      exact ⟨pieces, rest, hfitted, rfl, hstuck⟩
  · rintro ⟨pieces, rest, hfitted, rfl, hstuck⟩
    rw [tokens_of_fitted hfitted, hstuck.tokens]
    rfl

/-- No piece fits where a text is stuck. -/
theorem Stuck.not_fits (h : Stuck offset (piece.chars ++ rest) e) : ¬piece.Fits rest := by
  intro hfits
  obtain ⟨c, left, hcs, kept, herror⟩ := h.exists_lexeme
  cases piece with
  | blank d =>
    cases hcs
    exact absurd hfits (Bool.eq_false_iff.mp kept)
  | lexeme token cs =>
    obtain ⟨d, more, rfl, hlexeme⟩ := IsLexeme.exists_lexeme hfits
    cases hcs
    cases (hlexeme offset).symm.trans herror

theorem le_of_mem_placed {t : Placed} (h : t ∈ placed offset pieces) : offset ≤ t.2 := by
  induction pieces generalizing offset with
  | nil => cases h
  | cons piece pieces ih =>
    cases piece with
    | blank c => exact (Nat.le_add_right offset _).trans (ih h)
    | lexeme token cs =>
      rcases List.mem_cons.mp h with rfl | h
      · exact Nat.le_refl _
      · exact (Nat.le_add_right offset _).trans (ih h)

/-- Lexemes are not empty, so each token starts after the one before it. -/
theorem placed_increasing (h : Fitted pieces rest) (offset : Nat) :
    ((placed offset pieces).map Prod.snd).Pairwise (· < ·) := by
  induction h generalizing offset with
  | nil => exact .nil
  | @cons piece pieces rest fits _ ih =>
    cases piece with
    | blank c => exact ih _
    | lexeme token cs =>
      obtain ⟨c, more, rfl, -⟩ := IsLexeme.exists_lexeme fits
      rw [placed, List.map_cons, List.pairwise_cons]
      refine ⟨fun place hplace => ?_, ih _⟩
      obtain ⟨t, ht, rfl⟩ := List.mem_map.mp hplace
      have hle := le_of_mem_placed ht
      have hpos := c.utf8Size_pos
      rw [bytes] at hle
      omega

end StoryPress.Condition
