import StoryPress.Proofs.Condition.Lexemes
import StoryPress.Proofs.Condition.Slices

/-! A pass that starts where a character does finds by its bytes what `Token.lexeme` finds by its
characters: every test of a byte is one that only ASCII characters pass, so it passes at the first
byte of a character or nowhere in it. So a pass ends where a character ends, and all its slices
exist. -/
namespace StoryPress.Condition.Scanner

open StoryPress.Text (isAsciiBlank)
open StoryPress.Condition.Token (bytes bytes_append isNameRest isNameStart isNumberRest lexeme
  startsNumber)

theorem isAsciiTest_isDigit : IsAsciiTest Char.isDigit := by
  intro c h
  have hdigit : (decide ('0'.val ≤ c.val) && decide (c.val ≤ '9'.val)) = true := h
  have htoNat : c.toNat = c.val.toNat := rfl
  simp only [Bool.and_eq_true, decide_eq_true_eq] at hdigit
  have hle : c.val.toNat ≤ 57 := UInt32.le_iff_toNat_le.mp hdigit.2
  omega

theorem isAsciiTest_beq {d : Char} (h : d.toNat < 128) : IsAsciiTest (· == d) := by
  intro c hc
  rwa [beq_iff_eq.mp hc]

theorem IsAsciiTest.or {p q : Char → Bool} (hp : IsAsciiTest p) (hq : IsAsciiTest q) :
    IsAsciiTest fun c => p c || q c := by
  intro c h
  rcases Bool.or_eq_true_iff.mp h with h | h
  · exact hp c h
  · exact hq c h

theorem isAsciiTest_isNameStart : IsAsciiTest isNameStart := fun _ h => Token.ascii_of_isNameStart h

theorem isAsciiTest_isNumberRest : IsAsciiTest isNumberRest :=
  isAsciiTest_isDigit.or (isAsciiTest_beq (by decide))

theorem isAsciiTest_isNameRest : IsAsciiTest isNameRest := by
  have hletters : IsAsciiTest Char.isAlphanum := by
    intro c h
    rcases Bool.or_eq_true_iff.mp (show (c.isAlpha || c.isDigit) = true from h) with h | h
    · exact Text.toNat_lt_of_isAlpha h
    · exact isAsciiTest_isDigit c h
  exact ((hletters.or (isAsciiTest_beq (by decide))).or (isAsciiTest_beq (by decide))).or
    (isAsciiTest_beq (by decide))

theorem isAsciiTest_isAsciiBlank : IsAsciiTest isAsciiBlank :=
  ((((isAsciiTest_beq (by decide)).or (isAsciiTest_beq (by decide))).or
    (isAsciiTest_beq (by decide))).or (isAsciiTest_beq (by decide))).or
      (isAsciiTest_beq (by decide))

variable {c : Char} {before rest : List Char} {b : UInt8}

theorem first_byte (h : (utf8 (c :: rest))[0]? = some b) :
    c.toNat < 128 ∧ Char.ofUInt8 b = c ∨ 128 ≤ c.toNat ∧ 128 ≤ (Char.ofUInt8 b).toNat := by
  rw [utf8_cons] at h
  by_cases hascii : c.toNat < 128
  · obtain ⟨b', hb', hc⟩ := utf8EncodeChar_of_ascii hascii
    rw [hb'] at h
    cases h
    exact .inl ⟨hascii, hc⟩
  · obtain ⟨b', more, hb', hbyte⟩ := utf8EncodeChar_of_not_ascii (Nat.not_lt.mp hascii)
    rw [hb'] at h
    cases h
    exact .inr ⟨Nat.not_lt.mp hascii, hbyte⟩

/-- A character passes exactly if its first byte does. -/
theorem IsAsciiTest.first_byte {p : Char → Bool} (hp : IsAsciiTest p)
    (h : (utf8 (c :: rest))[0]? = some b) : p (Char.ofUInt8 b) = p c := by
  rcases Scanner.first_byte h with ⟨-, hc⟩ | ⟨hc, hbyte⟩
  · rw [hc]
  · rw [hp.eq_false hc, hp.eq_false hbyte]

theorem ofUInt8_of_ascii (hc : c.toNat < 128) (h : (utf8 (c :: rest))[0]? = some b) :
    Char.ofUInt8 b = c := by
  rcases first_byte h with ⟨-, hbyte⟩ | ⟨hwide, -⟩
  · exact hbyte
  · exact absurd hc (Nat.not_lt.mpr hwide)

/-- What starts with a character, and the byte offset after it. -/
def lexemeAt (start : Nat) (c : Char) (rest : List Char) : Except Stop (Token × Nat) :=
  match lexeme start c rest with
  | .error e => .error (.refused e)
  | .ok (token, count) => .ok (token, start + bytes (c :: rest.take count))

theorem slice_rest (before rest : List Char) :
    slice (before ++ rest) (bytes before) (bytes (before ++ rest)) = .ok rest := by
  have hslice := slice_append before rest []
  rwa [List.append_nil, ← bytes_append] at hslice

theorem slice_run (before run after : List Char) :
    slice (before ++ (run ++ after)) (bytes before) (bytes before + bytes run) = .ok run := by
  rw [← List.append_assoc, slice_append]

theorem find?_eq (c : Char) (cs : List Char) :
    find? c cs = if c ∈ cs then some (bytes (cs.takeWhile (· != c))) else none := by
  simp only [find?, Token.takeWhile_ne_length_lt_iff]

theorem bytes_singleton (h : c.toNat < 128) : bytes [c] = 1 := by
  rw [bytes, utf8Size_of_ascii h, bytes]

theorem quoted_eq (h : c = '"' ∨ c = '\'') :
    quoted (before ++ c :: rest) (bytes before) c = lexemeAt (bytes before) c rest := by
  have hone : bytes [c] = 1 := bytes_singleton (by rcases h with rfl | rfl <;> decide)
  have hrest := slice_rest (before ++ [c]) rest
  rw [List.append_assoc, List.singleton_append, bytes_append, hone] at hrest
  rw [quoted, hrest, lexemeAt, Token.lexeme_text h]
  simp only [bind, Except.bind, find?_eq]
  by_cases hclosed : c ∈ rest
  · obtain ⟨inside, after, rfl, hinside, -⟩ := Token.exists_of_mem_rest hclosed
    have hslice := slice_run [] inside (c :: after)
    rw [List.nil_append, show bytes [] = 0 from rfl, Nat.zero_add] at hslice
    have htake : (inside ++ c :: after).take (inside.length + 1) = inside ++ [c] := by
      rw [List.take_length_add_append, List.take_one, List.head?_cons, Option.toList_some]
    have hbytes : bytes (c :: (inside ++ [c])) = bytes inside + 2 := by
      rw [← List.singleton_append, bytes_append, bytes_append, hone]
      omega
    simp only [if_pos hclosed, hinside, hslice, htake, hbytes]
    rfl
  · simp only [if_neg hclosed]

theorem number_eq (h : startsNumber c rest = true) :
    number (before ++ c :: rest) (bytes before) = lexemeAt (bytes before) c rest := by
  have hascii : c.toNat < 128 := by
    rcases Bool.or_eq_true_iff.mp h with hdigit | hminus
    · exact isAsciiTest_isDigit c hdigit
    · exact isAsciiTest_beq (by decide) c (Bool.and_eq_true_iff.mp hminus).1
  obtain ⟨more, after, rfl, hmore, -⟩ := Token.exists_run isNumberRest rest
  have hrun : bytes (c :: more) = 1 + bytes more := by
    rw [← List.singleton_append, bytes_append, bytes_singleton hascii]
  have hstop := skip_eq isAsciiTest_isNumberRest (before ++ [c]) (more ++ after)
  rw [List.append_assoc, List.singleton_append, bytes_append, bytes_singleton hascii, hmore,
    Nat.add_assoc, ← hrun] at hstop
  have hslice := slice_run before (c :: more) after
  rw [List.cons_append] at hslice
  rw [number, hstop, lexemeAt, Token.lexeme_number h, hmore]
  simp only [bind, Except.bind, hslice]
  cases Token.numeral? (c :: more) with
  | none => rfl
  | some n => simp only [Option.elim_some, List.take_left, pure, Except.pure]

theorem isNameRest_of_isNameStart (h : isNameStart c = true) : isNameRest c = true := by
  simp only [isNameStart, Bool.or_eq_true] at h
  rcases h with (hletter | hline) | hdollar
  · simp [isNameRest, Char.isAlphanum, hletter]
  · simp [isNameRest, hline]
  · simp [isNameRest, hdollar]

theorem word_eq (h : isNameStart c = true) :
    word (before ++ c :: rest) (bytes before) = lexemeAt (bytes before) c rest := by
  obtain ⟨more, after, rfl, hmore, -⟩ := Token.exists_run isNameRest rest
  have hstop := skip_eq isAsciiTest_isNameRest before (c :: (more ++ after))
  rw [List.takeWhile_cons_of_pos (isNameRest_of_isNameStart h), hmore] at hstop
  have hslice := slice_run before (c :: more) after
  rw [List.cons_append] at hslice
  rw [word, hstop, lexemeAt, Token.lexeme_word h, hmore]
  simp only [bind, Except.bind, hslice, List.take_left, pure, Except.pure]

theorem operator_eq (plain : c ∉ ['(', ')', '"', '\'']) (number : startsNumber c rest = false)
    (name : isNameStart c = false) :
    operator (before ++ c :: rest) (bytes before) = lexemeAt (bytes before) c rest := by
  rw [operator, slice_rest, lexemeAt, Token.lexeme_of_other plain number name]
  simp only [bind, Except.bind, find?_operators]
  cases Token.operator? c rest with
  | none => rfl
  | some found => simp only [Option.map_some, Option.elim_some, ← Token.bytes_eq, pure, Except.pure]

theorem beforeDigit_eq (hc : c.toNat < 128) :
    beforeDigit (before ++ c :: rest) (bytes before) =
      (rest.head?.map Char.isDigit).getD false := by
  have hnext := getElem?_utf8 (before ++ [c]) rest 0
  rw [List.append_assoc, List.singleton_append, bytes_append, bytes_singleton hc] at hnext
  rw [beforeDigit, hnext]
  cases rest with
  | nil => rfl
  | cons d rest =>
    have hlength : 0 < (utf8 (d :: rest)).length := by
      rw [length_utf8]
      exact bytes_pos d rest
    have hfirst := List.getElem?_eq_getElem hlength
    rw [hfirst, Option.map_some, Option.getD_some, isAsciiTest_isDigit.first_byte hfirst]
    rfl

/-- The tests of a token's first byte, told by characters. -/
theorem token_eq (h : (utf8 (c :: rest))[0]? = some b) :
    token (before ++ c :: rest) (bytes before) b = lexemeAt (bytes before) c rest := by
  have hopening := (isAsciiTest_beq (show '('.toNat < 128 by decide)).first_byte h
  have hclosing := (isAsciiTest_beq (show ')'.toNat < 128 by decide)).first_byte h
  have hdouble := (isAsciiTest_beq (show '"'.toNat < 128 by decide)).first_byte h
  have hsingle := (isAsciiTest_beq (show '\''.toNat < 128 by decide)).first_byte h
  have hminus := (isAsciiTest_beq (show '-'.toNat < 128 by decide)).first_byte h
  have hdigit := isAsciiTest_isDigit.first_byte h
  have hname := isAsciiTest_isNameStart.first_byte h
  have hnumber : (c.isDigit || (c == '-' && beforeDigit (before ++ c :: rest) (bytes before))) =
      startsNumber c rest := by
    by_cases hc : c = '-'
    · rw [beforeDigit_eq (by rw [hc]; decide), startsNumber]
    · have hother : (c == '-') = false := by simpa using hc
      rw [startsNumber, hother, Bool.false_and, Bool.false_and]
  simp only [token, hopening, hclosing, hdouble, hsingle, hminus, hdigit, hname, hnumber]
  cases Token.start_cases c rest with
  | opening same =>
    subst same
    rfl
  | closing same =>
    subst same
    rfl
  | quote kind =>
    have hbyte : Char.ofUInt8 b = c :=
      ofUInt8_of_ascii (by rcases kind with rfl | rfl <;> decide) h
    rw [hbyte, ← quoted_eq kind]
    rcases kind with rfl | rfl <;> rfl
  | number starts =>
    have hplain := Token.not_special_of_startsNumber starts
    simp only [List.mem_cons, List.not_mem_nil, or_false, not_or] at hplain
    simp only [beq_iff_eq, hplain, Bool.or_eq_true, or_self, if_false, starts, if_true,
      number_eq starts]
  | name starts =>
    obtain ⟨hplain, hnot⟩ := Token.not_special_of_isNameStart starts rest
    simp only [List.mem_cons, List.not_mem_nil, or_false, not_or] at hplain
    simp only [beq_iff_eq, hplain, Bool.or_eq_true, or_self, if_false, starts, if_true, hnot,
      Bool.false_eq_true, word_eq starts]
  | other plain number name =>
    have hplain := plain
    simp only [List.mem_cons, List.not_mem_nil, or_false, not_or] at hplain
    simp only [beq_iff_eq, hplain, Bool.or_eq_true, or_self, if_false, number, name,
      Bool.false_eq_true, operator_eq plain number name]

theorem pass_eq (h : (utf8 (before ++ c :: rest))[bytes before]? = some b) :
    pass (before ++ c :: rest) (bytes before) b =
      if isAsciiBlank c then .ok (none, bytes before + bytes [c])
      else (lexemeAt (bytes before) c rest).map fun (found, next) => (some found, next) := by
  have hbyte := getElem?_utf8 before (c :: rest) 0
  rw [Nat.add_zero, h] at hbyte
  rw [pass, isAsciiTest_isAsciiBlank.first_byte hbyte.symm, token_eq hbyte.symm]
  by_cases hblank : isAsciiBlank c = true
  · rw [if_pos hblank, if_pos hblank, bytes_singleton (isAsciiTest_isAsciiBlank c hblank)]
  · rw [if_neg hblank, if_neg hblank]

variable {start next : Nat} {found : Option Token} {stop : Stop}

/-- A pass goes on after the character where it starts, and where another one starts. -/
theorem exists_of_pass (h : (utf8 (before ++ c :: rest))[bytes before]? = some b)
    (hpass : pass (before ++ c :: rest) (bytes before) b = .ok (found, next)) :
    ∃ more after, rest = more ++ after ∧ next = bytes before + bytes (c :: more) := by
  rw [pass_eq h] at hpass
  split_ifs at hpass
  · cases hpass
    exact ⟨[], rest, rfl, rfl⟩
  · obtain ⟨⟨token, place⟩, hlexeme, heq⟩ := Grammar.ok_of_map_ok hpass
    cases heq
    rw [lexemeAt] at hlexeme
    split at hlexeme
    · cases hlexeme
    · next count _ =>
      cases hlexeme
      exact ⟨rest.take count, rest.drop count, (List.take_append_drop count rest).symm, rfl⟩

theorem refused_of_pass (h : (utf8 (before ++ c :: rest))[bytes before]? = some b)
    (hpass : pass (before ++ c :: rest) (bytes before) b = .error stop) :
    ∃ e, stop = .refused e := by
  rw [pass_eq h] at hpass
  split_ifs at hpass
  have hlexeme := Grammar.error_of_map_error hpass
  rw [lexemeAt] at hlexeme
  split at hlexeme
  · cases hlexeme
    exact ⟨_, rfl⟩
  · cases hlexeme

/-- Where there is a byte after whole characters, another one starts. -/
theorem exists_of_getElem? {source : List Char} {i : Nat} (hsource : source = before ++ rest)
    (hi : bytes before = i) (h : (utf8 source)[i]? = some b) : ∃ c more, rest = c :: more := by
  subst hsource hi
  have hrest := getElem?_utf8 before rest 0
  rw [Nat.add_zero, h] at hrest
  cases rest with
  | nil => cases hrest
  | cons c more => exact ⟨c, more, rfl⟩

theorem scanFrom_cons (before : List Char) (c : Char) (rest : List Char) :
    scanFrom (before ++ c :: rest) (bytes before) =
      if isAsciiBlank c then scanFrom (before ++ c :: rest) (bytes before + bytes [c])
      else match lexeme (bytes before) c rest with
        | .error e => .error (.refused e)
        | .ok (token, count) =>
          (scanFrom (before ++ c :: rest) (bytes before + bytes (c :: rest.take count))).map
            ((token, bytes before) :: ·) := by
  have hlt : bytes before < (utf8 (before ++ c :: rest)).length := by
    rw [length_utf8, bytes_append]
    exact Nat.lt_add_of_pos_right (bytes_pos c rest)
  have hgoes : ∀ more, bytes before < bytes before + bytes (c :: more) := fun more =>
    Nat.lt_add_of_pos_right (bytes_pos c more)
  rw [scanFrom, dif_pos hlt, pass_eq (List.getElem?_eq_getElem hlt)]
  by_cases hblank : isAsciiBlank c = true
  · simp only [if_pos hblank, if_pos (hgoes [])]
    cases scanFrom (before ++ c :: rest) (bytes before + bytes [c]) <;> rfl
  · simp only [if_neg hblank, lexemeAt]
    cases lexeme (bytes before) c rest with
    | error e => rfl
    | ok found =>
      simp only [Except.map, if_pos (hgoes _)]
      rfl

/-- The scan over bytes gives the tokens, or is refused for the same reason. -/
theorem scanFrom_eq {offset : Nat} {before cs : List Char} (h : bytes before = offset) :
    scanFrom (before ++ cs) offset = (tokens offset cs).mapError .refused := by
  induction offset, cs using scan_induction generalizing before with
  | nil offset =>
    subst h
    have hend : ¬bytes before < (utf8 (before ++ [])).length := by
      rw [length_utf8, List.append_nil]
      exact Nat.lt_irrefl _
    rw [scanFrom, dif_neg hend, tokens]
    rfl
  | blank offset c rest hblank ih =>
    subst h
    have hlater := ih (bytes_append before [c])
    rw [List.append_assoc, List.singleton_append] at hlater
    rw [scanFrom_cons, if_pos hblank, hlater, tokens, if_pos hblank]
    rfl
  | stuck offset c rest e kept hlexeme =>
    subst h
    rw [scanFrom_cons, if_neg (Bool.eq_false_iff.mp kept), hlexeme,
      (stuck_of_lexeme kept hlexeme).tokens]
    rfl
  | token offset c more rest token kept hlexeme ih =>
    subst h
    have hlater := ih (bytes_append before (c :: more))
    rw [List.append_assoc, List.cons_append] at hlater
    rw [scanFrom_cons, if_neg (Bool.eq_false_iff.mp kept), hlexeme,
      tokens_cons_of_lexeme hlexeme]
    simp only [List.take_left, hlater]
    cases tokens (bytes before + bytes (c :: more)) rest <;> rfl

theorem scan_eq (source : String) : scan source = (tokenize source).mapError .refused := by
  have hstart : bytes [] = 0 := rfl
  exact scanFrom_eq hstart

theorem Visited.exists_append {source : List Char} {i : Nat} (h : Visited source i) :
    ∃ before rest, source = before ++ rest ∧ bytes before = i := by
  induction h with
  | start => exact ⟨[], source, rfl, rfl⟩
  | next _ reads passes ih =>
    obtain ⟨before, rest, hsource, hi⟩ := ih
    obtain ⟨c, rest, rfl⟩ := exists_of_getElem? hsource hi reads
    subst hsource hi
    obtain ⟨more, after, rfl, hnext⟩ := exists_of_pass reads passes
    exact ⟨before ++ c :: more, after, by simp, by rw [hnext, bytes_append]⟩

end StoryPress.Condition.Scanner
