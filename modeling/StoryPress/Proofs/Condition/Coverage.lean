import StoryPress.Proofs.Condition.Nesting
import StoryPress.Proofs.Condition.Scanner

/-! A scan accounts for all of its source: what it accepts is blanks and lexemes, each at the place
that is told with its token, and what it refuses is such a text up to the place that the error
names. Later errors name the places of tokens, so every place that an error names is one where a
character starts. -/
namespace StoryPress.Condition

open StoryPress.Condition.Expr (close comparison conjunction disjunction operand terms)
open StoryPress.Condition.Scanner (Visited pass scan slice utf8)
open StoryPress.Condition.Token (bytes)

/-- An error names the place of one of the tokens, or none. -/
def NamesPlaces {α : Type} (p : Parser α) : Prop :=
  ∀ ts e offset, p ts = .error e → e.offset? = some offset → offset ∈ ts.map Prod.snd

/-- What is left is the end of what was given. -/
def LeavesEnd {α : Type} (p : Parser α) : Prop := ∀ ts a rest, p ts = .ok (a, rest) → rest <:+ ts

section

variable {p : Parser Expr} {ts rest : List Placed} {e : Error} {offset : Nat}

theorem leavesEnd_of_sound {δ α : Type} {tokens : δ → List Token} {levels : δ → List Nat}
    {value : δ → α} {depth : Nat} {p : Parser α}
    (h : Grammar.Sound tokens levels value depth p) : LeavesEnd p := by
  intro ts a rest hread
  obtain ⟨-, used, rfl, -⟩ := h ts a rest hread
  exact List.suffix_append used rest

theorem mem_places_of_suffix (h : rest <:+ ts) (hmem : offset ∈ rest.map Prod.snd) :
    offset ∈ ts.map Prod.snd := (h.map Prod.snd).subset hmem

theorem comparison_names (hleaves : LeavesEnd p) (hp : NamesPlaces p) :
    NamesPlaces (comparison p) := by
  intro ts e offset h hoffset
  rw [comparison] at h
  split at h
  · next hleft =>
    cases h
    exact hp ts e offset hleft hoffset
  · next left op place mid hleft =>
    have hright := hp mid e offset (Grammar.error_of_map_error h) hoffset
    exact mem_places_of_suffix (hleaves _ _ _ hleft) (List.mem_cons_of_mem _ hright)
  · cases h

theorem terms_names (hleaves : LeavesEnd p) (hp : NamesPlaces p) (link : Token) (links : Nat) :
    NamesPlaces (terms link p links) := by
  induction links using Nat.strongRecOn with
  | ind links ih =>
    intro ts e offset h hoffset
    rcases Nesting.terms_error h with hfirst | ⟨first, place, mid, more, hfirst, rfl, hmore⟩
    · exact hp ts e offset hfirst hoffset
    · have hlater := ih more (Nat.lt_succ_self more) mid e offset hmore hoffset
      exact mem_places_of_suffix (hleaves _ _ _ hfirst) (List.mem_cons_of_mem _ hlater)

theorem conjunction_names {depth : Nat} (hp : NamesPlaces (operand depth)) :
    NamesPlaces (conjunction (operand depth)) := by
  have hoperand := Grammar.operand_sound depth
  have hcomparison := comparison_names (leavesEnd_of_sound hoperand) hp
  intro ts e offset h hoffset
  exact terms_names (leavesEnd_of_sound (Grammar.comparison_sound hoperand)) hcomparison .and
    ts.length ts e offset (Grammar.error_of_map_error h) hoffset

theorem disjunction_names {depth : Nat} (hp : NamesPlaces (operand depth)) :
    NamesPlaces (disjunction (operand depth)) := by
  have hconjunction := Grammar.conjunction_sound (Grammar.operand_sound depth)
  intro ts e offset h hoffset
  exact terms_names (leavesEnd_of_sound hconjunction) (conjunction_names hp) .or ts.length ts e
    offset (Grammar.error_of_map_error h) hoffset

theorem close_names (inner : Expr) : NamesPlaces (close inner) := by
  intro ts e offset h hoffset
  unfold close at h
  split at h <;> cases h <;> cases hoffset
  exact List.mem_cons_self

theorem operand_names (depth : Nat) : NamesPlaces (operand depth) := by
  induction depth using Nat.strongRecOn with
  | ind depth ih =>
    intro ts e offset h hoffset
    cases Grammar.operand_fails h with
    | nothing => cases hoffset
    | deep opens =>
      cases hoffset
      exact List.mem_cons_self
    | token =>
      cases hoffset
      exact List.mem_cons_self
    | @not less _ more _ fails =>
      exact List.mem_cons_of_mem _ (ih less (by omega) more e offset fails hoffset)
    | @group less _ more _ fails =>
      have hnames := disjunction_names (ih less (by omega))
      exact List.mem_cons_of_mem _ (hnames more e offset fails hoffset)
    | @close less _ more rest inner _ reads fails =>
      have hleaves := leavesEnd_of_sound (Grammar.disjunction_sound (Grammar.operand_sound less))
      have hclose := close_names inner rest e offset fails hoffset
      exact List.mem_cons_of_mem _ (mem_places_of_suffix (hleaves _ _ _ reads) hclose)

theorem ofTokens_names (h : Expr.ofTokens ts = .error e) (hoffset : e.offset? = some offset) :
    offset ∈ ts.map Prod.snd := by
  unfold Expr.ofTokens at h
  split at h
  · next hread =>
    cases h
    exact disjunction_names (operand_names maxDepth) ts e offset hread hoffset
  · cases h
  · next token place rest hread =>
    cases h
    cases hoffset
    have hend := leavesEnd_of_sound (Grammar.disjunction_sound (Grammar.operand_sound maxDepth))
      _ _ _ hread
    exact mem_places_of_suffix hend List.mem_cons_self

end

section

variable {source : String} {e : Error} {offset : Nat} {before rest : List Char} {c : Char}

theorem Stuck.offset? {cs : List Char} (h : Stuck offset cs e) : e.offset? = some offset := by
  cases h <;> rfl

theorem starts_inside (h : source.toList = before ++ c :: rest) :
    String.Pos.Raw.IsValid source ⟨bytes before⟩ ∧ bytes before < source.utf8ByteSize := by
  refine ⟨Scanner.isValid_iff.mpr ⟨before, c :: rest, h, rfl⟩, ?_⟩
  rw [← String.ofList_toList (s := source), ← Token.bytes_eq, h, Token.bytes_append]
  exact Nat.lt_add_of_pos_right (Scanner.bytes_pos c rest)

/-- Every place that an error names is one where a character starts. -/
theorem error_inside (h : parse source = .error e) (hoffset : e.offset? = some offset) :
    String.Pos.Raw.IsValid source ⟨offset⟩ ∧ offset < source.utf8ByteSize := by
  unfold parse at h
  split at h
  · next hrefused =>
    cases h
    obtain ⟨pieces, rest, -, hsource, hstuck⟩ := tokens_eq_error_iff.mp hrefused
    rw [Nat.zero_add] at hstuck
    obtain rfl : bytes (textOf pieces) = offset := by
      rw [hstuck.offset?] at hoffset
      exact Option.some.inj hoffset
    obtain ⟨c, more, rfl, -⟩ := hstuck.exists_lexeme
    exact starts_inside hsource.symm
  · next ts hts =>
    obtain ⟨⟨token, place⟩, hmem, rfl⟩ := List.mem_map.mp (ofTokens_names h hoffset)
    obtain ⟨before, c, rest, count, hsource, hplace, -⟩ := exists_of_mem_tokens hts hmem
    rw [Nat.zero_add] at hplace
    subst hplace
    exact starts_inside hsource

end

/-- A slice of a text is one between two places where characters start or the text ends. A scan over
bytes takes no other slices: each pass starts at such a place, and is refused or goes on at a later
one, so it gives the tokens that `tokenize` gives. The source of accepted tokens is blanks and
their lexemes, each where its token is placed and none before the last one. What is refused is such
a text up to the place of the error, where no blank and no lexeme follows. Whatever the error of a
parse, the place that it names is in the source and a character starts there. -/
theorem scan_covers_source (source : String) :
    (∀ (text : String) (start stop : Nat),
      (∃ part, slice text.toList start stop = .ok part) ↔
        start ≤ stop ∧ String.Pos.Raw.IsValid text ⟨start⟩ ∧
          String.Pos.Raw.IsValid text ⟨stop⟩) ∧
    (∀ start, Visited source.toList start → String.Pos.Raw.IsValid source ⟨start⟩ ∧
      ∀ b, (utf8 source.toList)[start]? = some b →
        (∃ e, pass source.toList start b = .error (.refused e)) ∨
          ∃ found next, pass source.toList start b = .ok (found, next) ∧ start < next ∧
            String.Pos.Raw.IsValid source ⟨next⟩) ∧
    scan source = (tokenize source).mapError .refused ∧
    (∀ ts, tokenize source = .ok ts →
      (ts.map Prod.snd).Pairwise (· < ·) ∧
        ∃ pieces, Fitted pieces [] ∧ textOf pieces = source.toList ∧ placed 0 pieces = ts) ∧
    (∀ e, tokenize source = .error e →
      ∃ pieces rest, Fitted pieces rest ∧ textOf pieces ++ rest = source.toList ∧
        Stuck (bytes (textOf pieces)) rest e ∧ e.offset? = some (bytes (textOf pieces)) ∧
        ∀ (piece : Piece) after, rest = piece.chars ++ after → ¬piece.Fits after) ∧
    ∀ e offset, parse source = .error e → e.offset? = some offset →
      String.Pos.Raw.IsValid source ⟨offset⟩ ∧ offset < source.utf8ByteSize := by
  refine ⟨fun text start stop => Scanner.exists_slice_iff, fun start hvisited => ?_,
    Scanner.scan_eq source, fun ts hts => ?_, fun e he => ?_,
    fun e offset h hoffset => error_inside h hoffset⟩
  · obtain ⟨before, rest, hsource, rfl⟩ := hvisited.exists_append
    refine ⟨Scanner.isValid_iff.mpr ⟨before, rest, hsource, rfl⟩, fun b hb => ?_⟩
    obtain ⟨c, rest, rfl⟩ := Scanner.exists_of_getElem? hsource rfl hb
    rw [hsource] at hb
    cases hpass : pass source.toList (bytes before) b with
    | error stop =>
      rw [hsource] at hpass
      obtain ⟨e, rfl⟩ := Scanner.refused_of_pass hb hpass
      exact .inl ⟨e, rfl⟩
    | ok read =>
      obtain ⟨found, next⟩ := read
      rw [hsource] at hpass
      obtain ⟨more, after, rfl, rfl⟩ := Scanner.exists_of_pass hb hpass
      refine .inr ⟨found, _, rfl, Nat.lt_add_of_pos_right (Scanner.bytes_pos c more), ?_⟩
      refine Scanner.isValid_iff.mpr ⟨before ++ c :: more, after, ?_, Token.bytes_append _ _⟩
      rw [hsource, List.append_assoc, List.cons_append]
  · obtain ⟨pieces, hfitted, htext, hplaced⟩ := tokens_eq_ok_iff.mp hts
    refine ⟨?_, pieces, hfitted, htext, hplaced⟩
    rw [← hplaced]
    exact placed_increasing hfitted 0
  · obtain ⟨pieces, rest, hfitted, htext, hstuck⟩ := tokens_eq_error_iff.mp he
    rw [Nat.zero_add] at hstuck
    refine ⟨pieces, rest, hfitted, htext, hstuck, hstuck.offset?, ?_⟩
    rintro piece after rfl
    exact hstuck.not_fits

/-- A text in quotes takes two bytes for its character, so the operator after it starts at the fifth
byte. Without quotes that character starts nothing. -/
theorem wide_character_in_quotes :
    (Visited "'é'<=é".toList 4 ∧ String.Pos.Raw.IsValid "'é'<=é" ⟨4⟩) ∧
    (∃ ts, tokenize "'é'<=lamp" = .ok ts ∧ ts.map Prod.snd = [0, 4, 6] ∧
      (ts.map Prod.snd).Pairwise (· < ·) ∧
      ∃ pieces, Fitted pieces [] ∧ textOf pieces = "'é'<=lamp".toList ∧ placed 0 pieces = ts) ∧
    (tokenize "'é'<=é" = .error (.unexpectedToken "é" 6) ∧
      ∃ pieces rest, Fitted pieces rest ∧ textOf pieces ++ rest = "'é'<=é".toList ∧
        bytes (textOf pieces) = 6) ∧
    parse "'é'<=é" = .error (.unexpectedToken "é" 6) ∧
      String.Pos.Raw.IsValid "'é'<=é" ⟨6⟩ := by
  obtain ⟨-, hpasses, -, -, hrefused, hparse⟩ := scan_covers_source "'é'<=é"
  obtain ⟨-, -, -, haccepted, -⟩ := scan_covers_source "'é'<=lamp"
  have hvisited : Visited "'é'<=é".toList 4 :=
    .next .start (show (utf8 "'é'<=é".toList)[0]? = some 39 by decide +kernel)
      (show pass "'é'<=é".toList 0 39 = .ok (some (.text "é"), 4) by decide +kernel)
  have htokens : tokenize "'é'<=lamp" =
      .ok [(.text "é", 0), (.compare .le, 4), (.name "lamp", 6)] := by decide +kernel
  have herror : tokenize "'é'<=é" = .error (.unexpectedToken "é" 6) := by decide +kernel
  have hread : parse "'é'<=é" = .error (.unexpectedToken "é" 6) := by rw [parse, herror]
  obtain ⟨pieces, rest, hfitted, hsource, -, hplace, -⟩ := hrefused _ herror
  refine ⟨⟨hvisited, (hpasses 4 hvisited).1⟩, ⟨_, htokens, rfl, haccepted _ htokens⟩,
    ⟨herror, pieces, rest, hfitted, hsource, (Option.some.inj hplace).symm⟩, hread, ?_⟩
  exact (hparse _ 6 hread rfl).1

end StoryPress.Condition
