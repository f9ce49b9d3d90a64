/-! A rule says whether a span starts at the head of a text and how far it reaches. `pieces` finds
the leftmost spans that do not overlap; every other character stands for itself. -/
namespace StoryPress.Text

/-- What a span means, and how many characters it covers after its first. -/
abbrev SpanRule (α : Type) := List Char → Option (α × Nat)

inductive Piece (α : Type) where
  | plain (c : Char)
  | span (what : α)
  deriving DecidableEq, Repr

def pieces {α : Type} (rule : SpanRule α) : List Char → List (Piece α)
  | [] => []
  | c :: rest =>
    match rule (c :: rest) with
    | some (what, further) => .span what :: pieces rule (rest.drop further)
    | none => .plain c :: pieces rule rest
  termination_by cs => cs.length
  decreasing_by
    all_goals
      simp only [List.length_cons, List.length_drop]
      omega

def Piece.write {α : Type} (writeSpan : α → List Char) : Piece α → List Char
  | plain c => [c]
  | span what => writeSpan what

/-- Replaces every span by what `writeSpan` makes of it. Replaced text is not looked at again. -/
def replaceSpans {α : Type} (rule : SpanRule α) (writeSpan : α → List Char) (cs : List Char) :
    List Char :=
  (pieces rule cs).flatMap (Piece.write writeSpan)

theorem pieces_nil {α : Type} (rule : SpanRule α) : pieces rule [] = [] := by
  simp [pieces]

theorem pieces_cons_of_none {α : Type} {rule : SpanRule α} {c : Char} {rest : List Char}
    (h : rule (c :: rest) = none) : pieces rule (c :: rest) = .plain c :: pieces rule rest := by
  rw [pieces, h]

theorem pieces_cons_of_some {α : Type} {rule : SpanRule α} {c : Char} {rest : List Char} {what : α}
    {further : Nat} (h : rule (c :: rest) = some (what, further)) :
    pieces rule (c :: rest) = .span what :: pieces rule (rest.drop further) := by
  rw [pieces, h]

theorem exists_of_span_mem {α : Type} {rule : SpanRule α} {cs : List Char} {what : α}
    (h : .span what ∈ pieces rule cs) :
    ∃ before rest further, cs = before ++ rest ∧ rule rest = some (what, further) := by
  fun_induction pieces rule cs with
  | case1 => cases h
  | case2 c rest other further hrule ih =>
    rcases List.mem_cons.mp h with heq | h
    · obtain rfl := Piece.span.inj heq
      exact ⟨[], c :: rest, further, rfl, hrule⟩
    · obtain ⟨before, more, reach, hmore, hfound⟩ := ih h
      refine ⟨c :: (rest.take further ++ before), more, reach, ?_, hfound⟩
      rw [List.cons_append, List.append_assoc, ← hmore, List.take_append_drop]
  | case3 c rest hrule ih =>
    rcases List.mem_cons.mp h with heq | h
    · cases heq
    · obtain ⟨before, more, reach, rfl, hfound⟩ := ih h
      exact ⟨c :: before, more, reach, rfl, hfound⟩

theorem mem_of_plain_mem {α : Type} {rule : SpanRule α} {cs : List Char} {c : Char}
    (h : .plain c ∈ pieces rule cs) : c ∈ cs := by
  fun_induction pieces rule cs with
  | case1 => cases h
  | case2 d rest what further hrule ih =>
    rcases List.mem_cons.mp h with heq | h
    · cases heq
    · exact List.mem_cons_of_mem d (List.mem_of_mem_drop (ih h))
  | case3 d rest hrule ih =>
    rcases List.mem_cons.mp h with heq | h
    · obtain rfl := Piece.plain.inj heq
      exact List.mem_cons_self
    · exact List.mem_cons_of_mem d (ih h)

theorem replaceSpans_of_not_mem {α : Type} {rule : SpanRule α} (writeSpan : α → List Char)
    {cs : List Char} (h : ∀ what, .span what ∉ pieces rule cs) :
    replaceSpans rule writeSpan cs = cs := by
  unfold replaceSpans
  fun_induction pieces rule cs with
  | case1 => rfl
  | case2 c rest what further hrule ih => exact absurd List.mem_cons_self (h what)
  | case3 c rest hrule ih =>
    have hrest := ih fun what hmem => h what (List.mem_cons_of_mem _ hmem)
    rw [List.flatMap_cons, hrest]
    rfl

/-- A text may be cut where no span that starts in it before the cut sees what comes after it. -/
theorem pieces_append_of_suffix {α : Type} {rule : SpanRule α} {cs more : List Char}
    (hsame : ∀ c rest, c :: rest <:+ cs → rule (c :: rest ++ more) = rule (c :: rest))
    (hreach : ∀ c rest what further, rule (c :: rest) = some (what, further) →
      further ≤ rest.length) :
    pieces rule (cs ++ more) = pieces rule cs ++ pieces rule more := by
  fun_induction pieces rule cs with
  | case1 => rfl
  | case2 c rest what further h ih =>
    have hwhole : rule (c :: (rest ++ more)) = some (what, further) :=
      (hsame c rest List.suffix_rfl).trans h
    have hrest : rest.drop further <:+ c :: rest :=
      (List.drop_suffix further rest).trans (List.suffix_cons c rest)
    rw [List.cons_append, pieces_cons_of_some hwhole,
      List.drop_append_of_le_length (hreach c rest what further h),
      ih fun d ds hd => hsame d ds (hd.trans hrest), List.cons_append]
  | case3 c rest h ih =>
    have hwhole : rule (c :: (rest ++ more)) = none := (hsame c rest List.suffix_rfl).trans h
    rw [List.cons_append, pieces_cons_of_none hwhole,
      ih fun d ds hd => hsame d ds (hd.trans (List.suffix_cons c rest)), List.cons_append]

/-- A text may be cut where no span that starts before the cut sees what comes after it. -/
theorem pieces_append {α : Type} {rule : SpanRule α} {more : List Char}
    (hsame : ∀ c rest, rule (c :: rest ++ more) = rule (c :: rest))
    (hreach : ∀ c rest what further, rule (c :: rest) = some (what, further) →
      further ≤ rest.length)
    (cs : List Char) : pieces rule (cs ++ more) = pieces rule cs ++ pieces rule more :=
  pieces_append_of_suffix (fun c rest _ => hsame c rest) hreach

theorem replaceSpans_append {α : Type} {rule : SpanRule α} (writeSpan : α → List Char)
    {xs ys : List Char} (h : pieces rule (xs ++ ys) = pieces rule xs ++ pieces rule ys) :
    replaceSpans rule writeSpan (xs ++ ys) =
      replaceSpans rule writeSpan xs ++ replaceSpans rule writeSpan ys := by
  rw [replaceSpans, h, List.flatMap_append]
  rfl

end StoryPress.Text
