import StoryPress.Proofs.Text.Escape
import StoryPress.Story.Link

namespace StoryPress.Story.Link

open StoryPress.Text

def closing : List Char := [']', ']']

def bracketed (source : List Char) : List Char := '[' :: '[' :: (source ++ closing)

/-- What a link has between its brackets: a part of one line, with no closing pair before the one
that ends it. -/
structure IsSource (source : List Char) : Prop where
  oneLine : '\n' ∉ source
  firstClosing : ¬ closing <:+: source ++ [']']

/-- A text starts with an opening pair that is closed on its line. -/
def Starts (cs : List Char) : Prop :=
  ∃ source rest, cs = bracketed source ++ rest ∧ '\n' ∉ source

theorem isSource_nil : IsSource [] where
  oneLine := List.not_mem_nil
  firstClosing := by decide

theorem IsSource.tail {c : Char} {source : List Char} (h : IsSource (c :: source)) :
    IsSource source where
  oneLine := fun hmem => h.oneLine (List.mem_cons_of_mem c hmem)
  firstClosing := fun hinfix => h.firstClosing (List.infix_cons hinfix)

theorem isSource_of_not_mem {source : List Char} (hclosing : ']' ∉ source) (hline : '\n' ∉ source) :
    IsSource source where
  oneLine := hline
  firstClosing := by
    intro hinfix
    have hcount := hinfix.sublist.count_le ']'
    rw [List.count_append, List.count_eq_zero.mpr hclosing] at hcount
    exact absurd hcount (by decide)

theorem IsSource.not_closing {c : Char} {source rest more : List Char} (h : IsSource (c :: source)) :
    c :: (source ++ closing ++ rest) ≠ ']' :: ']' :: more := by
  intro hclosing
  obtain ⟨rfl, hsource⟩ := List.cons.inj hclosing
  refine h.firstClosing (List.IsPrefix.isInfix ?_)
  cases source with
  | nil => exact List.prefix_rfl
  | cons d source =>
    obtain ⟨rfl, -⟩ := List.cons.inj hsource
    exact ⟨source ++ [']'], rfl⟩

theorem isSource_cons {c : Char} {source rest : List Char} (hline : c ≠ '\n')
    (hsource : IsSource source)
    (hopen : ∀ more, c :: (source ++ closing ++ rest) ≠ ']' :: ']' :: more) :
    IsSource (c :: source) where
  oneLine := List.not_mem_cons_of_ne_of_not_mem (Ne.symm hline) hsource.oneLine
  firstClosing := by
    rw [List.cons_append, List.infix_cons_iff, not_or]
    refine ⟨?_, hsource.firstClosing⟩
    rintro ⟨more, hmore⟩
    have hwhole : c :: (source ++ closing ++ rest) = ']' :: ']' :: (more ++ ']' :: rest) := by
      have hpair : c :: (source ++ [']']) = ']' :: ']' :: more := hmore.symm
      calc c :: (source ++ closing ++ rest)
          = c :: (source ++ [']']) ++ ']' :: rest := by simp [closing]
        _ = ']' :: ']' :: (more ++ ']' :: rest) := by rw [hpair]; rfl
    exact hopen _ hwhole

theorem inside?_cons {c : Char} {rest : List Char}
    (hopen : ∀ more, c :: rest ≠ ']' :: ']' :: more) :
    inside? (c :: rest) = if c = '\n' then none else (inside? rest).map (c :: ·) := by
  rw [inside?]
  intro more hc hrest
  exact hopen more (by rw [hc, hrest])

theorem inside?_append {source : List Char} (h : IsSource source) (rest : List Char) :
    inside? (source ++ closing ++ rest) = some source := by
  induction source with
  | nil => rfl
  | cons c source ih =>
    have hline : c ≠ '\n' := fun hc => h.oneLine (hc ▸ List.mem_cons_self)
    have hopen : ∀ more, c :: (source ++ closing ++ rest) ≠ ']' :: ']' :: more :=
      fun more => h.not_closing
    rw [List.cons_append, List.cons_append, inside?_cons hopen, if_neg hline, ih h.tail,
      Option.map_some]

theorem exists_of_inside? {cs source : List Char} (h : inside? cs = some source) :
    IsSource source ∧ ∃ rest, cs = source ++ closing ++ rest := by
  fun_induction inside? cs generalizing source with
  | case1 => cases h
  | case2 rest =>
    cases h
    exact ⟨isSource_nil, rest, rfl⟩
  | case3 => cases h
  | case4 c rest hopen hline ih =>
    obtain ⟨inner, hinner, rfl⟩ := Option.map_eq_some_iff.mp h
    obtain ⟨hsource, more, rfl⟩ := ih hinner
    have hnotClosing : ∀ closed, c :: (inner ++ closing ++ more) ≠ ']' :: ']' :: closed := by
      intro closed hclosed
      obtain ⟨hc, hrest⟩ := List.cons.inj hclosed
      exact hopen closed hc hrest
    exact ⟨isSource_cons hline hsource hnotClosing, more, rfl⟩

theorem isSome_inside? {source : List Char} (h : '\n' ∉ source) (rest : List Char) :
    (inside? (source ++ closing ++ rest)).isSome = true := by
  induction source with
  | nil => rfl
  | cons c source ih =>
    rw [List.mem_cons, not_or] at h
    rw [List.cons_append, List.cons_append, inside?.eq_def]
    split
    · next heq => cases heq
    · rfl
    · next heq =>
      obtain ⟨rfl, rfl⟩ := List.cons.inj heq
      rw [if_neg (Ne.symm h.1), Option.isSome_map]
      exact ih h.2

theorem rule_opening (rest : List Char) :
    rule ('[' :: '[' :: rest) =
      (inside? rest).map fun source => (ofSource source, source.length + 3) := rfl

theorem rule_bracketed {source : List Char} (h : IsSource source) (rest : List Char) :
    rule (bracketed source ++ rest) = some (ofSource source, source.length + 3) := by
  have hinside := inside?_append h rest
  simp only [bracketed, List.cons_append, rule_opening, hinside, Option.map_some]

theorem substituteChars_bracketed {source : List Char} (h : IsSource source) (rest : List Char) :
    substituteChars (bracketed source ++ rest) = anchor (ofSource source) ++ substituteChars rest := by
  have hrule := rule_bracketed h rest
  have hdrop : (('[' :: (source ++ closing)) ++ rest).drop (source.length + 3) = rest :=
    List.drop_left' (by simp [closing])
  rw [bracketed, List.cons_append] at hrule ⊢
  rw [substituteChars, replaceSpans, pieces_cons_of_some hrule, hdrop]
  rfl

theorem exists_of_rule {cs : List Char} {link : Link} {further : Nat}
    (h : rule cs = some (link, further)) :
    ∃ source rest, cs = bracketed source ++ rest ∧ IsSource source ∧ link = ofSource source ∧
      further = source.length + 3 := by
  unfold rule at h
  split at h
  · next rest =>
    obtain ⟨source, hinside, hfound⟩ := Option.map_eq_some_iff.mp h
    obtain ⟨hsource, more, rfl⟩ := exists_of_inside? hinside
    obtain ⟨rfl, rfl⟩ := Prod.mk.inj hfound
    exact ⟨source, more, by simp [bracketed], hsource, rfl, rfl⟩
  · cases h

theorem isSome_rule {cs : List Char} (h : Starts cs) : (rule cs).isSome = true := by
  obtain ⟨source, rest, rfl, hline⟩ := h
  have hinside := isSome_inside? hline rest
  simp only [bracketed, List.cons_append, rule_opening, Option.isSome_map, hinside]

theorem IsSource.ne_of_not_starts {source cs : List Char} (h : IsSource source) (hcs : ¬ Starts cs)
    (rest : List Char) : bracketed source ++ rest ≠ cs := by
  rintro rfl
  exact hcs ⟨source, rest, rfl, h.oneLine⟩

theorem not_starts_of_rule {cs : List Char} (h : rule cs = none) : ¬ Starts cs := by
  intro hstarts
  have hsome := isSome_rule hstarts
  rw [h] at hsome
  cases hsome

inductive Segment where
  | plain (c : Char)
  | link (source : List Char)
  deriving DecidableEq, Repr

namespace Segment

def text : Segment → List Char
  | plain c => [c]
  | link source => bracketed source

def written : Segment → List Char
  | plain c => [c]
  | link source => anchor (ofSource source)

/-- What may stand before the given text: a link closed at its first closing pair, or a character at
which no link starts. -/
def Fits (rest : List Char) : Segment → Prop
  | plain c => ¬ Starts (c :: rest)
  | link source => IsSource source

end Segment

def textOf (segments : List Segment) : List Char := segments.flatMap Segment.text

def writtenOf (segments : List Segment) : List Char := segments.flatMap Segment.written

/-- Every link is marked off where the first opening pair is that is closed on its line. -/
def Leftmost (segments : List Segment) : Prop :=
  ∀ before segment after, segments = before ++ segment :: after → segment.Fits (textOf after)

theorem textOf_cons (segment : Segment) (rest : List Segment) :
    textOf (segment :: rest) = segment.text ++ textOf rest := List.flatMap_cons

theorem leftmost_nil : Leftmost [] := by
  intro before segment after h
  simp at h

theorem leftmost_cons_iff {segment : Segment} {rest : List Segment} :
    Leftmost (segment :: rest) ↔ segment.Fits (textOf rest) ∧ Leftmost rest := by
  constructor
  · intro h
    refine ⟨h [] segment rest rfl, fun before other after hsplit => ?_⟩
    exact h (segment :: before) other after (by rw [hsplit, List.cons_append])
  · rintro ⟨hfits, hrest⟩ before other after hsplit
    cases before with
    | nil =>
      obtain ⟨rfl, rfl⟩ := List.cons.inj hsplit
      exact hfits
    | cons first before =>
      obtain ⟨rfl, hafter⟩ := List.cons.inj hsplit
      exact hrest before other after hafter

theorem exists_segments (cs : List Char) :
    ∃ segments, textOf segments = cs ∧ Leftmost segments ∧
      substituteChars cs = writtenOf segments := by
  unfold substituteChars replaceSpans
  fun_induction pieces rule cs with
  | case1 => exact ⟨[], rfl, leftmost_nil, rfl⟩
  | case2 c rest link further h ih =>
    obtain ⟨source, more, hcs, hsource, rfl, rfl⟩ := exists_of_rule h
    obtain ⟨segments, htext, hleftmost, hwritten⟩ := ih
    have hmore : rest.drop (source.length + 3) = more := by
      have hdrop : (c :: rest).drop (source.length + 4) = more := by
        rw [hcs]
        exact List.drop_left' (by simp [bracketed, closing])
      exact hdrop
    refine ⟨.link source :: segments, ?_, leftmost_cons_iff.mpr ⟨hsource, hleftmost⟩, ?_⟩
    · rw [textOf_cons, htext, hmore, hcs]
      rfl
    · rw [List.flatMap_cons, hwritten]
      rfl
  | case3 c rest h ih =>
    obtain ⟨segments, htext, hleftmost, hwritten⟩ := ih
    refine ⟨.plain c :: segments, ?_, leftmost_cons_iff.mpr ⟨?_, hleftmost⟩, ?_⟩
    · rw [textOf_cons, htext]
      rfl
    · rw [htext]
      exact not_starts_of_rule h
    · rw [List.flatMap_cons, hwritten]
      rfl

theorem source_unique {xs ys rest more : List Char} (hx : IsSource xs) (hy : IsSource ys)
    (h : bracketed xs ++ rest = bracketed ys ++ more) : xs = ys ∧ rest = more := by
  have hinside := inside?_append hx rest
  have hsame : xs ++ closing ++ rest = ys ++ closing ++ more :=
    (List.cons.inj (List.cons.inj h).2).2
  rw [hsame, inside?_append hy more] at hinside
  obtain rfl := Option.some.inj hinside
  exact ⟨rfl, List.append_cancel_left hsame⟩

/-- A text is marked off in one way only. -/
theorem segments_unique {xs ys : List Segment} (hx : Leftmost xs) (hy : Leftmost ys)
    (h : textOf xs = textOf ys) : xs = ys := by
  induction xs generalizing ys with
  | nil =>
    cases ys with
    | nil => rfl
    | cons y ys => cases y <;> cases h
  | cons x xs ih =>
    obtain ⟨hfitsx, hrestx⟩ := leftmost_cons_iff.mp hx
    cases ys with
    | nil => cases x <;> cases h
    | cons y ys =>
      obtain ⟨hfitsy, hresty⟩ := leftmost_cons_iff.mp hy
      rw [textOf_cons, textOf_cons] at h
      cases x with
      | plain c =>
        cases y with
        | plain d =>
          obtain ⟨rfl, hrest⟩ := List.cons.inj h
          rw [ih hrestx hresty hrest]
        | link source => exact absurd h.symm (hfitsy.ne_of_not_starts hfitsx (textOf ys))
      | link source =>
        cases y with
        | plain d => exact absurd h (hfitsx.ne_of_not_starts hfitsy (textOf xs))
        | link other =>
          obtain ⟨rfl, hrest⟩ := source_unique hfitsx hfitsy h
          rw [ih hrestx hresty hrest]

theorem inside?_append_line (cs more : List Char) : inside? (cs ++ '\n' :: more) = inside? cs := by
  induction cs with
  | nil => rfl
  | cons c cs ih =>
    cases cs with
    | nil =>
      have hline : ∀ rest, c :: '\n' :: more ≠ ']' :: ']' :: rest := by rintro _ ⟨⟩
      have halone : ∀ rest, [c] ≠ ']' :: ']' :: rest := by rintro _ ⟨⟩
      rw [List.singleton_append, inside?_cons hline, inside?_cons halone]
      rfl
    | cons d cs =>
      by_cases hclosing : c = ']' ∧ d = ']'
      · obtain ⟨rfl, rfl⟩ := hclosing
        rfl
      · have hopen : ∀ rest more, c :: d :: rest ≠ ']' :: ']' :: more := by
          rintro rest more ⟨⟩
          exact hclosing ⟨rfl, rfl⟩
        rw [inside?_cons (hopen cs), ← ih, List.cons_append, List.cons_append,
          inside?_cons (hopen _)]

theorem rule_append_line (c : Char) (cs more : List Char) :
    rule (c :: cs ++ '\n' :: more) = rule (c :: cs) := by
  by_cases hc : c = '['
  · subst hc
    cases cs with
    | nil => rfl
    | cons d cs =>
      by_cases hd : d = '['
      · subst hd
        have hsame := inside?_append_line cs more
        simp only [List.cons_append, rule_opening, hsame]
      · simp [rule, hd]
  · rw [List.cons_append, rule_eq_none_of_ne hc, rule_eq_none_of_ne hc]

theorem length_of_rule {c : Char} {rest : List Char} {link : Link} {further : Nat}
    (h : rule (c :: rest) = some (link, further)) : further ≤ rest.length := by
  obtain ⟨source, more, hcs, -, -, rfl⟩ := exists_of_rule h
  have hlength := congrArg List.length hcs
  simp only [bracketed, closing, List.length_cons, List.length_append, List.length_nil] at hlength
  omega

theorem substituteChars_lines (xs ys : List Char) :
    substituteChars (xs ++ '\n' :: ys) = substituteChars xs ++ '\n' :: substituteChars ys := by
  have hcut : pieces rule (xs ++ '\n' :: ys) = pieces rule xs ++ pieces rule ('\n' :: ys) :=
    pieces_append (fun c cs => rule_append_line c cs ys) (fun _ _ _ _ => length_of_rule) xs
  have hline : substituteChars ('\n' :: ys) = '\n' :: substituteChars ys := by
    rw [substituteChars, replaceSpans, pieces_cons_of_none (rule_eq_none_of_ne (by decide))]
    rfl
  rw [← hline]
  exact replaceSpans_append anchor hcut

/-- A text that begins with a URL scheme and two slashes. -/
def BeginsWithScheme (cs : List Char) : Prop :=
  ∃ letter more rest, cs = letter :: more ++ [':', '/', '/'] ++ rest ∧ letter.isAlpha = true ∧
    ∀ c ∈ more, isSchemeRest c = true

theorem hasScheme_iff {cs : List Char} : hasScheme cs = true ↔ BeginsWithScheme cs := by
  constructor
  · intro h
    cases cs with
    | nil => cases h
    | cons letter cs =>
      rw [hasScheme, Bool.and_eq_true, List.isPrefixOf_iff_prefix] at h
      obtain ⟨hletter, rest, hrest⟩ := h
      have hmore := List.all_eq_true.mp (List.all_takeWhile (p := isSchemeRest) (l := cs))
      refine ⟨letter, cs.takeWhile isSchemeRest, rest, ?_, hletter, hmore⟩
      rw [List.append_assoc, hrest, List.cons_append, List.takeWhile_append_dropWhile]
  · rintro ⟨letter, more, rest, rfl, hletter, hmore⟩
    have hdrop : (more ++ [':', '/', '/'] ++ rest).dropWhile isSchemeRest =
        [':', '/', '/'] ++ rest := by
      rw [List.append_assoc, List.dropWhile_append_of_pos hmore]
      rfl
    rw [List.cons_append, List.cons_append, hasScheme, hletter, hdrop]
    rfl

/-- An anchor up to the value that names the target. -/
def opening (target : List Char) : List Char :=
  if hasScheme target then "<a href=\"".toList
  else "<a href=\"javascript:void(0)\" data-folio-go=\"".toList

theorem anchor_eq (link : Link) :
    anchor link = opening link.target ++ escapeChars link.target ++ "\">".toList ++
      escapeChars link.label ++ "</a>".toList := by
  unfold anchor opening
  split <;> rfl

/-- A text has its links marked off in one way, leftmost and each up to its first closing pair, and
is written with an anchor for every link and nothing else changed. The anchor names the target by
its address exactly if it begins with a scheme, with target and label escaped. Links never reach
over the end of a line. -/
theorem substitute_links :
    (∀ text : String, ∃ segments, textOf segments = text.toList ∧ Leftmost segments ∧
      (∀ others, textOf others = text.toList → Leftmost others → others = segments) ∧
      (substitute text).toList = writtenOf segments) ∧
    (∀ link : Link,
      let value := escapeChars link.target
      let label := escapeChars link.label
      IsEscaped value ∧ IsEscaped label ∧
      (BeginsWithScheme link.target →
        anchor link = "<a href=\"".toList ++ value ++ "\">".toList ++ label ++ "</a>".toList) ∧
      (¬ BeginsWithScheme link.target →
        anchor link = "<a href=\"javascript:void(0)\" data-folio-go=\"".toList ++ value ++
          "\">".toList ++ label ++ "</a>".toList)) ∧
    ∀ a b : String, substitute (a ++ "\n" ++ b) = substitute a ++ "\n" ++ substitute b := by
  refine ⟨fun text => ?_, fun link => ?_, fun a b => ?_⟩
  · obtain ⟨segments, htext, hleftmost, hwritten⟩ := exists_segments text.toList
    refine ⟨segments, htext, hleftmost, fun others hothers hleft => ?_, ?_⟩
    · exact segments_unique hleft hleftmost (hothers.trans htext.symm)
    · rw [substitute, String.toList_ofList, hwritten]
  · refine ⟨isEscaped_escapeChars _, isEscaped_escapeChars _, fun h => ?_, fun h => ?_⟩
    · rw [anchor_eq, opening, if_pos (hasScheme_iff.mpr h)]
    · rw [anchor_eq, opening, if_neg fun hscheme => h (hasScheme_iff.mp hscheme)]
  · have htext : (a ++ "\n" ++ b).toList = a.toList ++ '\n' :: b.toList := by simp
    rw [← String.toList_inj]
    simp only [substitute, String.toList_append, String.toList_ofList]
    rw [← String.toList_append, ← String.toList_append, htext, substituteChars_lines]
    simp

/-- An opening pair that is not closed on its line stays, and of three brackets the last is text. -/
theorem unclosed_opening_kept :
    anchor (ofSource "[Docs|https://x.org".toList) =
      "<a href=\"https://x.org\">[Docs</a>".toList ∧
    substitute "[[Cave\n[[[Docs|https://x.org]]]" =
      "[[Cave\n<a href=\"https://x.org\">[Docs</a>]" := by
  have hscheme : BeginsWithScheme (ofSource "[Docs|https://x.org".toList).target :=
    hasScheme_iff.mp (by decide +kernel)
  refine ⟨?_, ?_⟩
  · exact ((substitute_links.2.1 (ofSource "[Docs|https://x.org".toList)).2.2.1 hscheme).trans
      (by decide +kernel)
  · exact (substitute_links.2.2 "[[Cave" "[[[Docs|https://x.org]]]").trans (by decide +kernel)

end StoryPress.Story.Link
