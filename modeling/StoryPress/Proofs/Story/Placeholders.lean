import StoryPress.Proofs.Text.Blank
import StoryPress.Story.Insert
import Mathlib.Data.List.Infix

namespace StoryPress.Story.Insert

open StoryPress.Json (Lookup)
open StoryPress.Text

/-- The whole text is a dotted name. -/
def IsName (name : List Char) : Prop := name? name = some name

instance (name : List Char) : Decidable (IsName name) :=
  inferInstanceAs (Decidable (name? name = some name))

/-- A character that no name goes on with. -/
structure Stops (c : Char) : Prop where
  rest : isNameRest c = false
  dot : c ≠ '.'

theorem stops_closing : Stops '}' := ⟨by decide +kernel, by decide⟩

theorem stops_of_isBlank {c : Char} (h : isBlank c = true) : Stops c where
  rest := by
    have hdollar : c ≠ '$' := by
      rintro rfl
      cases h
    simp [isNameRest, isWord_of_isBlank h, hdollar]
  dot := by
    rintro rfl
    cases h

theorem nameRest_stop {stop : Char} (h : Stops stop) (more : List Char) :
    nameRest (stop :: more) = [] := by
  cases more <;> simp [nameRest, h.rest, h.dot]

theorem nameRest_append {stop : Char} (h : Stops stop) (cs more : List Char) :
    nameRest (cs ++ stop :: more) = nameRest cs := by
  fun_induction nameRest cs with
  | case1 => exact nameRest_stop h more
  | case2 c hc => simp [nameRest, hc, nameRest_stop h]
  | case3 c hc => simp [nameRest, hc, h.rest]
  | case4 c d rest hc ih =>
    rw [List.cons_append] at ih
    simp [nameRest, hc, ih]
  | case5 c d rest hc hdot ih => simp [nameRest, hc, hdot, ih]
  | case6 c d rest hc hdot => simp [nameRest, hc, hdot]

theorem nameRest_isPrefix (cs : List Char) : nameRest cs <+: cs := by
  fun_induction nameRest cs with
  | case1 | case3 | case6 => exact List.nil_prefix
  | case2 c hc => exact List.prefix_rfl
  | case4 c d rest hc ih => exact (List.prefix_cons_inj c).mpr ih
  | case5 c d rest hc hdot ih =>
    exact (List.prefix_cons_inj c).mpr ((List.prefix_cons_inj d).mpr ih)

theorem nameRest_nameRest (cs : List Char) : nameRest (nameRest cs) = nameRest cs := by
  fun_induction nameRest cs with
  | case1 | case3 | case6 => rfl
  | case2 c hc => simp [nameRest, hc]
  | case4 c d rest hc ih =>
    cases hrest : nameRest (d :: rest) with
    | nil => simp [nameRest, hc]
    | cons e more =>
      rw [hrest] at ih
      simp [nameRest, hc, ih]
  | case5 c d rest hc hdot ih => simp [nameRest, hc, hdot, ih]

theorem not_stops_of_mem_nameRest {cs : List Char} {c : Char} (h : c ∈ nameRest cs) :
    ¬ Stops c := by
  intro hstops
  fun_induction nameRest cs with
  | case1 | case3 | case6 => cases h
  | case2 d hd =>
    obtain rfl := List.mem_singleton.mp h
    rw [hstops.rest] at hd
    cases hd
  | case4 d e rest hd ih =>
    rcases List.mem_cons.mp h with rfl | h
    · rw [hstops.rest] at hd
      cases hd
    · exact ih h
  | case5 d e rest hd hdot ih =>
    simp only [Bool.and_eq_true, decide_eq_true_eq] at hdot
    rcases List.mem_cons.mp h with rfl | h
    · exact hstops.dot hdot.1
    rcases List.mem_cons.mp h with rfl | h
    · rw [hstops.rest] at hdot
      cases hdot.2
    · exact ih h

theorem name?_eq_some {cs name : List Char} (h : name? cs = some name) :
    IsName name ∧ name <+: cs := by
  cases cs with
  | nil => cases h
  | cons c rest =>
    rw [name?, Option.ite_none_right_eq_some] at h
    obtain ⟨hstart, hname⟩ := h
    obtain rfl := Option.some.inj hname
    refine ⟨?_, (List.prefix_cons_inj c).mpr (nameRest_isPrefix rest)⟩
    rw [IsName, name?, if_pos hstart, nameRest_nameRest]

theorem isName_cons_iff {c : Char} {rest : List Char} :
    IsName (c :: rest) ↔ isNameStart c = true ∧ nameRest rest = rest := by
  rw [IsName, name?, Option.ite_none_right_eq_some]
  simp

theorem IsName.exists_cons {name : List Char} (h : IsName name) :
    ∃ c rest, name = c :: rest ∧ isNameStart c = true ∧ nameRest rest = rest := by
  cases name with
  | nil => cases h
  | cons c rest => exact ⟨c, rest, rfl, isName_cons_iff.mp h⟩

theorem IsName.append {name : List Char} (h : IsName name) {stop : Char} (hstop : Stops stop)
    (more : List Char) : name? (name ++ stop :: more) = some name := by
  obtain ⟨c, rest, rfl, hstart, hrest⟩ := h.exists_cons
  rw [List.cons_append, name?, if_pos hstart, nameRest_append hstop, hrest]

theorem isNameRest_of_isNameStart {c : Char} (h : isNameStart c = true) : isNameRest c = true := by
  rw [isNameStart, Bool.or_eq_true, Bool.or_eq_true, beq_iff_eq, beq_iff_eq] at h
  rcases h with (halpha | rfl) | rfl
  · simp [isNameRest, isWord_of_ascii (toNat_lt_of_isAlpha halpha), isAsciiWord, Char.isAlphanum,
      halpha]
  · decide
  · decide

theorem isBlank_of_isNameStart {c : Char} (h : isNameStart c = true) : isBlank c = false := by
  rw [Bool.eq_false_iff]
  intro hblank
  rw [isNameStart, Bool.or_eq_true, Bool.or_eq_true, beq_iff_eq, beq_iff_eq] at h
  rcases h with (halpha | rfl) | rfl
  · have halphanum : c.isAlphanum = true := by rw [Char.isAlphanum, halpha, Bool.true_or]
    rw [isAlphanum_of_isBlank hblank] at halphanum
    cases halphanum
  · cases hblank
  · cases hblank

theorem IsName.not_mem {name : List Char} (h : IsName name) {stop : Char} (hstop : Stops stop) :
    stop ∉ name := by
  obtain ⟨c, rest, rfl, hstart, hrest⟩ := h.exists_cons
  intro hmem
  rcases List.mem_cons.mp hmem with rfl | hmem
  · exact absurd (isNameRest_of_isNameStart hstart) (Bool.eq_false_iff.mp hstop.rest)
  · rw [← hrest] at hmem
    exact not_stops_of_mem_nameRest hmem hstop

/-- The text of a placeholder after its opening brace. -/
def inside (lead name trail : List Char) : List Char := lead ++ name ++ trail ++ ['}']

theorem rule_inside {lead name trail : List Char} (hlead : AllBlank lead) (hname : IsName name)
    (htrail : AllBlank trail) (rest : List Char) :
    rule ('{' :: (inside lead name trail ++ rest)) =
      some (⟨'{' :: inside lead name trail, name⟩, (inside lead name trail).length) := by
  have hinside : inside lead name trail ++ rest = lead ++ (name ++ (trail ++ '}' :: rest)) := by
    simp [inside]
  have hstart : ∀ c ∈ (name ++ (trail ++ '}' :: rest)).head?, isBlank c = false := by
    obtain ⟨c, more, rfl, hc, -⟩ := hname.exists_cons
    intro d hd
    obtain rfl := Option.some.inj hd
    exact isBlank_of_isNameStart hc
  have hclose : ∀ c ∈ ('}' :: rest).head?, isBlank c = false := by
    intro c hc
    obtain rfl := Option.some.inj hc
    rfl
  have hread : name? (name ++ (trail ++ '}' :: rest)) = some name := by
    cases trail with
    | nil => exact hname.append stops_closing rest
    | cons c trail => exact hname.append (stops_of_isBlank (htrail c List.mem_cons_self)) _
  simp only [rule, hinside, takeWhile_blanks hlead hstart, dropWhile_blanks hlead hstart, hread,
    List.drop_left, takeWhile_blanks htrail hclose, dropWhile_blanks htrail hclose]
  rfl

/-- A text that starts with a placeholder: what it means, and how far it reaches after its brace. -/
inductive Opens : List Char → Placeholder × Nat → Prop
  | intro {lead name trail : List Char} (blankLead : AllBlank lead) (isName : IsName name)
      (blankTrail : AllBlank trail) (rest : List Char) :
      Opens ('{' :: (inside lead name trail ++ rest))
        (⟨'{' :: inside lead name trail, name⟩, (inside lead name trail).length)

theorem opens_of_rule {cs : List Char} {found : Placeholder × Nat} (h : rule cs = some found) :
    Opens cs found := by
  cases cs with
  | nil => cases h
  | cons c rest =>
    by_cases hc : c = '{'
    · subst hc
      simp only [rule] at h
      cases hname : name? (rest.dropWhile isBlank) with
      | none => simp [hname] at h
      | some name =>
        obtain ⟨hisName, after, hafter⟩ := name?_eq_some hname
        rw [hname, ← hafter] at h
        simp only [List.drop_left] at h
        split at h
        · next more hmore =>
          obtain rfl := Option.some.inj h
          have hrest : rest = inside (rest.takeWhile isBlank) name (after.takeWhile isBlank) ++
              more := by
            calc rest = rest.takeWhile isBlank ++ rest.dropWhile isBlank :=
                  List.takeWhile_append_dropWhile.symm
              _ = rest.takeWhile isBlank ++ (name ++ (after.takeWhile isBlank ++ '}' :: more)) := by
                  rw [← hmore, List.takeWhile_append_dropWhile (l := after), hafter]
              _ = inside (rest.takeWhile isBlank) name (after.takeWhile isBlank) ++ more := by
                  simp [inside]
          have hopens :=
            Opens.intro (allBlank_takeWhile rest) hisName (allBlank_takeWhile after) more
          rw [← hrest] at hopens
          exact hopens
        · cases h
    · rw [rule_eq_none_of_ne hc] at h
      cases h

theorem rule_eq_some_iff {cs : List Char} {found : Placeholder × Nat} :
    rule cs = some found ↔ Opens cs found := by
  refine ⟨opens_of_rule, ?_⟩
  rintro ⟨hlead, hname, htrail, rest⟩
  exact rule_inside hlead hname htrail rest

theorem length_of_rule {c : Char} {rest : List Char} {p : Placeholder} {further : Nat}
    (h : rule (c :: rest) = some (p, further)) : further ≤ rest.length := by
  obtain ⟨⟩ := opens_of_rule h
  simp

/-- A character that no placeholder holds after its opening brace. -/
structure IsOutside (stop : Char) : Prop extends Stops stop where
  blank : isBlank stop = false
  closing : stop ≠ '}'

theorem isOutside_opening : IsOutside '{' :=
  ⟨⟨by decide +kernel, by decide⟩, by decide, by decide⟩

theorem IsOutside.not_mem_inside {stop : Char} (h : IsOutside stop) {lead name trail : List Char}
    (hlead : AllBlank lead) (hname : IsName name) (htrail : AllBlank trail) :
    stop ∉ inside lead name trail := by
  have hblank : isBlank stop ≠ true := Bool.eq_false_iff.mp h.blank
  simp only [inside, List.mem_append, List.mem_singleton, not_or]
  exact ⟨⟨⟨fun hmem => hblank (hlead _ hmem), hname.not_mem h.toStops⟩,
    fun hmem => hblank (htrail _ hmem)⟩, h.closing⟩

theorem opens_append {cs : List Char} {found : Placeholder × Nat} (h : Opens cs found)
    (more : List Char) : Opens (cs ++ more) found := by
  obtain ⟨hlead, hname, htrail, rest⟩ := h
  rw [List.cons_append, List.append_assoc]
  exact .intro hlead hname htrail (rest ++ more)

section

variable {stop : Char} (hstop : IsOutside stop)

include hstop

/-- A placeholder that starts before a character outside of placeholders ends before it. -/
theorem opens_of_opens_append {c : Char} {cs more : List Char} {found : Placeholder × Nat}
    (h : Opens (c :: cs ++ stop :: more) found) : Opens (c :: cs) found := by
  generalize hwhole : c :: cs ++ stop :: more = whole at h
  obtain @⟨lead, name, trail, hlead, hname, htrail, rest⟩ := h
  rw [List.cons_append] at hwhole
  obtain ⟨rfl, htext⟩ := List.cons.inj hwhole
  rcases List.append_eq_append_iff.mp htext with ⟨t, hinside, hmore⟩ | ⟨t, rfl, -⟩
  · cases t with
    | nil =>
      rw [List.append_nil] at hinside
      subst hinside
      have hopens := Opens.intro hlead hname htrail []
      rwa [List.append_nil] at hopens
    | cons d t =>
      obtain ⟨rfl, -⟩ := List.cons.inj hmore
      have hmem : stop ∈ inside lead name trail := by
        rw [hinside]
        simp
      exact absurd hmem (hstop.not_mem_inside hlead hname htrail)
  · exact .intro hlead hname htrail t

theorem rule_append_outside (c : Char) (cs more : List Char) :
    rule (c :: cs ++ stop :: more) = rule (c :: cs) := by
  ext found
  rw [rule_eq_some_iff, rule_eq_some_iff]
  exact ⟨opens_of_opens_append hstop, fun h => opens_append h _⟩

theorem pieces_append_outside (cs more : List Char) :
    pieces rule (cs ++ stop :: more) = pieces rule cs ++ pieces rule (stop :: more) := by
  exact pieces_append (fun c rest => rule_append_outside hstop c rest more)
    (fun _ _ _ _ => length_of_rule) cs

theorem substituteChars_append_outside (lookup : Lookup) (cs more : List Char) :
    substituteChars lookup (cs ++ stop :: more) =
      substituteChars lookup cs ++ substituteChars lookup (stop :: more) :=
  replaceSpans_append (write lookup) (pieces_append_outside hstop cs more)

end

theorem substituteChars_cons_of_ne (lookup : Lookup) {c : Char} (h : c ≠ '{') (rest : List Char) :
    substituteChars lookup (c :: rest) = c :: substituteChars lookup rest := by
  rw [substituteChars, replaceSpans, pieces_cons_of_none (rule_eq_none_of_ne h)]
  rfl

theorem substituteChars_of_not_mem (lookup : Lookup) {cs : List Char} (h : '{' ∉ cs) :
    substituteChars lookup cs = cs := by
  induction cs with
  | nil => simp [substituteChars, replaceSpans, pieces_nil]
  | cons c cs ih =>
    rw [List.mem_cons, not_or] at h
    rw [substituteChars_cons_of_ne lookup (Ne.symm h.1), ih h.2]

theorem substituteChars_inside (lookup : Lookup) {lead name trail : List Char}
    (hlead : AllBlank lead) (hname : IsName name) (htrail : AllBlank trail) (after : List Char) :
    substituteChars lookup ('{' :: (inside lead name trail ++ after)) =
      write lookup ⟨'{' :: inside lead name trail, name⟩ ++ substituteChars lookup after := by
  have hrule := rule_inside hlead hname htrail after
  rw [substituteChars, replaceSpans, pieces_cons_of_some hrule, List.drop_left]
  rfl

/-- A placeholder anywhere in a text is replaced, and the texts around it are substituted on their
own. -/
theorem substituteChars_placeholder (lookup : Lookup) {lead name trail : List Char}
    (hlead : AllBlank lead) (hname : IsName name) (htrail : AllBlank trail)
    (before after : List Char) :
    substituteChars lookup (before ++ '{' :: (inside lead name trail ++ after)) =
      substituteChars lookup before ++ write lookup ⟨'{' :: inside lead name trail, name⟩ ++
        substituteChars lookup after := by
  rw [substituteChars_append_outside isOutside_opening,
    substituteChars_inside lookup hlead hname htrail, List.append_assoc]

end StoryPress.Story.Insert
