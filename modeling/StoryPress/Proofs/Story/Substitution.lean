import StoryPress.Proofs.Story.Placeholders

/-! A text falls in one way into placeholders and stretches in which no placeholder stands.
Substitution keeps the stretches, fills every placeholder once and looks at nothing that it has
written. A text may be cut wherever each opening brace before the cut is followed there by a closing
one. -/
namespace StoryPress.Story.Insert

open StoryPress.Json (Lookup Value)
open StoryPress.Text

/-- Parts of word characters and dollar signs between dots, with a letter, a low line or a dollar
sign in front. -/
structure IsDotted (name : List Char) : Prop where
  start : ∃ c ∈ name.head?, isNameStart c = true
  parts : ∀ part ∈ splitChars '.' name, part ≠ [] ∧ ∀ c ∈ part, isNameRest c = true

/-- What may follow the first character of a dotted name. -/
def GoesOn (parts : List (List Char)) : Prop :=
  (∀ c ∈ parts.headD [], isNameRest c = true) ∧
    ∀ part ∈ parts.tail, part ≠ [] ∧ ∀ c ∈ part, isNameRest c = true

theorem splitChars_dot (rest : List Char) :
    splitChars '.' ('.' :: rest) = [] :: splitChars '.' rest := if_pos rfl

theorem splitChars_cons {c : Char} (h : c ≠ '.') (rest : List Char) :
    ∃ first others, splitChars '.' rest = first :: others ∧
      splitChars '.' (c :: rest) = (c :: first) :: others := by
  obtain ⟨first, others, hrest⟩ := List.exists_cons_of_ne_nil (splitChars_ne_nil '.' rest)
  exact ⟨first, others, hrest, by simp [splitChars, h, hrest]⟩

theorem ne_dot_of_isNameRest {c : Char} (h : isNameRest c = true) : c ≠ '.' := by
  rintro rfl
  exact absurd h (by decide +kernel)

/-- A part that begins with a character of no name goes on nothing. -/
theorem not_goesOn {c : Char} (h : isNameRest c ≠ true) (hdot : c ≠ '.') (rest : List Char) :
    ¬ GoesOn (splitChars '.' (c :: rest)) ∧ ¬ GoesOn (splitChars '.' ('.' :: c :: rest)) := by
  obtain ⟨first, others, -, hcons⟩ := splitChars_cons hdot rest
  simp [GoesOn, splitChars_dot, hcons, h]

theorem nameRest_eq_iff (cs : List Char) : nameRest cs = cs ↔ GoesOn (splitChars '.' cs) := by
  fun_induction nameRest cs with
  | case1 => simp [GoesOn, splitChars]
  | case2 c hc => simp [GoesOn, splitChars, ne_dot_of_isNameRest hc, hc]
  | case3 c hc => by_cases h : c = '.' <;> simp_all [GoesOn, splitChars]
  | case4 c d rest hc ih =>
    obtain ⟨first, others, hrest, hcons⟩ := splitChars_cons (ne_dot_of_isNameRest hc) (d :: rest)
    simp [GoesOn, hcons, hrest, hc, ih]
  | case5 c d rest hc hd ih =>
    simp only [Bool.and_eq_true, decide_eq_true_eq] at hd
    obtain ⟨rfl, hd⟩ := hd
    obtain ⟨first, others, hrest, hcons⟩ := splitChars_cons (ne_dot_of_isNameRest hd) rest
    simp [GoesOn, splitChars_dot, hcons, hrest, hd, ih]
  | case6 c d rest hc hd =>
    simp only [Bool.and_eq_true, decide_eq_true_eq, not_and] at hd
    refine iff_of_false (by simp) ?_
    by_cases hdot : c = '.'
    · subst hdot
      by_cases hdots : d = '.'
      · subst hdots
        simp [GoesOn, splitChars_dot]
      · exact (not_goesOn (hd rfl) hdots rest).2
    · exact (not_goesOn hc hdot (d :: rest)).1

theorem isName_iff {name : List Char} : IsName name ↔ IsDotted name := by
  cases name with
  | nil => exact iff_of_false nofun fun h => by simpa using h.start
  | cons c rest =>
    rw [isName_cons_iff, nameRest_eq_iff]
    constructor
    · rintro ⟨hstart, hrest⟩
      have hc := isNameRest_of_isNameStart hstart
      obtain ⟨first, others, hsplit, hcons⟩ := splitChars_cons (ne_dot_of_isNameRest hc) rest
      refine ⟨⟨c, rfl, hstart⟩, ?_⟩
      rw [hsplit] at hrest
      simpa [GoesOn, hcons, hc] using hrest
    · rintro ⟨⟨d, hd, hstart⟩, hparts⟩
      obtain rfl : c = d := Option.some.inj hd
      have hc := isNameRest_of_isNameStart hstart
      obtain ⟨first, others, hsplit, hcons⟩ := splitChars_cons (ne_dot_of_isNameRest hc) rest
      refine ⟨hstart, ?_⟩
      rw [hsplit]
      simpa [GoesOn, hcons, hc] using hparts

/-- A dotted name between braces, with blanks around it. -/
inductive IsPlaceholder : Placeholder → Prop
  | intro {lead name trail : List Char} (blankLead : AllBlank lead) (dotted : IsDotted name)
      (blankTrail : AllBlank trail) : IsPlaceholder ⟨'{' :: inside lead name trail, name⟩

/-- No placeholder stands in the text. -/
def IsPlain (cs : List Char) : Prop := ∀ p, IsPlaceholder p → ¬ p.source <:+: cs

theorem IsPlaceholder.rule_append {p : Placeholder} (h : IsPlaceholder p) (rest : List Char) :
    rule (p.source ++ rest) = some (p, p.source.length - 1) := by
  obtain ⟨hlead, hname, htrail⟩ := h
  exact rule_inside hlead (isName_iff.mpr hname) htrail rest

theorem exists_of_rule {cs : List Char} {p : Placeholder} {further : Nat}
    (h : rule cs = some (p, further)) : IsPlaceholder p ∧ p.source <+: cs := by
  obtain ⟨hlead, hname, htrail, rest⟩ := opens_of_rule h
  exact ⟨.intro hlead (isName_iff.mp hname) htrail, List.prefix_append _ rest⟩

theorem IsPlaceholder.exists_cons {p : Placeholder} (h : IsPlaceholder p) :
    ∃ rest, p.source = '{' :: rest := by
  obtain ⟨-, -, -⟩ := h
  exact ⟨_, rfl⟩

theorem substituteChars_source (lookup : Lookup) {p : Placeholder} (h : IsPlaceholder p)
    (before after : List Char) :
    substituteChars lookup (before ++ p.source ++ after) =
      substituteChars lookup before ++ write lookup p ++ substituteChars lookup after := by
  obtain ⟨hlead, hname, htrail⟩ := h
  rw [List.append_assoc]
  exact substituteChars_placeholder lookup hlead (isName_iff.mpr hname) htrail before after

theorem substituteChars_of_isPlain (lookup : Lookup) {cs : List Char} (h : IsPlain cs) :
    substituteChars lookup cs = cs := by
  refine replaceSpans_of_not_mem _ fun p hp => ?_
  obtain ⟨before, rest, further, rfl, hrule⟩ := exists_of_span_mem hp
  obtain ⟨hplaceholder, hsource⟩ := exists_of_rule hrule
  exact h p hplaceholder (hsource.isInfix.trans (List.suffix_append before rest).isInfix)

/-- A placeholder that starts in a stretch before another one would stand in that stretch. -/
theorem stretch_eq_nil {t rest rest' : List Char} {p p' : Placeholder} (ht : IsPlain t)
    (hp : IsPlaceholder p) (hp' : IsPlaceholder p')
    (h : p.source ++ rest = t ++ (p'.source ++ rest')) : t = [] := by
  cases t with
  | nil => rfl
  | cons c t =>
    obtain ⟨more, hmore⟩ := hp'.exists_cons
    have hwhole := opens_of_rule (hp.rule_append rest)
    rw [h, hmore, List.cons_append] at hwhole
    have hrule := rule_eq_some_iff.mpr (opens_of_opens_append isOutside_opening hwhole)
    exact absurd (exists_of_rule hrule).2.isInfix (ht p hp)

theorem stretch_unique {s s' rest rest' : List Char} {p p' : Placeholder} (hs : IsPlain s)
    (hs' : IsPlain s') (hp : IsPlaceholder p) (hp' : IsPlaceholder p')
    (h : s ++ (p.source ++ rest) = s' ++ (p'.source ++ rest')) :
    s = s' ∧ p = p' ∧ rest = rest' := by
  have hsame : s = s' := by
    rcases List.append_eq_append_iff.mp h with ⟨t, rfl, ht⟩ | ⟨t, rfl, ht⟩
    · have hplain : IsPlain t := fun q hq hin => hs' q hq (hin.trans (List.suffix_append s t).isInfix)
      rw [stretch_eq_nil hplain hp hp' ht, List.append_nil]
    · have hplain : IsPlain t := fun q hq hin => hs q hq (hin.trans (List.suffix_append s' t).isInfix)
      rw [stretch_eq_nil hplain hp' hp ht, List.append_nil]
  subst hsame
  have htail : p.source ++ rest = p'.source ++ rest' := List.append_cancel_left h
  have hrule := hp.rule_append rest
  rw [htail, hp'.rule_append rest', Option.some.injEq, Prod.mk.injEq] at hrule
  obtain ⟨rfl, -⟩ := hrule
  exact ⟨rfl, rfl, List.append_cancel_left htail⟩

/-- A text cut into placeholders, each after a stretch, and the stretch after the last one. -/
structure Marking where
  marked : List (List Char × Placeholder)
  last : List Char

namespace Marking

/-- The text with something written for every placeholder. -/
def written (fill : Placeholder → List Char) (m : Marking) : List Char :=
  m.marked.flatMap (fun (stretch, p) => stretch ++ fill p) ++ m.last

def text (m : Marking) : List Char := m.written Placeholder.source

/-- Only placeholders are marked off, and none is left in a stretch. -/
structure IsComplete (m : Marking) : Prop where
  placeholders : ∀ entry ∈ m.marked, IsPlaceholder entry.2
  stretches : ∀ entry ∈ m.marked, IsPlain entry.1
  last : IsPlain m.last

/-- A marking, a placeholder and another marking. -/
def around (m : Marking) (p : Placeholder) (n : Marking) : Marking :=
  ⟨m.marked ++ (m.last, p) :: n.marked, n.last⟩

variable {m n : Marking} {p : Placeholder}

theorem written_around (fill : Placeholder → List Char) :
    (m.around p n).written fill = m.written fill ++ fill p ++ n.written fill := by
  simp [written, around]

theorem IsComplete.around (hm : m.IsComplete) (hp : IsPlaceholder p) (hn : n.IsComplete) :
    (m.around p n).IsComplete where
  placeholders := by
    intro entry hentry
    rcases List.mem_append.mp hentry with h | h
    · exact hm.placeholders entry h
    · rcases List.mem_cons.mp h with rfl | h
      · exact hp
      · exact hn.placeholders entry h
  stretches := by
    intro entry hentry
    rcases List.mem_append.mp hentry with h | h
    · exact hm.stretches entry h
    · rcases List.mem_cons.mp h with rfl | h
      · exact hm.last
      · exact hn.stretches entry h
  last := hn.last

theorem text_cons (stretch : List Char) (p : Placeholder) (marked : List (List Char × Placeholder))
    (last : List Char) :
    (Marking.mk ((stretch, p) :: marked) last).text =
      stretch ++ (p.source ++ (Marking.mk marked last).text) := by
  simp [text, written]

theorem IsComplete.tail {entry : List Char × Placeholder}
    {marked : List (List Char × Placeholder)} {last : List Char}
    (h : (Marking.mk (entry :: marked) last).IsComplete) : (Marking.mk marked last).IsComplete where
  placeholders := fun e he => h.placeholders e (List.mem_cons_of_mem _ he)
  stretches := fun e he => h.stretches e (List.mem_cons_of_mem _ he)
  last := h.last

theorem IsComplete.ne_plain {stretch : List Char} {marked : List (List Char × Placeholder)}
    {last plain : List Char} (h : (Marking.mk ((stretch, p) :: marked) last).IsComplete)
    (hplain : IsPlain plain) : (Marking.mk ((stretch, p) :: marked) last).text ≠ plain := by
  rintro rfl
  refine hplain p (h.placeholders _ List.mem_cons_self) ⟨stretch, (Marking.mk marked last).text, ?_⟩
  rw [text_cons, List.append_assoc]

/-- A text is marked off completely in one way only. -/
theorem IsComplete.unique (hm : m.IsComplete) (hn : n.IsComplete) (h : m.text = n.text) : m = n := by
  obtain ⟨xs, last⟩ := m
  obtain ⟨ys, last'⟩ := n
  induction xs generalizing ys with
  | nil =>
    cases ys with
    | nil =>
      have hlast : last = last' := h
      rw [hlast]
    | cons y ys => exact absurd h.symm (hn.ne_plain hm.last)
  | cons x xs ih =>
    cases ys with
    | nil => exact absurd h (hm.ne_plain hn.last)
    | cons y ys =>
      rw [text_cons, text_cons] at h
      obtain ⟨hstretch, hp, hrest⟩ := stretch_unique (hm.stretches x List.mem_cons_self)
        (hn.stretches y List.mem_cons_self) (hm.placeholders x List.mem_cons_self)
        (hn.placeholders y List.mem_cons_self) h
      have htail := ih hm.tail ys hn.tail hrest
      rw [Marking.mk.injEq] at htail ⊢
      exact ⟨by rw [Prod.ext hstretch hp, htail.1], htail.2⟩

theorem exists_complete (cs : List Char) : ∃ m : Marking, m.IsComplete ∧ m.text = cs ∧
    ∀ lookup, substituteChars lookup cs = m.written (write lookup) := by
  induction hlength : cs.length using Nat.strongRecOn generalizing cs with
  | ind length ih =>
    by_cases hplain : IsPlain cs
    · refine ⟨⟨[], cs⟩, ⟨nofun, nofun, hplain⟩, rfl, fun lookup => ?_⟩
      exact substituteChars_of_isPlain lookup hplain
    · simp only [IsPlain, not_forall, not_not] at hplain
      obtain ⟨p, hp, before, after, rfl⟩ := hplain
      obtain ⟨rest, hrest⟩ := hp.exists_cons
      simp only [hrest, List.length_append, List.length_cons] at hlength
      obtain ⟨m, hm, hbefore, hwritten⟩ := ih before.length (by omega) before rfl
      obtain ⟨n, hn, hafter, hwritten'⟩ := ih after.length (by omega) after rfl
      refine ⟨m.around p n, hm.around hp hn, ?_, fun lookup => ?_⟩
      · rw [← hbefore, ← hafter]
        exact written_around Placeholder.source
      · rw [written_around, substituteChars_source lookup hp, hwritten, hwritten']

/-- Every placeholder of the text is marked off, wherever it stands. -/
theorem IsComplete.marked_of_source (hm : m.IsComplete) (hp : IsPlaceholder p)
    {before after : List Char} (h : m.text = before ++ p.source ++ after) :
    ∃ earlier later stretch, m.marked = earlier ++ (stretch, p) :: later ∧
      before = (Marking.mk earlier stretch).text := by
  obtain ⟨b, hb, hbefore, -⟩ := exists_complete before
  obtain ⟨a, ha, hafter, -⟩ := exists_complete after
  have htext : (b.around p a).text = m.text := by
    rw [h, ← hbefore, ← hafter]
    exact written_around Placeholder.source
  have hsame : b.around p a = m := (hb.around hp ha).unique hm htext
  exact ⟨b.marked, a.marked, b.last, congrArg Marking.marked hsame.symm, hbefore.symm⟩

theorem written_eq_text {fill : Placeholder → List Char}
    (h : ∀ entry ∈ m.marked, fill entry.2 = entry.2.source) : m.written fill = m.text := by
  simp only [text, written]
  congr 1
  refine List.flatMap_congr fun entry hentry => ?_
  rw [h entry hentry]

theorem source_infix {entry : List Char × Placeholder} (h : entry ∈ m.marked) :
    entry.2.source <:+: m.text := by
  obtain ⟨earlier, later, hmarked⟩ := List.append_of_mem h
  have hsplit : m.text = (Marking.mk earlier entry.1).text ++ entry.2.source ++
      (Marking.mk later m.last).text := by
    simp [text, written, hmarked]
  exact ⟨_, _, hsplit.symm⟩

end Marking

theorem write_of_some {lookup : Lookup} {p : Placeholder} {value : Value}
    (h : Value.resolve lookup (String.ofList p.name) = some value) :
    write lookup p = (valueText value).toList := by
  rw [write, h]

theorem write_of_none {lookup : Lookup} {p : Placeholder}
    (h : Value.resolve lookup (String.ofList p.name) = none) : write lookup p = p.source := by
  rw [write, h]

/-- Every opening brace is followed by a closing one. -/
def BracesClosed (cs : List Char) : Prop := ∀ before after, cs = before ++ '{' :: after → '}' ∈ after

theorem closing_not_mem {lead name trail : List Char} (hlead : AllBlank lead) (hname : IsName name)
    (htrail : AllBlank trail) : '}' ∉ lead ++ name ++ trail := by
  have hblank : ¬ isBlank '}' = true := by decide
  simp only [List.mem_append, not_or]
  exact ⟨⟨fun h => hblank (hlead _ h), hname.not_mem stops_closing⟩, fun h => hblank (htrail _ h)⟩

/-- A placeholder ends at the first closing brace after its start. -/
theorem opens_of_closed {rest more : List Char} {found : Placeholder × Nat} (hclosed : '}' ∈ rest)
    (h : Opens ('{' :: (rest ++ more)) found) : Opens ('{' :: rest) found := by
  generalize hwhole : '{' :: (rest ++ more) = whole at h
  obtain @⟨lead, name, trail, hlead, hname, htrail, after⟩ := h
  obtain ⟨-, htext⟩ := List.cons.inj hwhole
  rcases List.append_eq_append_iff.mp htext with ⟨t, hinside, -⟩ | ⟨t, rfl, -⟩
  · cases t with
    | nil =>
      rw [List.append_nil] at hinside
      have hopens := Opens.intro hlead hname htrail []
      rw [List.append_nil] at hopens
      exact hinside ▸ hopens
    | cons d t =>
      have hbody : lead ++ name ++ trail = rest ++ (d :: t).dropLast := by
        have hdrop := congrArg List.dropLast hinside
        rwa [inside, List.dropLast_concat, List.dropLast_append_of_ne_nil (List.cons_ne_nil d t)]
          at hdrop
      have hmem : '}' ∈ lead ++ name ++ trail := by
        rw [hbody]
        exact List.mem_append_left _ hclosed
      exact absurd hmem (closing_not_mem hlead hname htrail)
  · exact .intro hlead hname htrail t

theorem rule_append_closed {c : Char} {rest : List Char} (h : c = '{' → '}' ∈ rest)
    (more : List Char) : rule (c :: rest ++ more) = rule (c :: rest) := by
  by_cases hc : c = '{'
  · subst hc
    ext found
    rw [rule_eq_some_iff, rule_eq_some_iff]
    exact ⟨opens_of_closed (h rfl), fun hopens => opens_append hopens more⟩
  · rw [List.cons_append, rule_eq_none_of_ne hc, rule_eq_none_of_ne hc]

theorem substituteChars_append_closed (lookup : Lookup) {cs : List Char} (h : BracesClosed cs)
    (more : List Char) :
    substituteChars lookup (cs ++ more) =
      substituteChars lookup cs ++ substituteChars lookup more := by
  refine replaceSpans_append (write lookup) (pieces_append_of_suffix ?_ fun _ _ _ _ => length_of_rule)
  rintro c rest ⟨before, rfl⟩
  exact rule_append_closed (fun hc => h before rest (by rw [hc])) more

/-- A text has its placeholders marked off in one way, every one of them, and is written with the
stretches as they are and each placeholder filled once: by the text of the value that its name
resolves to, or by itself. So a text stays as it is when nothing resolves, and a text whose opening
braces are all closed may be substituted apart from what follows it. -/
theorem substitute_marked (lookup : Lookup) :
    (∀ text : String, ∃ m : Marking, m.IsComplete ∧ m.text = text.toList ∧
      (∀ n : Marking, n.IsComplete → n.text = text.toList → n = m) ∧
      (∀ before p after, IsPlaceholder p → text.toList = before ++ p.source ++ after →
        ∃ earlier later stretch, m.marked = earlier ++ (stretch, p) :: later ∧
          before = (Marking.mk earlier stretch).text) ∧
      (substitute lookup text).toList = m.written (write lookup)) ∧
    (∀ p : Placeholder,
      (∀ value, Value.resolve lookup (String.ofList p.name) = some value →
        write lookup p = (valueText value).toList) ∧
      (Value.resolve lookup (String.ofList p.name) = none → write lookup p = p.source)) ∧
    (∀ text : String, (∀ p, IsPlaceholder p → p.source <:+: text.toList →
      Value.resolve lookup (String.ofList p.name) = none) → substitute lookup text = text) ∧
    ∀ a b : String, BracesClosed a.toList →
      substitute lookup (a ++ b) = substitute lookup a ++ substitute lookup b := by
  refine ⟨fun text => ?_, fun p => ⟨fun value => write_of_some, write_of_none⟩, fun text h => ?_,
    fun a b h => ?_⟩
  · obtain ⟨m, hm, htext, hwritten⟩ := Marking.exists_complete text.toList
    refine ⟨m, hm, htext, fun n hn hsame => hn.unique hm (hsame.trans htext.symm), ?_, ?_⟩
    · exact fun before p after hp hsource => hm.marked_of_source hp (htext.trans hsource)
    · rw [substitute, String.toList_ofList, hwritten]
  · obtain ⟨m, hm, htext, hwritten⟩ := Marking.exists_complete text.toList
    have hfill : ∀ entry ∈ m.marked, write lookup entry.2 = entry.2.source := fun entry hentry =>
      write_of_none (h entry.2 (hm.placeholders entry hentry) (htext ▸ Marking.source_infix hentry))
    rw [substitute, hwritten, Marking.written_eq_text hfill, htext, String.ofList_toList]
  · rw [← String.toList_inj, String.toList_append]
    simp only [substitute, String.toList_ofList, String.toList_append]
    exact substituteChars_append_closed lookup h b.toList

/-- An inserted text that looks like a placeholder is not filled, and where nothing is known no
placeholder is. -/
theorem inserted_placeholder_kept :
    let lookup : Lookup := Json.Fields.get? [("name", .text "{gold}"), ("gold", .number (.int 7))]
    substitute lookup "{ name }, {gold} \x7b" = "{gold}, 7 \x7b" ∧
      substitute (fun _ => none) "{ name }, \x7b{gold}" = "{ name }, \x7b{gold}" := by
  intro lookup
  have hclosed : BracesClosed "{ name }, ".toList := by
    have htext : "{ name }, ".toList = '{' :: " name \x7d, ".toList := by decide
    intro before after h
    rw [htext] at h
    cases before with
    | nil =>
      obtain ⟨-, rfl⟩ := List.cons.inj h
      decide
    | cons c before =>
      have hrest : " name \x7d, ".toList = before ++ '{' :: after := (List.cons.inj h).2
      have hmem : '{' ∈ before ++ '{' :: after := by simp
      rw [← hrest] at hmem
      exact absurd hmem (by decide)
  have hcut := (substitute_marked lookup).2.2.2 "{ name }, " "{gold} \x7b" hclosed
  have hbefore : substitute lookup "{ name }, " = "{gold}, " := by decide +kernel
  have hafter : substitute lookup "{gold} \x7b" = "7 \x7b" := by decide +kernel
  rw [hbefore, hafter] at hcut
  have hunknown : ∀ name, Value.resolve (fun _ => none) name = none := by
    intro name
    simp only [Value.resolve]
    split <;> rfl
  exact ⟨hcut, (substitute_marked fun _ => none).2.2.1 _ fun p _ _ => hunknown _⟩

end StoryPress.Story.Insert
