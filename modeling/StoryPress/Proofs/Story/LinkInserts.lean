import StoryPress.Html.Attributes
import StoryPress.Proofs.Html.Tags
import StoryPress.Proofs.Story.LinkForms
import StoryPress.Proofs.Story.Placeholders
import StoryPress.Story.Store

/-! A link becomes an anchor before its placeholders are filled, and inserted text is not escaped. A
placeholder of the target is filled inside the quotes of an attribute, so the value stays in its
quotes exactly as long as no inserted text has a quote. Labels and targets as they are written never
leave their places. -/
namespace StoryPress.Story

open StoryPress.Html (Attribute attributesFrom attributesOf isMark tagsOf)
open StoryPress.Json (Lookup Value)
open StoryPress.Text

namespace Insert

/-- A placeholder of the name stands in the text. -/
def Mentions (cs name : List Char) : Prop :=
  ∃ before lead trail after, AllBlank lead ∧ IsName name ∧ AllBlank trail ∧
    cs = before ++ '{' :: (inside lead name trail ++ after)

/-- Some placeholder of the text is filled with a value whose text has the character. -/
def Fills (lookup : Lookup) (cs : List Char) (c : Char) : Prop :=
  ∃ name value, Mentions cs name ∧ Value.resolve lookup (String.ofList name) = some value ∧
    c ∈ (valueText value).toList

theorem mem_write_iff {lookup : Lookup} {p : Placeholder} {c : Char} (h : c ∉ p.source) :
    c ∈ write lookup p ↔
      ∃ value, Value.resolve lookup (String.ofList p.name) = some value ∧
        c ∈ (valueText value).toList := by
  unfold write
  cases Value.resolve lookup (String.ofList p.name) with
  | some value => simp
  | none => simpa using h

/-- A character that is not in a text comes into it with an inserted value only. -/
theorem mem_substituteChars_iff {lookup : Lookup} {cs : List Char} {c : Char} (h : c ∉ cs) :
    c ∈ substituteChars lookup cs ↔ Fills lookup cs c := by
  constructor
  · intro hmem
    obtain ⟨piece, hpiece, hc⟩ := List.mem_flatMap.mp hmem
    cases piece with
    | plain d =>
      obtain rfl := List.mem_singleton.mp hc
      exact absurd (mem_of_plain_mem hpiece) h
    | span placeholder =>
      obtain ⟨before, rest, further, rfl, hrule⟩ := exists_of_span_mem hpiece
      obtain @⟨lead, name, trail, hlead, hname, htrail, after⟩ := opens_of_rule hrule
      have hsource : c ∉ '{' :: inside lead name trail := fun hmem => h (by
        rw [List.mem_append, ← List.cons_append]
        exact .inr (List.mem_append_left after hmem))
      obtain ⟨value, hvalue, hc⟩ := (mem_write_iff hsource).mp hc
      exact ⟨name, value, ⟨before, lead, trail, after, hlead, hname, htrail, rfl⟩, hvalue, hc⟩
  · rintro ⟨name, value, ⟨before, lead, trail, after, hlead, hname, htrail, rfl⟩, hvalue, hc⟩
    rw [substituteChars_placeholder lookup hlead hname htrail]
    refine List.mem_append_left _ (List.mem_append_right _ ?_)
    rw [write, hvalue]
    exact hc

theorem isOutside_of_mem {c : Char} (h : c ∈ ['&', '<', '>', '"', '\'']) : IsOutside c := by
  simp only [List.mem_cons, List.not_mem_nil, or_false] at h
  rcases h with rfl | rfl | rfl | rfl | rfl <;>
    exact ⟨⟨by decide +kernel, by decide⟩, by decide, by decide⟩

theorem opening_not_mem_references : ∀ reference ∈ references, '{' ∉ reference := by
  have hall : references.all (fun reference => !reference.contains '{') = true := by decide
  intro reference hmem
  simpa using List.all_eq_true.mp hall reference hmem

/-- Escaping neither makes nor breaks a placeholder. -/
theorem mentions_escapeChars_iff {cs name : List Char} :
    Mentions (escapeChars cs) name ↔ Mentions cs name := by
  constructor
  · rintro ⟨before, lead, trail, after, hlead, hname, htrail, hcs⟩
    obtain ⟨xs, ys, rfl, -, hys⟩ :=
      exists_of_escapeChars_append_cons opening_not_mem_references hcs
    have hamp : '&' ∉ inside lead name trail :=
      (isOutside_of_mem (by simp)).not_mem_inside hlead hname htrail
    obtain ⟨zs, rfl, -⟩ := exists_of_escapeChars_append hamp hys
    exact ⟨xs, lead, trail, zs, hlead, hname, htrail, rfl⟩
  · rintro ⟨before, lead, trail, after, hlead, hname, htrail, rfl⟩
    refine ⟨escapeChars before, lead, trail, escapeChars after, hlead, hname, htrail, ?_⟩
    have hinside : escapeChars (inside lead name trail) = inside lead name trail :=
      escapeChars_of_not_mem fun c hc =>
        (isOutside_of_mem hc).not_mem_inside hlead hname htrail
    have hopening : escapeChars ['{'] = ['{'] := by decide
    rw [escapeChars_append, ← List.singleton_append, escapeChars_append, escapeChars_append,
      hopening, hinside]
    rfl

/-- What escaping removes is there again only if an insert brings it. -/
theorem mem_substituteChars_escapeChars_iff {lookup : Lookup} {cs : List Char} {c : Char}
    (h : c ∈ ['<', '>', '"', '\'']) :
    c ∈ substituteChars lookup (escapeChars cs) ↔ Fills lookup cs c := by
  rw [mem_substituteChars_iff ((isEscaped_escapeChars cs).marks c h)]
  simp only [Fills, mentions_escapeChars_iff]

end Insert

namespace Link

/-- What may stand on either side of a link's arrow: no bracket, no separator and no end of line. -/
structure IsPart (part : List Char) : Prop where
  opening : '[' ∉ part
  closing : ']' ∉ part
  oneLine : '\n' ∉ part
  forward : ¬ ['-', '>'] <:+: part
  backward : ¬ ['<', '-'] <:+: part
  bar : '|' ∉ part

theorem IsPart.isSide {part : List Char} (h : IsPart part) : IsSide part :=
  ⟨h.closing, h.oneLine, h.forward, h.backward, h.bar⟩

theorem substituteChars_arrow {label target : List Char} (hlabel : IsPart label)
    (htarget : IsPart target) :
    substituteChars (bracketed (arrow label target)) =
      anchor ⟨trimChars label, trimChars target⟩ := by
  have hsource : IsSource (arrow label target) :=
    isSource_between hlabel.isSide htarget.isSide (by simp) (by simp)
  exact substituteChars_of_parts hsource (parts_arrow hlabel.isSide target)

/-- The attributes of an anchor whose target is written as the value. -/
def attributes (target value : List Char) : List Attribute :=
  if hasScheme target then [⟨"href".toList, value⟩]
  else [⟨"href".toList, "javascript:void(0)".toList⟩, ⟨"data-folio-go".toList, value⟩]

theorem exists_opening (target : List Char) :
    ∃ start, opening target = '<' :: 'a' :: ' ' :: (start ++ ['"']) ∧ '{' ∉ start ∧ '>' ∉ start := by
  unfold opening
  split
  · exact ⟨"href=".toList, rfl, by decide, by decide⟩
  · exact ⟨"href=\"javascript:void(0)\" data-folio-go=".toList, rfl, by decide, by decide⟩

/-- No placeholder holds a quote or an angle bracket, so the parts of an anchor between these are
filled alone. -/
theorem filled_anchor (lookup : Lookup) (link : Link) :
    Insert.substituteChars lookup (anchor link) =
      opening link.target ++ Insert.substituteChars lookup (escapeChars link.target) ++
        "\">".toList ++ Insert.substituteChars lookup (escapeChars link.label) ++ "</a>".toList := by
  obtain ⟨start, hopening, hstart, -⟩ := exists_opening link.target
  have hbegin : '{' ∉ '<' :: 'a' :: ' ' :: start := by simpa using hstart
  have hanchor : anchor link = '<' :: 'a' :: ' ' :: start ++ '"' :: (escapeChars link.target ++ '"' :: '>' ::
      (escapeChars link.label ++ '<' :: "/a>".toList)) := by
    rw [anchor_eq, hopening]
    simp
  have hcut : ∀ c ∈ ['<', '>', '"', '\''], ∀ xs ys,
      Insert.substituteChars lookup (xs ++ c :: ys) =
        Insert.substituteChars lookup xs ++ c :: Insert.substituteChars lookup ys := by
    intro c hc xs ys
    have hopens : c ≠ '{' := by
      rintro rfl
      exact absurd hc (by decide)
    rw [Insert.substituteChars_append_outside (Insert.isOutside_of_mem (List.mem_cons_of_mem _ hc)),
      Insert.substituteChars_cons_of_ne lookup hopens]
  have hend : '{' ∉ "/a>".toList := by decide
  rw [hanchor, hcut '"' (by simp), Insert.substituteChars_of_not_mem lookup hbegin,
    hcut '"' (by simp), Insert.substituteChars_cons_of_ne lookup (by decide), hcut '<' (by simp),
    Insert.substituteChars_of_not_mem lookup hend, hopening]
  simp

theorem map_cons_eq_some_iff {found : Option (List Attribute × List Char)} {first : Attribute}
    {others : List Attribute} {rest : List Char} :
    (found.map fun (more, after) => (first :: more, after)) = some (first :: others, rest) ↔
      found = some (others, rest) := by
  cases found with
  | none => simp
  | some found => simp [Prod.ext_iff]

/-- The value of the target is read to its end exactly if no quote has come into it. -/
theorem attributesOf_iff {target value rest : List Char} :
    attributesOf (opening target ++ value ++ "\">".toList ++ rest) =
      some (attributes target value, rest) ↔ '"' ∉ value := by
  have hend : value ++ "\">".toList ++ rest = value ++ '"' :: '>' :: rest := by simp
  rw [List.append_assoc, List.append_assoc, ← List.append_assoc value, hend, opening, attributes]
  split
  · exact Html.attributesFrom_last_iff
  · have hread : attributesOf ("<a href=\"javascript:void(0)\" data-folio-go=\"".toList ++
          (value ++ '"' :: '>' :: rest)) =
        (attributesFrom (.quoted "data-folio-go".toList []) (value ++ '"' :: '>' :: rest)).map
          fun (more, after) =>
            (⟨"href".toList, "javascript:void(0)".toList⟩ :: more, after) := rfl
    rw [hread, map_cons_eq_some_iff]
    exact Html.attributesFrom_last_iff

theorem tagsOf_filled {target value content : List Char} (hvalue : '>' ∉ value)
    (hcontent : '<' ∉ content) :
    tagsOf (String.ofList
      (opening target ++ value ++ "\">".toList ++ content ++ "</a>".toList)) =
        [⟨false, "a"⟩, ⟨true, "a"⟩] := by
  obtain ⟨start, hopening, -, hstart⟩ := exists_opening target
  have hinner : '>' ∉ 'a' :: ' ' :: (start ++ '"' :: (value ++ ['"'])) := by
    simp [hstart, hvalue]
  have hchars : opening target ++ value ++ "\">".toList ++ content ++ "</a>".toList =
      '<' :: ('a' :: ' ' :: (start ++ '"' :: (value ++ ['"'])) ++
        '>' :: (content ++ "</a>".toList)) := by
    rw [hopening]
    simp
  rw [tagsOf, String.toList_ofList, hchars]
  have hname := Html.tagsFrom_name hinner [] (content ++ "</a>".toList)
  rw [Html.tagsFrom_outside hcontent] at hname
  exact hname

/-- A link with its placeholders filled is one anchor, written part by part. A mark comes into the
value of its target only with a value inserted there; the tag keeps its attributes exactly if no
quote does, and without marks from inserts the anchor's tags are the only ones. -/
theorem filled_link_iff (lookup : Lookup) (label target : String) (hlabel : IsPart label.toList)
    (htarget : IsPart target.toList) :
    let link : Link := ⟨trimChars label.toList, trimChars target.toList⟩
    let value := Insert.substituteChars lookup (escapeChars link.target)
    let content := Insert.substituteChars lookup (escapeChars link.label)
    let output := Insert.substitute lookup (substitute ("[[" ++ label ++ "->" ++ target ++ "]]"))
    output.toList = opening link.target ++ value ++ "\">".toList ++ content ++ "</a>".toList ∧
    (∀ c ∈ ['<', '>', '"'], c ∈ value ↔ Insert.Fills lookup link.target c) ∧
    (attributesOf output.toList =
        some (attributes link.target value, content ++ "</a>".toList) ↔
      ¬ Insert.Fills lookup link.target '"') ∧
    (¬ Insert.Fills lookup link.target '>' → ¬ Insert.Fills lookup link.label '<' →
      tagsOf output = [⟨false, "a"⟩, ⟨true, "a"⟩]) := by
  intro link value content output
  have hvalue : ∀ c ∈ ['<', '>', '"', '\''], c ∈ value ↔ Insert.Fills lookup link.target c :=
    fun c hc => Insert.mem_substituteChars_escapeChars_iff hc
  have hcontent : '<' ∈ content ↔ Insert.Fills lookup link.label '<' :=
    Insert.mem_substituteChars_escapeChars_iff (by simp)
  have hsource : ("[[" ++ label ++ "->" ++ target ++ "]]").toList =
      bracketed (arrow label.toList target.toList) := by
    simp [bracketed, arrow, closing]
  have houtput : output =
      String.ofList (opening link.target ++ value ++ "\">".toList ++ content ++ "</a>".toList) := by
    rw [← filled_anchor, ← substituteChars_arrow hlabel htarget, ← hsource]
    simp only [output, Insert.substitute, substitute, String.toList_ofList]
  refine ⟨?_, fun c hc => hvalue c ?_, ?_, fun htarget hlabel => ?_⟩
  · rw [houtput, String.toList_ofList]
  · exact List.mem_append_left ['\''] hc
  · rw [houtput, String.toList_ofList, List.append_assoc _ content, attributesOf_iff,
      hvalue '"' (by simp)]
  · rw [houtput]
    exact tagsOf_filled (fun h => htarget ((hvalue '>' (by simp)).mp h))
      fun h => hlabel (hcontent.mp h)

/-- A plain name in the place of the target stays in its attribute. -/
theorem inserted_name_stays_in_attribute :
    let lookup := (Store.ofFields [("x", .text "Cave")]).get?
    let output := Insert.substitute lookup (substitute "[[Go->{x}]]")
    output = "<a href=\"javascript:void(0)\" data-folio-go=\"Cave\">Go</a>" ∧
    attributesOf output.toList = some ([⟨"href".toList, "javascript:void(0)".toList⟩,
      ⟨"data-folio-go".toList, "Cave".toList⟩], "Go</a>".toList) := by
  intro lookup output
  have hgo : IsPart "Go".toList := by constructor <;> decide
  have hx : IsPart "{x}".toList := by constructor <;> decide
  have hquote : '"' ∉ Insert.substituteChars lookup (escapeChars "{x}".toList) := by
    decide +kernel
  have hfills : ¬ Insert.Fills lookup "{x}".toList '"' :=
    (Insert.mem_substituteChars_escapeChars_iff (by simp)).not.mp hquote
  obtain ⟨htext, -, hattributes, -⟩ := filled_link_iff lookup "Go" "{x}" hgo hx
  refine ⟨?_, ?_⟩
  · exact String.toList_injective (htext.trans (by decide +kernel))
  · exact (hattributes.mpr hfills).trans (by decide +kernel)

/-- A quote in an inserted value ends the value of the target, and what follows is read as an
attribute of its own. -/
theorem inserted_quote_adds_attribute :
    let lookup := (Store.ofFields [("x", .text "\" onclick=\"go()")]).get?
    let output := Insert.substitute lookup (substitute "[[Go->{x}]]")
    IsPart "Go".toList ∧ IsPart "{x}".toList ∧
    output = "<a href=\"javascript:void(0)\" data-folio-go=\"\" onclick=\"go()\">Go</a>" ∧
    attributesOf output.toList = some ([⟨"href".toList, "javascript:void(0)".toList⟩,
      ⟨"data-folio-go".toList, []⟩, ⟨"onclick".toList, "go()".toList⟩], "Go</a>".toList) := by
  intro lookup output
  have houtput : output =
      "<a href=\"javascript:void(0)\" data-folio-go=\"\" onclick=\"go()\">Go</a>" := by
    decide +kernel
  have hgo : IsPart "Go".toList := by constructor <;> decide
  have hx : IsPart "{x}".toList := by constructor <;> decide
  refine ⟨hgo, hx, houtput, ?_⟩
  rw [houtput]
  decide +kernel

end Link

end StoryPress.Story
