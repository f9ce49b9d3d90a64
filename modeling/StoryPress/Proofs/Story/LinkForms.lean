import StoryPress.Proofs.Story.Links

namespace StoryPress.Story.Link

open StoryPress.Text

/-- What may stand on either side of a separator: no separator, no closing bracket and no end of
line. -/
structure IsSide (side : List Char) : Prop where
  closing : ']' ∉ side
  oneLine : '\n' ∉ side
  forward : ¬ ['-', '>'] <:+: side
  backward : ¬ ['<', '-'] <:+: side
  bar : '|' ∉ side

variable {label target : List Char}

/-- The source of a link with the arrow to its target. -/
def arrow (label target : List Char) : List Char := label ++ ['-', '>'] ++ target

def backArrow (label target : List Char) : List Char := target ++ ['<', '-'] ++ label

def barred (label target : List Char) : List Char := label ++ ['|'] ++ target

theorem IsSide.isSource (h : IsSide target) : IsSource target :=
  isSource_of_not_mem h.closing h.oneLine

/-- Two sides with a separator between them are the source of a link. -/
theorem isSource_between {left separator right : List Char} (hleft : IsSide left)
    (hright : IsSide right) (hclosing : ']' ∉ separator) (hline : '\n' ∉ separator) :
    IsSource (left ++ separator ++ right) := by
  refine isSource_of_not_mem ?_ ?_
  · simp [hleft.closing, hright.closing, hclosing]
  · simp [hleft.oneLine, hright.oneLine, hline]

theorem parts_arrow (hlabel : IsSide label) (target : List Char) :
    parts (arrow label target) = (label, target) := by
  have hfirst : ¬ ['-', '>'] <:+: label ++ ['-'] :=
    not_pair_infix_append hlabel.forward (by decide) fun _ => by decide
  rw [parts, arrow, splitOnce_append target hfirst]

/-- Another arrow could stand only where the end of `<-` meets the start of the label. -/
theorem parts_backArrow (hlabel : IsSide label) (htarget : IsSide target)
    (hstart : label.head? ≠ some '>') : parts (backArrow label target) = (label, target) := by
  have hforward : ¬ ['-', '>'] <:+: target ++ ['<', '-'] ++ label :=
    not_pair_infix_append (not_pair_infix_append htarget.forward (by decide) fun _ => by decide)
      hlabel.forward fun _ => hstart
  have hfirst : ¬ ['<', '-'] <:+: target ++ ['<'] :=
    not_pair_infix_append htarget.backward (by decide) fun _ => by decide
  rw [parts, backArrow, splitOnce_of_not_infix hforward, splitOnce_append label hfirst]

theorem not_infix_barred {c d : Char} (hc : c ≠ '|') (hd : d ≠ '|') (hlabel : ¬ [c, d] <:+: label)
    (htarget : ¬ [c, d] <:+: target) : ¬ [c, d] <:+: barred label target := by
  have hbar : ¬ [c, d] <:+: ['|'] := fun hwithin => absurd hwithin.length_le (by simp)
  have hfirst : ¬ [c, d] <:+: label ++ ['|'] :=
    not_pair_infix_append hlabel hbar fun _ => by simpa using hd.symm
  exact not_pair_infix_append hfirst htarget fun hlast => by simp [hc.symm] at hlast

theorem parts_barred (hlabel : IsSide label) (htarget : IsSide target) :
    parts (barred label target) = (label, target) := by
  have hforward := not_infix_barred (by decide) (by decide) hlabel.forward htarget.forward
  have hbackward := not_infix_barred (by decide) (by decide) hlabel.backward htarget.backward
  have hfirst : ¬ ['|'] <:+: label ++ [] := by
    rw [List.append_nil]
    exact fun hwithin => hlabel.bar (hwithin.subset List.mem_cons_self)
  rw [parts, splitOnce_of_not_infix hforward, splitOnce_of_not_infix hbackward, barred,
    splitOnce_append target hfirst]

theorem parts_of_isSide (h : IsSide target) : parts target = (target, target) := by
  have hbar : ¬ ['|'] <:+: target := fun hwithin =>
    h.bar (hwithin.subset List.mem_cons_self)
  rw [parts, splitOnce_of_not_infix h.forward, splitOnce_of_not_infix h.backward,
    splitOnce_of_not_infix hbar]

theorem substituteChars_of_parts {source : List Char} (hsource : IsSource source)
    (h : parts source = (label, target)) :
    substituteChars (bracketed source) = anchor ⟨trimChars label, trimChars target⟩ := by
  have hsubstitute := substituteChars_bracketed hsource []
  have hempty : substituteChars [] = [] := by simp [substituteChars, replaceSpans, pieces_nil]
  rwa [List.append_nil, ofSource, h, hempty, List.append_nil] at hsubstitute

/-- The anchor of a label and a target without the blanks around them. -/
def html (label target : String) : String :=
  String.ofList (anchor ⟨trimChars label.toList, trimChars target.toList⟩)

section

variable {label target text : String}

theorem html_of_scheme (h : BeginsWithScheme (trim target).toList) :
    html label target =
      "<a href=\"" ++ escape (trim target) ++ "\">" ++ escape (trim label) ++ "</a>" := by
  have hscheme : hasScheme (trimChars target.toList) = true := by
    rwa [trim, String.toList_ofList, ← hasScheme_iff] at h
  rw [html, anchor, if_pos hscheme, ← String.toList_inj]
  simp [trim]

theorem html_of_passage (h : ¬ BeginsWithScheme (trim target).toList) :
    html label target = "<a href=\"javascript:void(0)\" data-folio-go=\"" ++
      escape (trim target) ++ "\">" ++ escape (trim label) ++ "</a>" := by
  have hpassage : ¬ hasScheme (trimChars target.toList) = true := by
    rwa [trim, String.toList_ofList, ← hasScheme_iff] at h
  rw [html, anchor, if_neg hpassage, ← String.toList_inj]
  simp [trim]

theorem substitute_of_parts {source : List Char} (htext : text.toList = bracketed source)
    (hsource : IsSource source) (h : parts source = (label.toList, target.toList)) :
    substitute text = html label target := by
  rw [substitute, htext, substituteChars_of_parts hsource h, html]

/-- All forms of a link with these sides are written as one anchor. It leads to the trimmed target,
as an address if that begins with a scheme and else as a passage, and shows the trimmed label; both
are escaped. -/
theorem forms_interchangeable (hlabel : IsSide label.toList) (htarget : IsSide target.toList)
    (hstart : label.toList.head? ≠ some '>') :
    ∃ written : String,
      (BeginsWithScheme (trim target).toList →
        written = "<a href=\"" ++ escape (trim target) ++ "\">" ++ escape (trim label) ++ "</a>") ∧
      (¬ BeginsWithScheme (trim target).toList →
        written = "<a href=\"javascript:void(0)\" data-folio-go=\"" ++ escape (trim target) ++
          "\">" ++ escape (trim label) ++ "</a>") ∧
      substitute ("[[" ++ label ++ "->" ++ target ++ "]]") = written ∧
      substitute ("[[" ++ target ++ "<-" ++ label ++ "]]") = written ∧
      substitute ("[[" ++ label ++ "|" ++ target ++ "]]") = written ∧
      (label = target → substitute ("[[" ++ target ++ "]]") = written) := by
  have harrow : IsSource (arrow label.toList target.toList) :=
    isSource_between hlabel htarget (by simp) (by simp)
  have hback : IsSource (backArrow label.toList target.toList) :=
    isSource_between htarget hlabel (by simp) (by simp)
  have hbarred : IsSource (barred label.toList target.toList) :=
    isSource_between hlabel htarget (by simp) (by simp)
  refine ⟨html label target, html_of_scheme, html_of_passage, ?_, ?_, ?_, ?_⟩
  · exact substitute_of_parts (by simp [bracketed, arrow, closing]) harrow
      (parts_arrow hlabel target.toList)
  · exact substitute_of_parts (by simp [bracketed, backArrow, closing]) hback
      (parts_backArrow hlabel htarget hstart)
  · exact substitute_of_parts (by simp [bracketed, barred, closing]) hbarred
      (parts_barred hlabel htarget)
  · rintro rfl
    exact substitute_of_parts (by simp [bracketed, closing]) hlabel.isSource
      (parts_of_isSide hlabel)

end

/-- Sides that start and end with characters of separators, and a target that is its own label. -/
theorem straddled_forms_agree :
    (IsSide "<b> -".toList ∧ IsSide "> [x <".toList ∧
      let shown :=
        "<a href=\"javascript:void(0)\" data-folio-go=\"&gt; [x &lt;\">&lt;b&gt; -</a>"
      substitute "[[<b> -->> [x <]]" = shown ∧ substitute "[[> [x <<-<b> -]]" = shown ∧
        substitute "[[<b> -|> [x <]]" = shown) ∧
    IsSide " https://x.org/a-b".toList ∧
      let shown := "<a href=\"https://x.org/a-b\">https://x.org/a-b</a>"
      substitute "[[ https://x.org/a-b]]" = shown ∧
        substitute "[[ https://x.org/a-b<- https://x.org/a-b]]" = shown := by
  have hlabel : IsSide "<b> -".toList := by constructor <;> decide
  have htarget : IsSide "> [x <".toList := by constructor <;> decide
  have haddress : IsSide " https://x.org/a-b".toList := by constructor <;> decide
  have hpassage : ¬ BeginsWithScheme (trim "> [x <").toList := by
    rw [← hasScheme_iff]
    decide +kernel
  have hscheme : BeginsWithScheme (trim " https://x.org/a-b").toList :=
    hasScheme_iff.mp (by decide +kernel)
  obtain ⟨_, -, htext, harrow, hback, hbarred, -⟩ :=
    forms_interchangeable hlabel htarget (by decide)
  obtain ⟨_, hurl, -, -, hturned, -, hown⟩ :=
    forms_interchangeable haddress haddress (by decide)
  rw [htext hpassage] at harrow hback hbarred
  rw [hurl hscheme] at hturned hown
  have hanchor : "<a href=\"javascript:void(0)\" data-folio-go=\"" ++ escape (trim "> [x <") ++
      "\">" ++ escape (trim "<b> -") ++ "</a>" =
      "<a href=\"javascript:void(0)\" data-folio-go=\"&gt; [x &lt;\">&lt;b&gt; -</a>" := by
    decide +kernel
  have hlink : "<a href=\"" ++ escape (trim " https://x.org/a-b") ++ "\">" ++
      escape (trim " https://x.org/a-b") ++ "</a>" =
      "<a href=\"https://x.org/a-b\">https://x.org/a-b</a>" := by
    decide +kernel
  rw [hanchor] at harrow hback hbarred
  rw [hlink] at hturned hown
  exact ⟨⟨hlabel, htarget, harrow, hback, hbarred⟩, haddress, hown rfl, hturned⟩

end StoryPress.Story.Link
