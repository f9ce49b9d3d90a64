import StoryPress.Text.Split

namespace StoryPress.Files

abbrev Path := String

namespace Path

def isAbsolute (p : Path) : Bool := p.toList.head? == some '/'

/-- A path as seen from a directory; an absolute path is seen alike from everywhere. -/
def join (directory p : Path) : Path :=
  if isAbsolute p || directory.isEmpty then p
  else if directory.toList.getLast? == some '/' then directory ++ p
  else directory ++ "/" ++ p

/-- A path without slashes and single dots at its end, which name nothing. The slash of the root and
a dot at the very start stay. -/
def trimEnd (p : List Char) : List Char :=
  let rec trim : List Char → List Char
    | '/' :: rest => if rest.isEmpty then ['/'] else trim rest
    | '.' :: '/' :: rest => if rest.isEmpty then ['/'] else trim rest
    | reversed => reversed
  (trim p.reverse).reverse

/-- The path without its last part; none if there is no part to take away. -/
def parent? (p : Path) : Option Path :=
  let trimmed := trimEnd p.toList
  if trimmed.isEmpty || trimmed == ['/'] then none
  else
    let before := (trimmed.reverse.dropWhile (· != '/')).reverse
    some (String.ofList (trimEnd before))

def parts (p : Path) : List String := Text.split '/' p

theorem trim_suffix (cs : List Char) : trimEnd.trim cs <:+ cs := by
  fun_induction trimEnd.trim cs with
  | case1 rest hrest =>
    obtain rfl := List.isEmpty_iff.mp hrest
    exact List.suffix_refl _
  | case2 rest _ ih => exact ih.trans (List.suffix_cons _ _)
  | case3 rest hrest =>
    obtain rfl := List.isEmpty_iff.mp hrest
    exact List.suffix_cons _ _
  | case4 rest _ ih => exact ih.trans ((List.suffix_cons _ _).trans (List.suffix_cons _ _))
  | case5 => exact List.suffix_refl _

/-- What is left is nothing, the slash of the root, or ends in the last character of a name. -/
theorem trim_cases (cs : List Char) :
    trimEnd.trim cs = [] ∨ trimEnd.trim cs = ['/'] ∨
      ∃ c rest, trimEnd.trim cs = c :: rest ∧ c ≠ '/' := by
  fun_induction trimEnd.trim cs with
  | case1 => exact .inr (.inl rfl)
  | case2 rest _ ih => exact ih
  | case3 => exact .inr (.inl rfl)
  | case4 rest _ ih => exact ih
  | case5 reversed hslash _ =>
    cases reversed with
    | nil => exact .inl rfl
    | cons c rest => exact .inr (.inr ⟨c, rest, rfl, fun hc => hslash rest (by rw [hc])⟩)

theorem parent?_eq_some {p above : Path} (h : parent? p = some above) :
    ∃ c rest, trimEnd.trim p.toList.reverse = c :: rest ∧
      above = String.ofList (trimEnd (rest.dropWhile (· != '/')).reverse) := by
  simp only [parent?, trimEnd, List.reverse_reverse] at h ⊢
  obtain hnil | hroot | ⟨c, rest, hname, hc⟩ := trim_cases p.toList.reverse
  · simp [hnil] at h
  · simp [hroot] at h
  · have hdrop : (c :: rest).dropWhile (· != '/') = rest.dropWhile (· != '/') := by
      simp [hc]
    have hparts : (c :: rest).reverse ≠ [] ∧ (c :: rest).reverse ≠ ['/'] := by
      rw [ne_eq, ne_eq, List.reverse_eq_iff, List.reverse_eq_iff]
      simp [hc]
    rw [hname, hdrop, if_neg (by simpa using hparts)] at h
    exact ⟨c, rest, hname, (Option.some.inj h).symm⟩

theorem length_parent?_lt {p above : Path} (h : parent? p = some above) :
    above.toList.length < p.toList.length := by
  obtain ⟨c, rest, hname, rfl⟩ := parent?_eq_some h
  have hparts : (c :: rest).length ≤ p.toList.length := by
    simpa [hname] using (trim_suffix p.toList.reverse).length_le
  have hdrop : (rest.dropWhile (· != '/')).length ≤ rest.length :=
    (List.dropWhile_suffix _).length_le
  have htrim := (trim_suffix (rest.dropWhile (· != '/'))).length_le
  simp only [trimEnd, List.reverse_reverse, String.toList_ofList, List.length_reverse]
  simp only [List.length_cons] at hparts
  omega

/-- A path and the paths above it, the longest first. -/
def ancestors (p : Path) : List Path :=
  p :: match _h : parent? p with
    | some above => ancestors above
    | none => []
termination_by p.toList.length
decreasing_by exact length_parent?_lt _h

end Path

end StoryPress.Files
