namespace StoryPress.Text

/-- The parts between the separators; always at least one. -/
def splitChars (separator : Char) : List Char → List (List Char)
  | [] => [[]]
  | c :: rest =>
    if c = separator then [] :: splitChars separator rest
    else match splitChars separator rest with
      | [] => [[c]]
      | first :: others => (c :: first) :: others

def split (separator : Char) (s : String) : List String :=
  (splitChars separator s.toList).map String.ofList

theorem splitChars_ne_nil (separator : Char) (cs : List Char) :
    splitChars separator cs ≠ [] := by
  cases cs with
  | nil => simp [splitChars]
  | cons c rest =>
    unfold splitChars
    split
    · simp
    · split <;> simp

theorem splitChars_of_not_mem {separator : Char} {cs : List Char} (h : separator ∉ cs) :
    splitChars separator cs = [cs] := by
  induction cs with
  | nil => rfl
  | cons c rest ih =>
    simp only [List.mem_cons, not_or] at h
    simp [splitChars, Ne.symm h.1, ih h.2]

theorem splitChars_append (separator : Char) (xs ys : List Char) :
    splitChars separator (xs ++ separator :: ys) =
      splitChars separator xs ++ splitChars separator ys := by
  induction xs with
  | nil => simp [splitChars]
  | cons c rest ih =>
    by_cases hc : c = separator
    · simp [splitChars, hc, ih]
    · obtain ⟨first, others, hrest⟩ := List.exists_cons_of_ne_nil (splitChars_ne_nil separator rest)
      simp [splitChars, hc, ih, hrest]

theorem not_mem_of_mem_splitChars {separator : Char} {cs part : List Char}
    (h : part ∈ splitChars separator cs) : separator ∉ part := by
  induction cs generalizing part with
  | nil =>
    obtain rfl := List.mem_singleton.mp h
    exact List.not_mem_nil
  | cons c rest ih =>
    obtain ⟨first, others, hrest⟩ := List.exists_cons_of_ne_nil (splitChars_ne_nil separator rest)
    by_cases hc : c = separator
    · rw [splitChars, if_pos hc] at h
      obtain rfl | hmem := List.mem_cons.mp h
      · exact List.not_mem_nil
      · exact ih hmem
    · rw [splitChars, if_neg hc, hrest] at h
      obtain rfl | hmem := List.mem_cons.mp h
      · have hfirst : separator ∉ first := ih (hrest ▸ List.mem_cons_self)
        exact List.not_mem_cons_of_ne_of_not_mem (Ne.symm hc) hfirst
      · exact ih (hrest ▸ List.mem_cons_of_mem first hmem)

def splitOnce (separator : List Char) : List Char → Option (List Char × List Char)
  | [] => if separator.isEmpty then some ([], []) else none
  | c :: rest =>
    if separator.isPrefixOf (c :: rest) then some ([], (c :: rest).drop separator.length)
    else (splitOnce separator rest).map fun (before, after) => (c :: before, after)

theorem append_of_splitOnce {separator cs before after : List Char}
    (h : splitOnce separator cs = some (before, after)) :
    cs = before ++ separator ++ after := by
  induction cs generalizing before with
  | nil =>
    simp only [splitOnce] at h
    split at h
    · simp_all
    · simp at h
  | cons c rest ih =>
    unfold splitOnce at h
    split at h
    · next hp =>
      simp only [Option.some.injEq, Prod.mk.injEq] at h
      obtain ⟨rfl, rfl⟩ := h
      obtain ⟨after, hafter⟩ := List.isPrefixOf_iff_prefix.1 hp
      simp [← hafter]
    · simp only [Option.map_eq_some_iff, Prod.mk.injEq] at h
      obtain ⟨⟨b, a⟩, hb, rfl, rfl⟩ := h
      simp [ih hb]

theorem splitOnce_of_not_infix {separator cs : List Char} (h : ¬ separator <:+: cs) :
    splitOnce separator cs = none := by
  rw [Option.eq_none_iff_forall_ne_some]
  rintro ⟨before, after⟩ hsplit
  exact h ⟨before, after, (append_of_splitOnce hsplit).symm⟩

/-- A separator of two characters that is in neither part of a text is not in the text, unless one
part ends with its first character and the other starts with its second. -/
theorem not_pair_infix_append {c d : Char} {xs ys : List Char} (hxs : ¬ [c, d] <:+: xs)
    (hys : ¬ [c, d] <:+: ys) (hjoint : xs.getLast? = some c → ys.head? ≠ some d) :
    ¬ [c, d] <:+: xs ++ ys := by
  rw [List.infix_append_iff]
  rintro (hin | hin | ⟨before, after, hpair, hbefore, hafter⟩)
  · exact hxs hin
  · exact hys hin
  · rcases List.cons_eq_append_iff.mp hpair with ⟨rfl, rfl⟩ | ⟨more, rfl, hmore⟩
    · exact hys hafter.isInfix
    · rcases List.cons_eq_append_iff.mp hmore with ⟨rfl, rfl⟩ | ⟨rest, rfl, hrest⟩
      · obtain ⟨front, rfl⟩ := hbefore
        obtain ⟨back, rfl⟩ := hafter
        exact hjoint (by simp) rfl
      · obtain ⟨rfl, rfl⟩ := List.nil_eq_append_iff.mp hrest
        exact hxs hbefore.isInfix

/-- A text is cut at a separator if none stands before it, not even one that the separator itself
completes. -/
theorem splitOnce_append {first : Char} {others before : List Char} (after : List Char)
    (h : ¬ (first :: others) <:+: before ++ (first :: others).dropLast) :
    splitOnce (first :: others) (before ++ (first :: others) ++ after) = some (before, after) := by
  induction before with
  | nil => simp [splitOnce]
  | cons c before ih =>
    rw [List.cons_append, List.infix_cons_iff, not_or] at h
    have hno : (first :: others).isPrefixOf (c :: (before ++ (first :: others) ++ after)) ≠ true := by
      rw [ne_eq, List.isPrefixOf_iff_prefix]
      intro hbegins
      refine h.1 (List.prefix_of_prefix_length_le hbegins ?_ ?_)
      · rw [List.prefix_cons_inj, List.append_assoc, List.prefix_append_right_inj]
        exact (List.dropLast_prefix _).trans (List.prefix_append _ after)
      · simp
    rw [List.cons_append, List.cons_append, splitOnce, if_neg hno, ih h.2]
    rfl

end StoryPress.Text
