import StoryPress.Config.Settings
import StoryPress.Proofs.Text.Blank

namespace StoryPress.Config.Settings

open StoryPress.Text (AllBlank eqIgnoringAsciiCase trim trimChars)

/-- The same up to the case of ASCII letters. -/
def SameName (s t : String) : Prop := s.toList.map Char.toLower = t.toList.map Char.toLower

instance (s t : String) : Decidable (SameName s t) :=
  inferInstanceAs (Decidable (s.toList.map Char.toLower = t.toList.map Char.toLower))

/-- Names that may be turned off together. -/
structure AreNames (names : List String) : Prop where
  notBlank : ∀ name ∈ names, ¬ AllBlank name.toList
  distinct : names.Pairwise fun s t => ¬ SameName s t

/-- What is wrong with a name that comes after others. A blank one is not compared. -/
inductive NameProblem (earlier : List String) (name : String) : Problem → Prop
  | blank (hblank : AllBlank name.toList) : NameProblem earlier name .blankName
  | repeated {other : String} (hkept : ¬ AllBlank name.toList) (hother : other ∈ earlier)
      (hsame : SameName other name) : NameProblem earlier name (.repeatedName name)

structure IsMeaningful (s : Settings) : Prop where
  names : AreNames s.disabled
  builtin : s.builtin = false → s.disabled = []
  statePath : ∀ path ∈ s.statePath, ¬ AllBlank path.toList

/-- A problem of some settings before which nothing is wrong. -/
inductive FirstProblem (s : Settings) : Problem → Prop
  | name {before after : List String} {name : String} {p : Problem}
      (hsplit : s.disabled = before ++ name :: after) (hbefore : AreNames before)
      (hname : NameProblem before name p) : FirstProblem s p
  | nothingToDisable (hnames : AreNames s.disabled) (hoff : s.builtin = false)
      (hsome : s.disabled ≠ []) : FirstProblem s .nothingToDisable
  | blankStatePath {path : String} (hnames : AreNames s.disabled)
      (hbuiltin : s.builtin = false → s.disabled = []) (hpath : s.statePath = some path)
      (hblank : AllBlank path.toList) : FirstProblem s .blankStatePath

/-- Nothing is left of a blank text when it is trimmed. -/
theorem isBlank_iff {s : String} : isBlank s = true ↔ AllBlank s.toList := by
  rw [isBlank, trim, String.isEmpty_iff, ← String.toList_inj, String.toList_ofList,
    ← Text.trimChars_eq_nil_iff]
  rfl

theorem sameName_iff {s t : String} : eqIgnoringAsciiCase s t = true ↔ SameName s t :=
  Text.eqIgnoringAsciiCase_iff

section

variable {earlier names before after : List String} {name : String} {p : Problem}

theorem repeats_iff : (earlier.any fun other => eqIgnoringAsciiCase other name) = true ↔
    ∃ other ∈ earlier, SameName other name := by
  simp only [List.any_eq_true, sameName_iff]

theorem nameProblem?_append (earlier xs ys : List String) :
    nameProblem? earlier (xs ++ ys) =
      (nameProblem? earlier xs).or (nameProblem? (earlier ++ xs) ys) := by
  induction xs generalizing earlier with
  | nil => simp [nameProblem?]
  | cons name xs ih =>
    rw [List.cons_append, nameProblem?, nameProblem?]
    split
    · rfl
    · split
      · rfl
      · rw [ih, List.append_assoc, List.singleton_append]

theorem nameProblem?_singleton : nameProblem? earlier [name] =
    if AllBlank name.toList then some .blankName
    else if ∃ other ∈ earlier, SameName other name then some (.repeatedName name)
    else none := by
  simp only [nameProblem?, isBlank_iff, repeats_iff]

theorem nameProblem?_singleton_eq_none_iff :
    nameProblem? earlier [name] = none ↔
      ¬ AllBlank name.toList ∧ ∀ other ∈ earlier, ¬ SameName other name := by
  rw [nameProblem?_singleton]
  split_ifs with hblank hsame
  · simp [hblank]
  · simpa [hblank] using hsame
  · simpa [hblank] using hsame

theorem nameProblem?_singleton_eq_some_iff :
    nameProblem? earlier [name] = some p ↔ NameProblem earlier name p := by
  rw [nameProblem?_singleton]
  constructor
  · intro h
    split_ifs at h with hblank hsame
    · obtain rfl := Option.some.inj h
      exact .blank hblank
    · obtain rfl := Option.some.inj h
      obtain ⟨other, hother, hsame⟩ := hsame
      exact .repeated hblank hother hsame
  · rintro (hblank | ⟨hkept, hother, hsame⟩)
    · rw [if_pos hblank]
    · rw [if_neg hkept, if_pos ⟨_, hother, hsame⟩]

theorem areNames_nil : AreNames [] := ⟨by simp, .nil⟩

theorem areNames_concat_iff :
    AreNames (names ++ [name]) ↔
      AreNames names ∧ ¬ AllBlank name.toList ∧ ∀ other ∈ names, ¬ SameName other name := by
  constructor
  · rintro ⟨hblank, hdistinct⟩
    obtain ⟨hnames, -, hlast⟩ := List.pairwise_append.mp hdistinct
    refine ⟨⟨fun other hother => hblank other (List.mem_append_left [name] hother), hnames⟩,
      hblank name (by simp), fun other hother => hlast other hother name (by simp)⟩
  · rintro ⟨⟨hblank, hdistinct⟩, hkept, hlast⟩
    refine ⟨fun other hother => ?_, List.pairwise_append.mpr ⟨hdistinct, by simp, ?_⟩⟩
    · rcases List.mem_append.mp hother with hother | hother
      · exact hblank other hother
      · exact List.mem_singleton.mp hother ▸ hkept
    · intro other hother last hmem
      exact List.mem_singleton.mp hmem ▸ hlast other hother

/-- Every name is compared with those before it only, and so all of them with each other. -/
theorem nameProblem?_eq_none_iff : nameProblem? [] names = none ↔ AreNames names := by
  induction names using List.reverseRecOn with
  | nil => exact ⟨fun _ => areNames_nil, fun _ => rfl⟩
  | append_singleton names name ih =>
    rw [nameProblem?_append, List.nil_append, Option.or_eq_none_iff, ih,
      nameProblem?_singleton_eq_none_iff, areNames_concat_iff]

theorem exists_of_nameProblem? (h : nameProblem? [] names = some p) :
    ∃ before name after, names = before ++ name :: after ∧ AreNames before ∧
      NameProblem before name p := by
  induction names using List.reverseRecOn with
  | nil => cases h
  | append_singleton names last ih =>
    rw [nameProblem?_append, List.nil_append] at h
    rcases Option.or_eq_some_iff.mp h with hnames | ⟨hnames, hlast⟩
    · obtain ⟨before, name, after, rfl, hbefore, hname⟩ := ih hnames
      exact ⟨before, name, after ++ [last], by simp, hbefore, hname⟩
    · exact ⟨names, last, [], rfl, nameProblem?_eq_none_iff.mp hnames,
        nameProblem?_singleton_eq_some_iff.mp hlast⟩

theorem nameProblem?_of_split (hbefore : AreNames before) (hname : NameProblem before name p) :
    nameProblem? [] (before ++ name :: after) = some p := by
  have hsplit : before ++ name :: after = before ++ ([name] ++ after) := rfl
  rw [hsplit, nameProblem?_append, nameProblem?_eq_none_iff.mpr hbefore, List.nil_append,
    nameProblem?_append, nameProblem?_singleton_eq_some_iff.mpr hname]
  rfl

end

variable {s : Settings}

theorem problem?_of_names (h : AreNames s.disabled) :
    s.problem? =
      if s.builtin = false ∧ s.disabled ≠ [] then some .nothingToDisable
      else if ∃ path, s.statePath = some path ∧ AllBlank path.toList then some .blankStatePath
      else none := by
  have hidle : (!s.builtin && !s.disabled.isEmpty) = true ↔
      s.builtin = false ∧ s.disabled ≠ [] := by simp
  have hpath : (s.statePath.map isBlank).getD false = true ↔
      ∃ path, s.statePath = some path ∧ AllBlank path.toList := by
    cases s.statePath <;> simp [isBlank_iff]
  rw [problem?, nameProblem?_eq_none_iff.mpr h]
  simp only [hidle, hpath]

theorem problem?_of_nameProblem? {p : Problem} (h : nameProblem? [] s.disabled = some p) :
    s.problem? = some p := by
  rw [problem?, h]

theorem isMeaningful_of_problem? (h : s.problem? = none) : s.IsMeaningful := by
  have hnames : AreNames s.disabled := by
    rw [← nameProblem?_eq_none_iff, Option.eq_none_iff_forall_ne_some]
    intro p hp
    rw [problem?_of_nameProblem? hp] at h
    cases h
  rw [problem?_of_names hnames] at h
  split_ifs at h with hidle hblank
  refine ⟨hnames, fun hoff => ?_, fun path hpath hall => hblank ⟨path, hpath, hall⟩⟩
  by_contra hsome
  exact hidle ⟨hoff, hsome⟩

theorem problem?_of_isMeaningful (h : s.IsMeaningful) : s.problem? = none := by
  rw [problem?_of_names h.names, if_neg fun hidle => hidle.2 (h.builtin hidle.1), if_neg]
  rintro ⟨path, hpath, hblank⟩
  exact h.statePath path hpath hblank

theorem firstProblem_of_problem? {p : Problem} (h : s.problem? = some p) : s.FirstProblem p := by
  cases hfirst : nameProblem? [] s.disabled with
  | some q =>
    obtain rfl : q = p := Option.some.inj ((problem?_of_nameProblem? hfirst).symm.trans h)
    obtain ⟨before, name, after, hsplit, hbefore, hname⟩ := exists_of_nameProblem? hfirst
    exact .name hsplit hbefore hname
  | none =>
    have hnames : AreNames s.disabled := nameProblem?_eq_none_iff.mp hfirst
    rw [problem?_of_names hnames] at h
    split_ifs at h with hidle hblank
    · obtain rfl := Option.some.inj h
      exact .nothingToDisable hnames hidle.1 hidle.2
    · obtain rfl := Option.some.inj h
      obtain ⟨path, hpath, hblank⟩ := hblank
      refine .blankStatePath hnames (fun hoff => ?_) hpath hblank
      by_contra hsome
      exact hidle ⟨hoff, hsome⟩

theorem problem?_of_firstProblem {p : Problem} (h : s.FirstProblem p) : s.problem? = some p := by
  cases h with
  | name hsplit hbefore hname =>
    exact problem?_of_nameProblem? (hsplit ▸ nameProblem?_of_split hbefore hname)
  | nothingToDisable hnames hoff hsome =>
    rw [problem?_of_names hnames, if_pos ⟨hoff, hsome⟩]
  | @blankStatePath path hnames hbuiltin hpath hblank =>
    rw [problem?_of_names hnames, if_neg fun hidle => hidle.2 (hbuiltin hidle.1),
      if_pos ⟨path, hpath, hblank⟩]

/-- Settings are without a problem exactly if they are meaningful, and any problem they have is the
first one: in the order of the names, where blanks come before repetitions, then of names where
there is nothing to turn off, then of the state path. -/
theorem problem?_is_first (s : Settings) :
    (s.problem? = none ↔ s.IsMeaningful) ∧ ∀ p, s.problem? = some p ↔ s.FirstProblem p :=
  ⟨⟨isMeaningful_of_problem?, problem?_of_isMeaningful⟩,
    fun _ => ⟨firstProblem_of_problem?, problem?_of_firstProblem⟩⟩

/-- A repetition in other case comes before a later blank name, though the names could not be turned
off at all; no-break spaces are blank. -/
example : problem? ⟨.default, false, false, ["css", "Note", "NOTE", " \u00a0"], some ""⟩ =
    some (.repeatedName "NOTE") := by
  decide +kernel

end StoryPress.Config.Settings
