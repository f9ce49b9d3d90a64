import StoryPress.Proofs.Config.Load
import StoryPress.Proofs.Files.Paths
import Mathlib.Data.List.Infix

/-! A configuration is looked for from a directory upwards. The search passes every directory of the
way that has no configuration file and ends at the first one that has one, whatever this file holds;
it ends without a file if there is none on the whole way. For a directory that paths lead to, the
way up are the directories around it. -/
namespace StoryPress.Config

open StoryPress.Files (Path Place Tree)

variable {t : Tree} {start directory : Path} {place : Place}

/-- There is something of the configuration file's name in a directory. -/
def HasConfig (t : Tree) (directory : Path) : Prop :=
  t.exists? (Path.join directory fileName) = true

instance (t : Tree) (directory : Path) : Decidable (HasConfig t directory) :=
  inferInstanceAs (Decidable (_ = true))

/-- The first directory of a way up with a configuration file. -/
def IsNearest (t : Tree) (way : List Path) (directory : Path) : Prop :=
  ∃ nearer farther, way = nearer ++ directory :: farther ∧ HasConfig t directory ∧
    ∀ passed ∈ nearer, ¬ HasConfig t passed

theorem discover_step (t : Tree) (start : Path) :
    discover t start =
      if HasConfig t start then some (Path.join start fileName)
      else (Path.parent? start).bind (discover t) := by
  rw [discover]
  refine if_congr Iff.rfl rfl ?_
  split <;> next h => rw [h]; rfl

/-- The search looks at one directory of the way after another. -/
theorem discover_eq (t : Tree) (start : Path) :
    discover t start = ((Path.ancestors start).find? fun directory =>
      decide (HasConfig t directory)).map fun directory => Path.join directory fileName := by
  fun_induction Path.ancestors start with
  | case1 start ih =>
    rw [discover_step]
    by_cases h : HasConfig t start
    · simp [h]
    · rw [if_neg h, List.find?_cons_of_neg (by simpa using h)]
      cases hparent : Path.parent? start with
      | none => rfl
      | some above => exact ih above hparent

theorem absolute_concat (place : Place) (name : String) :
    absolute (place ++ [name]) =
      (if place = [] then "" else absolute place) ++ "/" ++ name := by
  unfold absolute
  split
  · next h => simp [h]
  · next h =>
    rw [String.intercalate_append_of_ne_nil h (List.cons_ne_nil _ _), String.intercalate_singleton]
    simp [String.append_assoc]

theorem parent?_absolute {place : Place} {name : String}
    (hplace : ∀ part ∈ place, Path.IsEntryName part) (hname : Path.IsEntryName name) :
    Path.parent? (absolute (place ++ [name])) = some (absolute place) := by
  rw [absolute_concat, Path.parent?_slash _ hname.1]
  rcases List.eq_nil_or_concat' place with rfl | ⟨above, last, rfl⟩
  · rfl
  · have hlast : Path.IsName last := (hplace last (by simp)).1
    rw [if_neg (by simp), absolute_concat, Path.trimEnd_name hlast, String.ofList_toList]

theorem join_absolute {place : Place} {name : String}
    (hplace : ∀ part ∈ place, Path.IsEntryName part) (hname : Path.IsEntryName name) :
    Path.join (absolute place) name = absolute (place ++ [name]) := by
  have hrelative := Path.isAbsolute_of_not_mem hname.1.1
  rw [absolute_concat]
  rcases List.eq_nil_or_concat' place with rfl | ⟨above, last, rfl⟩
  · simp [Path.join, hrelative, absolute]
  · have hlast : Path.IsName last := (hplace last (by simp)).1
    rw [if_neg (by simp), absolute_concat, Path.join_name hlast _ hrelative]

theorem steps_absolute {place : Place} (hplace : ∀ part ∈ place, Path.IsEntryName part) :
    Path.steps (absolute place) = place := by
  induction place using List.reverseRecOn with
  | nil => rfl
  | append_singleton above name ih =>
    have hname : Path.IsEntryName name := hplace name (by simp)
    have habove := ih fun part hpart => hplace part (by simp [hpart])
    have hlast : Path.steps name = [name] := by
      simp [Path.steps, Path.parts_of_not_mem hname.1.1, hname.1.2.1, hname.1.2.2]
    rw [absolute_concat, Path.steps_append, hlast]
    split
    · next h =>
      subst h
      rfl
    · rw [habove]

theorem absolute_append (place others : Place) :
    ∃ rest, absolute (place ++ others) = absolute place ++ rest := by
  by_cases hplace : place = []
  · exact ⟨"/".intercalate others, by simp [hplace, absolute]⟩
  · by_cases hothers : others = []
    · exact ⟨"", by simp [hothers]⟩
    · refine ⟨"/" ++ "/".intercalate others, ?_⟩
      rw [absolute, String.intercalate_append_of_ne_nil hplace hothers]
      simp [absolute, String.append_assoc]

/-- A directory that its path leads to, which is short enough to name a configuration file in it. -/
structure IsOpen (t : Tree) (place : Place) : Prop where
  leads : t.IsDirectory (absolute place) place
  fits : (absolute (place ++ [fileName])).utf8ByteSize < Tree.pathLimit

theorem isDirectory_absolute_iff :
    t.IsDirectory (absolute place) place ↔
      '\x00' ∉ (absolute place).toList ∧ t.Reaches [] (Path.parts (absolute place)) place := by
  have hsome : absolute place ≠ "" := by simp [absolute]
  have hroot : Path.isAbsolute (absolute place) = true := by simp [absolute, Path.isAbsolute]
  rw [Tree.IsDirectory, if_neg hsome, if_pos hroot]

theorem IsOpen.names (h : IsOpen t place) : ∀ name ∈ place, Path.IsEntryName name :=
  (isDirectory_absolute_iff.mp h.leads).2.names (fun _ => Path.not_mem_of_mem_parts)
    (List.forall_mem_nil _)

theorem IsOpen.isDirectory (h : IsOpen t place) : t.entry? place = some .directory :=
  (isDirectory_absolute_iff.mp h.leads).2.entry?_end

/-- The way to a directory leads through the directories around it. -/
theorem IsOpen.of_append {others : Place} (h : IsOpen t (place ++ others)) : IsOpen t place := by
  have hnames := h.names
  have habove : ∀ name ∈ place, Path.IsEntryName name :=
    fun name hname => hnames name (List.mem_append_left others hname)
  obtain ⟨hnul, hreaches⟩ := isDirectory_absolute_iff.mp h.leads
  obtain ⟨rest, hrest⟩ := absolute_append place others
  refine ⟨isDirectory_absolute_iff.mpr ⟨?_, ?_⟩, ?_⟩
  · exact fun hmem => hnul (by simp [hrest, hmem])
  · rw [Tree.reaches_parts_iff, steps_absolute hnames] at hreaches
    rw [Tree.reaches_parts_iff, steps_absolute habove]
    refine ⟨hreaches.1, ?_⟩
    by_cases hothers : others = []
    · simpa [hothers] using hreaches.2
    · obtain ⟨middle, hmiddle, -⟩ := Tree.exists_reaches_of_append hothers hreaches.2
      obtain rfl : middle = place := hmiddle.eq_append habove
      exact hmiddle
  · refine lt_of_le_of_lt ?_ h.fits
    simp only [absolute_concat, String.utf8ByteSize_append, hrest]
    by_cases hplace : place = []
    · simp [hplace]
    · simp [hplace, Nat.add_assoc]

theorem isEntryName_fileName : Path.IsEntryName fileName :=
  ⟨⟨by decide, by decide, by decide⟩, by decide⟩

/-- An open directory has a configuration file if there is an entry of that name in it. -/
theorem IsOpen.resolve_config (h : IsOpen t place) :
    t.resolve (absolute (place ++ [fileName])) =
      .ok (match t.entry? (place ++ [fileName]) with
        | some entry => .found (place ++ [fileName]) entry
        | none => .free (place ++ [fileName])) := by
  have hjoin := join_absolute h.names isEntryName_fileName
  rw [← hjoin]
  exact Tree.resolve_join_name h.leads h.isDirectory isEntryName_fileName (by decide) (by decide)
    (hjoin ▸ h.fits)

theorem IsOpen.hasConfig_iff (h : IsOpen t place) :
    HasConfig t (absolute place) ↔ (t.entry? (place ++ [fileName])).isSome = true := by
  rw [HasConfig, join_absolute h.names isEntryName_fileName, Tree.exists?, h.resolve_config]
  cases t.entry? (place ++ [fileName]) <;> simp

/-- The deepest directory on the way to a place with a configuration file. -/
structure IsDeepest (t : Tree) (place directory : Place) : Prop where
  around : directory <+: place
  config : (t.entry? (directory ++ [fileName])).isSome = true
  deepest : ∀ other, other <+: place → (t.entry? (other ++ [fileName])).isSome = true →
    other <+: directory

theorem IsDeepest.unique {directory other : Place} (h : IsDeepest t place directory)
    (hother : IsDeepest t place other) : directory = other :=
  (hother.deepest directory h.around h.config).eq_of_length_le
    (h.deepest other hother.around hother.config).length_le

theorem IsDeepest.ne_none {directory : Place} (h : IsDeepest t place directory) :
    t.entry? (directory ++ [fileName]) ≠ none := Option.isSome_iff_ne_none.mp h.config

theorem isDeepest_of_config (h : (t.entry? (place ++ [fileName])).isSome = true) :
    IsDeepest t place place := ⟨List.prefix_rfl, h, fun _ hother _ => hother⟩

theorem IsDeepest.concat {directory : Place} {name : String} (h : IsDeepest t place directory)
    (hconfig : t.entry? (place ++ [name] ++ [fileName]) = none) :
    IsDeepest t (place ++ [name]) directory := by
  refine ⟨h.around.trans (List.prefix_append _ _), h.config, fun other hother hsome => ?_⟩
  rcases List.prefix_concat_iff.mp hother with rfl | hother
  · rw [hconfig] at hsome
    cases hsome
  · exact h.deepest other hother hsome

theorem IsOpen.discover_of_config (h : IsOpen t place)
    (hconfig : (t.entry? (place ++ [fileName])).isSome = true) :
    discover t (absolute place) = some (absolute (place ++ [fileName])) := by
  rw [discover_step, if_pos (h.hasConfig_iff.mpr hconfig),
    join_absolute h.names isEntryName_fileName]

theorem IsOpen.discover_of_no_config (h : IsOpen t place)
    (hconfig : t.entry? (place ++ [fileName]) = none) :
    discover t (absolute place) = (Path.parent? (absolute place)).bind (discover t) := by
  rw [discover_step, if_neg]
  rw [h.hasConfig_iff, hconfig]
  exact Bool.false_ne_true

/-- The search ends at the deepest configuration file, or passes all directories without one. -/
theorem IsOpen.discover_cases (h : IsOpen t place) :
    (∃ directory, IsDeepest t place directory ∧
      discover t (absolute place) = some (absolute (directory ++ [fileName]))) ∨
    ((∀ directory, directory <+: place → t.entry? (directory ++ [fileName]) = none) ∧
      discover t (absolute place) = none) := by
  induction place using List.reverseRecOn with
  | nil =>
    cases hconfig : t.entry? ([] ++ [fileName]) with
    | some entry =>
      have hsome : (t.entry? ([] ++ [fileName])).isSome = true := by rw [hconfig]; rfl
      exact .inl ⟨[], isDeepest_of_config hsome, h.discover_of_config hsome⟩
    | none =>
      refine .inr ⟨fun directory hdirectory => ?_, h.discover_of_no_config hconfig⟩
      rwa [List.prefix_nil.mp hdirectory]
  | append_singleton above name ih =>
    cases hconfig : t.entry? (above ++ [name] ++ [fileName]) with
    | some entry =>
      have hsome : (t.entry? (above ++ [name] ++ [fileName])).isSome = true := by rw [hconfig]; rfl
      exact .inl ⟨_, isDeepest_of_config hsome, h.discover_of_config hsome⟩
    | none =>
      have hparent := parent?_absolute h.of_append.names (h.names name (by simp))
      have hnext : discover t (absolute (above ++ [name])) = discover t (absolute above) := by
        rw [h.discover_of_no_config hconfig, hparent]
        rfl
      rw [hnext]
      obtain ⟨directory, hdeepest, hfound⟩ | ⟨hnone, hfound⟩ := ih h.of_append
      · exact .inl ⟨directory, hdeepest.concat hconfig, hfound⟩
      · refine .inr ⟨fun directory hdirectory => ?_, hfound⟩
        rcases List.prefix_concat_iff.mp hdirectory with rfl | hdirectory
        · exact hconfig
        · exact hnone directory hdirectory

/-- The search finds the first configuration file on the way up, whatever the file holds, and only
if there is one. Seen from a directory on the disk, this is the one of the deepest directory around
it. If it cannot be loaded, nothing is, and no other file takes its place. -/
theorem discover_nearest (t : Tree) :
    (∀ start found, discover t start = some found ↔
      ∃ directory, IsNearest t (Path.ancestors start) directory ∧
        found = Path.join directory fileName) ∧
    (∀ start, discover t start = none ↔
      ∀ directory ∈ Path.ancestors start, ¬ HasConfig t directory) ∧
    (∀ place, IsOpen t place →
      (∀ found, discover t (absolute place) = some found ↔
        ∃ directory, IsDeepest t place directory ∧
          found = absolute (directory ++ [fileName])) ∧
      (discover t (absolute place) = none ↔
        ∀ directory, directory <+: place → t.entry? (directory ++ [fileName]) = none)) ∧
    ∀ found o, discover t (absolute t.current) = some found →
      load t none o = (loadFile t found).map fun loaded =>
        { loaded with settings := loaded.settings.override o } := by
  refine ⟨fun start found => ?_, fun start => ?_, fun place hopen => ?_, fun found o hfound => ?_⟩
  · rw [discover_eq, Option.map_eq_some_iff]
    simp only [List.find?_eq_some_iff_append, IsNearest, decide_eq_true_eq, Bool.not_eq_true',
      decide_eq_false_iff_not]
    constructor
    · rintro ⟨directory, ⟨hconfig, nearer, farther, hway, hnearer⟩, rfl⟩
      exact ⟨directory, ⟨nearer, farther, hway, hconfig, hnearer⟩, rfl⟩
    · rintro ⟨directory, ⟨nearer, farther, hway, hconfig, hnearer⟩, rfl⟩
      exact ⟨directory, ⟨hconfig, nearer, farther, hway, hnearer⟩, rfl⟩
  · rw [discover_eq, Option.map_eq_none_iff, List.find?_eq_none]
    simp only [decide_eq_true_eq]
  · obtain ⟨directory, hdeepest, hfound⟩ | ⟨hnone, hfound⟩ := hopen.discover_cases
    · rw [hfound]
      refine ⟨fun found => ?_, nofun, fun hnone => ?_⟩
      · constructor
        · rintro ⟨⟩
          exact ⟨directory, hdeepest, rfl⟩
        · rintro ⟨other, hother, rfl⟩
          rw [hother.unique hdeepest]
      · exact absurd (hnone directory hdeepest.around) hdeepest.ne_none
    · rw [hfound]
      refine ⟨fun found => ⟨nofun, ?_⟩, fun _ => hnone, fun _ => rfl⟩
      rintro ⟨directory, hdeepest, -⟩
      exact absurd (hnone directory hdeepest.around) hdeepest.ne_none
  · have hsource : source t none = .ok (some found) := congrArg Except.ok hfound
    exact load_of_file hsource o

/-- A story with a configuration in its own directory and a broken one among the chapters. -/
def chapterTree : Tree where
  entries := [(["story", fileName], .text ""), (["story", "chapters", fileName], .binary)]
  current := ["story", "chapters", "one"]

theorem isOpen_chapterTree : IsOpen chapterTree chapterTree.current where
  leads := isDirectory_absolute_iff.mpr ⟨by decide, rfl⟩
  fits := by decide

/-- The broken configuration is the nearest one, and so nothing is loaded. -/
theorem broken_config_hides_farther_one :
    discover chapterTree (absolute chapterTree.current) = some "/story/chapters/folio.toml" ∧
    load chapterTree none .none = .error (.file .notText) := by
  obtain ⟨-, -, hplaces, hload⟩ := discover_nearest chapterTree
  have hdeepest : IsDeepest chapterTree chapterTree.current ["story", "chapters"] := by
    refine ⟨by decide, by decide, fun other hother => ?_⟩
    have hall : ∀ other ∈ chapterTree.current.inits,
        (chapterTree.entry? (other ++ [fileName])).isSome = true →
          other <+: ["story", "chapters"] := by decide
    exact hall other ((List.mem_inits _ _).mpr hother)
  have hfound := ((hplaces _ isOpen_chapterTree).1 _).mpr ⟨_, hdeepest, rfl⟩
  exact ⟨hfound, (hload _ .none hfound).trans rfl⟩

end StoryPress.Config
