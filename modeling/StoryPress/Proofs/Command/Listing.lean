import StoryPress.Command.Run
import StoryPress.Proofs.Config.Load
import StoryPress.Proofs.Config.Problems
import StoryPress.Proofs.Modifier.Builtins
import StoryPress.Proofs.Story.Compiled
import Mathlib.Data.List.Nodup

namespace StoryPress.Command

open StoryPress.Config (Overrides Settings)
open StoryPress.Config.Settings (AreNames SameName isMeaningful_of_problem? sameName_iff)
open StoryPress.Files (Path Tree)
open StoryPress.Json (Fields Lookup)
open StoryPress.Modifier.Builtin (Name isBuiltin isDisabled mem_all ofName)

/-- Whether a line ends with the word for a modifier that is turned off. -/
def isMarked (line : String) : Bool := "(disabled)".toList.isSuffixOf line.toList

/-- The first word of a line. -/
def firstWord (line : String) : String :=
  String.ofList ((line.toList.dropWhile (· == ' ')).takeWhile (· != ' '))

def listing (s : Settings) : List String := Name.all.map (listingLine s)

/-- The names of the modifiers that are listed without a mark. -/
def listedOn (s : Settings) : List String :=
  ((listing s).filter fun line => !isMarked line).map firstWord

variable {s : Settings}

theorem isMarked_append (line : String) : isMarked (line ++ " (disabled)") = true := by
  rw [isMarked, List.isSuffixOf_iff_suffix, String.toList_append]
  exact ⟨line.toList ++ [' '], by simp⟩

theorem isMarked_of_bracket (line : String) : isMarked (line ++ "]") = false := by
  rw [isMarked, ← Bool.not_eq_true, List.isSuffixOf_iff_suffix, String.toList_append]
  rintro ⟨before, hbefore⟩
  have hlast := congrArg List.getLast? hbefore
  simp at hlast

theorem isMarked_listingLine (s : Settings) (name : Name) :
    isMarked (listingLine s name) = isOff s name := by
  unfold listingLine
  cases isOff s name with
  | true => exact isMarked_append _
  | false =>
    rw [if_neg (by simp), String.append_empty]
    exact isMarked_of_bracket _

theorem firstWord_padTo {word : String} (hword : word ≠ "") (hblank : ' ' ∉ word.toList)
    (width : Nat) (rest : String) :
    firstWord ("  " ++ padTo width word ++ " [" ++ rest) = word := by
  have hkept : ∀ c ∈ word.toList, (c != ' ') = true := fun c hc => by
    simpa using fun h : c = ' ' => hblank (h ▸ hc)
  have hstart : ∀ more, (word.toList ++ more).dropWhile (· == ' ') = word.toList ++ more := by
    intro more
    obtain ⟨c, cs, hcs⟩ := List.exists_cons_of_ne_nil (mt String.toList_eq_nil_iff.mp hword)
    have hc := hkept c (by simp [hcs])
    rw [hcs, List.cons_append, List.dropWhile_cons_of_neg (by simpa using hc)]
  have hend : ∀ count more,
      (List.replicate count ' ' ++ ' ' :: more).takeWhile (· != ' ') = [] := by
    intro count more
    cases count <;> simp [List.replicate_succ]
  have hline : ("  " ++ padTo width word ++ " [" ++ rest).toList =
      ' ' :: ' ' :: (word.toList ++
        (List.replicate (width - word.length) ' ' ++ ' ' :: '[' :: rest.toList)) := by
    simp [padTo]
  rw [firstWord, hline, List.dropWhile_cons_of_pos rfl, List.dropWhile_cons_of_pos rfl, hstart,
    List.takeWhile_append_of_pos hkept, hend, List.append_nil, String.ofList_toList]

theorem firstWord_listingLine (s : Settings) (name : Name) :
    firstWord (listingLine s name) = name.text := by
  have hname : ∀ n ∈ Name.all, n.text ≠ "" ∧ ' ' ∉ n.text.toList := by decide
  obtain ⟨hword, hblank⟩ := hname name (mem_all name)
  have hline := firstWord_padTo hword hblank 12
    (name.usage ++ "]" ++ if isOff s name then " (disabled)" else "")
  rwa [← String.append_assoc, ← String.append_assoc] at hline

/-- The modifiers that some settings leave on. -/
def on (s : Settings) : List Name := Name.all.filter fun name => !isOff s name

theorem listedOn_eq (s : Settings) : listedOn s = (on s).map Name.text := by
  have hmarked : (fun line => !isMarked line) ∘ listingLine s = fun name => !isOff s name :=
    funext fun name => congrArg not (isMarked_listingLine s name)
  have hword : firstWord ∘ listingLine s = Name.text := funext (firstWord_listingLine s)
  rw [listedOn, listing, List.filter_map, List.map_map, hmarked, hword, on]

theorem isOff_of_builtin (h : s.builtin = true) (name : Name) :
    isOff s name = isDisabled s.disabled name := by
  rw [isOff, h]
  rfl

theorem on_of_not_builtin (h : s.builtin = false) : on s = [] := by
  rw [on, List.filter_eq_nil_iff]
  intro name _
  simp [isOff, h]

theorem builtinRegistry_eq (s : Settings) (lookup : Lookup) :
    builtinRegistry s lookup = (on s).map (ofName lookup) := by
  unfold builtinRegistry
  cases h : s.builtin with
  | true => simp only [if_true, Modifier.Builtin.registry, Modifier.Builtin.enabled, on,
      isOff_of_builtin h]
  | false => rw [on_of_not_builtin h]; rfl

/-- The registry has the modifiers that are listed without a mark, in the order of the list. -/
theorem names_builtinRegistry (s : Settings) (lookup : Lookup) :
    (builtinRegistry s lookup).map Modifier.name = listedOn s := by
  have hname : Modifier.name ∘ ofName lookup = Name.text :=
    funext (Modifier.Builtin.name_ofName lookup)
  rw [builtinRegistry_eq, List.map_map, hname, listedOn_eq]

theorem eq_of_sameName_text {m n : Name} (h : SameName m.text n.text) : m = n := by
  have hdistinct : ∀ m ∈ Name.all, ∀ n ∈ Name.all, SameName m.text n.text → m = n := by decide
  exact hdistinct m (mem_all m) n (mem_all n) h

theorem isDisabled_iff {disabled : List String} {name : Name} :
    isDisabled disabled name = true ↔ ∃ entry ∈ disabled, SameName entry name.text := by
  simp only [isDisabled, List.any_eq_true, sameName_iff]

/-- The entry turns off this modifier and no other one. -/
def TurnsOff (entry : String) (name : Name) : Prop :=
  ∀ n, isDisabled [entry] n = true ↔ n = name

theorem isDisabled_singleton_iff {entry : String} {name : Name} :
    isDisabled [entry] name = true ↔ SameName entry name.text := by
  simp [isDisabled_iff]

theorem turnsOff_iff {entry : String} {name : Name} :
    TurnsOff entry name ↔ SameName entry name.text := by
  constructor
  · intro h
    exact isDisabled_singleton_iff.mp ((h name).mpr rfl)
  · intro h n
    rw [isDisabled_singleton_iff]
    refine ⟨fun hn => eq_of_sameName_text (hn.symm.trans h), ?_⟩
    rintro rfl
    exact h

theorem exists_turnsOff (hnames : checkNames s = .ok ()) {entry : String}
    (hentry : entry ∈ s.disabled) : ∃ name, TurnsOff entry name := by
  have hknown : unknownNames s = [] := by
    unfold checkNames at hnames
    split at hnames
    · assumption
    · cases hnames
  rw [unknownNames, List.filter_eq_nil_iff] at hknown
  have hbuiltin : isBuiltin entry = true := by simpa using hknown entry hentry
  obtain ⟨name, -, hname⟩ := List.any_eq_true.mp hbuiltin
  exact ⟨name, turnsOff_iff.mpr (sameName_iff.mp hname).symm⟩

section

variable {disabled : List String} {turned : String → Name}
  (hturned : ∀ entry ∈ disabled, TurnsOff entry (turned entry))

include hturned

/-- What entries turn off one by one, they turn off together. -/
theorem mem_map_turned_iff {name : Name} :
    name ∈ disabled.map turned ↔ isDisabled disabled name = true := by
  rw [List.mem_map, isDisabled_iff]
  constructor
  · rintro ⟨entry, hentry, rfl⟩
    exact ⟨entry, hentry, turnsOff_iff.mp (hturned entry hentry)⟩
  · rintro ⟨entry, hentry, hsame⟩
    have hname := (hturned entry hentry name).mp (isDisabled_singleton_iff.mpr hsame)
    exact ⟨entry, hentry, hname.symm⟩

/-- Entries that turn off the same modifier are the same up to case. -/
theorem nodup_map_turned (hnames : AreNames disabled) : (disabled.map turned).Nodup := by
  rw [List.Nodup, List.pairwise_map]
  refine hnames.distinct.imp_of_mem fun {first second} hfirst hsecond hdistinct hsame => ?_
  have hone := turnsOff_iff.mp (hturned first hfirst)
  have hother := turnsOff_iff.mp (hturned second hsecond)
  rw [← hsame] at hother
  exact hdistinct (hone.trans hother.symm)

end

theorem length_on {turned : List Name} (hnodup : turned.Nodup)
    (h : ∀ name, name ∈ turned ↔ isOff s name = true) :
    (on s).length + turned.length = Name.all.length := by
  have hoff : turned.Perm (Name.all.filter fun name => isOff s name) := by
    rw [List.perm_ext_iff_of_nodup hnodup (List.Nodup.filter _ (by decide))]
    intro name
    simp [h, mem_all]
  rw [on, hoff.length_eq, Nat.add_comm]
  exact (List.length_eq_length_filter_add (isOff s)).symm

/-- The settings that a configuration says: those of its file, or the defaults without any file. -/
def Configures (t : Tree) (path : Option Path) (s : Settings) : Prop :=
  match Config.source t path with
  | .ok (some file) => ∃ content, t.readText file = .ok content ∧ Settings.read? content = some s
  | .ok none => s = .default
  | .error _ => False

/-- The same modifiers are turned off. -/
def SameModifiers (s s' : Settings) : Prop := s.builtin = s'.builtin ∧ s.disabled = s'.disabled

section

variable {t : Tree} {path : Option Path} {s' : Settings}

theorem SameModifiers.on_eq (h : SameModifiers s s') : on s = on s' := by
  have hoff : isOff s = isOff s' := funext fun name => by rw [isOff, isOff, h.1, h.2]
  rw [on, on, hoff]

theorem SameModifiers.listing_eq (h : SameModifiers s s') : listing s = listing s' := by
  have hline : listingLine s = listingLine s' :=
    funext fun name => by rw [listingLine, listingLine, isOff, isOff, h.1, h.2]
  rw [listing, listing, hline]

theorem SameModifiers.checkNames_eq (h : SameModifiers s s') : checkNames s = checkNames s' := by
  rw [checkNames, checkNames, unknownNames, unknownNames, h.2]

theorem exists_load (h : Configures t path s) (hvalid : s.problem? = none) (o : Overrides) :
    ∃ loaded, Config.load t path o = .ok loaded ∧ SameModifiers s loaded.settings := by
  unfold Configures at h
  split at h
  · next file hsource =>
    obtain ⟨content, hread, hsettings⟩ := h
    have hfile : Config.loadFile t file =
        .ok ⟨s.seenFrom ((Path.parent? file).getD "."), some file⟩ := by
      simp only [Config.loadFile, hread, hsettings, hvalid]
    rw [Config.load_of_file hsource, hfile]
    exact ⟨_, rfl, rfl, rfl⟩
  · next hsource =>
    subst h
    rw [Config.load_of_none hsource]
    exact ⟨_, rfl, rfl, rfl⟩
  · exact h.elim

theorem exists_loadSettings (h : Configures t path s) (hvalid : s.problem? = none)
    (hnames : checkNames s = .ok ()) (o : Overrides) :
    ∃ s', loadSettings t path o = .ok s' ∧ SameModifiers s s' := by
  obtain ⟨loaded, hload, hsame⟩ := exists_load h hvalid o
  rw [hsame.checkNames_eq] at hnames
  refine ⟨loaded.settings, ?_, hsame⟩
  rw [loadSettings, hload]
  simp only [Except.mapError, bind, Except.bind, hnames]
  rfl

theorem loadSettings_of_prepare {a : RenderArguments} {p : Prepared} (h : prepare t a = .ok p) :
    ∃ o, loadSettings t a.config o = .ok p.settings := by
  obtain ⟨settings, hsettings, h⟩ := Story.ok_of_bind_ok h
  obtain ⟨state, -, h⟩ := Story.ok_of_bind_ok h
  obtain ⟨inserts, -, h⟩ := Story.ok_of_bind_ok h
  obtain rfl : (⟨settings, state, inserts⟩ : Prepared) = p := Except.ok.inj h
  exact ⟨_, hsettings⟩

end

/-- In settings without a problem and with known names, the modifiers that are listed without a mark
are those that the registry has, in the same order; one command prints this list and the other
renders with this registry. With built-in modifiers every entry turns off exactly one of them and no
two entries the same one; what is turned off is marked, and the rest is left. Without built-in
modifiers nothing is left. -/
theorem listing_matches_registry (hvalid : s.problem? = none) (hnames : checkNames s = .ok ()) :
    (∀ lookup, (builtinRegistry s lookup).map Modifier.name = listedOn s) ∧
    (∀ t path, Configures t path s →
      modifiers t path = ⟨0, "", "Built-in modifiers:" :: listing s, t⟩ ∧
      ∀ a p, a.config = path → prepare t a = .ok p → ∀ inserts lookup,
        ((renderer p.settings inserts).modifiers lookup).map Modifier.name = listedOn s) ∧
    (s.builtin = true → ∃ turned : String → Name,
      (∀ entry ∈ s.disabled, TurnsOff entry (turned entry)) ∧
      (s.disabled.map turned).Nodup ∧
      (∀ name, isMarked (listingLine s name) = true ↔ name ∈ s.disabled.map turned) ∧
      (listedOn s).length + s.disabled.length = Name.all.length) ∧
    (s.builtin = false → listedOn s = []) := by
  refine ⟨names_builtinRegistry s, fun t path hconfigures => ⟨?_, ?_⟩, fun hbuiltin => ?_,
    fun hoff => by rw [listedOn_eq, on_of_not_builtin hoff]; rfl⟩
  · obtain ⟨s', hload, hsame⟩ := exists_loadSettings hconfigures hvalid hnames .none
    rw [modifiers, hload, hsame.listing_eq]
    rfl
  · rintro a p rfl hprepare inserts lookup
    obtain ⟨o, hsettings⟩ := loadSettings_of_prepare hprepare
    obtain ⟨s', hload, hsame⟩ := exists_loadSettings hconfigures hvalid hnames o
    obtain rfl : p.settings = s' := Except.ok.inj (hsettings.symm.trans hload)
    rw [listedOn_eq, hsame.on_eq, ← listedOn_eq]
    exact names_builtinRegistry p.settings lookup
  · have hsome : Nonempty Name := ⟨.align⟩
    choose! turned hturned using fun entry (h : entry ∈ s.disabled) => exists_turnsOff hnames h
    have hnodup := nodup_map_turned hturned (isMeaningful_of_problem? hvalid).names
    have hmem : ∀ name, name ∈ s.disabled.map turned ↔ isOff s name = true := by
      intro name
      rw [mem_map_turned_iff hturned, isOff_of_builtin hbuiltin]
    refine ⟨turned, hturned, hnodup, fun name => by rw [isMarked_listingLine, hmem], ?_⟩
    have hlength := length_on hnodup hmem
    rw [List.length_map] at hlength
    rw [listedOn_eq, List.length_map, hlength]

/-- A story that turns off two modifiers, with their names in capitals. -/
def quietTree : Tree where
  entries := [(["folio.toml"], .text "[modifiers]\ndisabled = [\"CSS\", \"Note\"]\n")]
  current := []

theorem shouted_names_turn_off :
    let s : Settings := { Settings.default with disabled := ["CSS", "Note"] }
    (s.problem? = none ∧ checkNames s = .ok ()) ∧
    Configures quietTree none s ∧
    modifiers quietTree none = ⟨0, "", "Built-in modifiers:" :: listing s, quietTree⟩ ∧
    listedOn s = ["align", "append", "continue", "conditional"] ∧
    (∀ lookup, (builtinRegistry s lookup).map Modifier.name = listedOn s) ∧
    (listedOn s).length + s.disabled.length = 6 := by
  intro s
  have hvalid : s.problem? = none := by decide +kernel
  have hnames : checkNames s = .ok () := by decide +kernel
  have hsource : Config.source quietTree none = .ok (some "/folio.toml") := by decide +kernel
  have hconfigures : Configures quietTree none s := by
    rw [Configures, hsource]
    exact ⟨_, rfl, by decide +kernel⟩
  obtain ⟨hregistry, hcommands, hon, -⟩ := listing_matches_registry hvalid hnames
  obtain ⟨hprinted, -⟩ := hcommands quietTree none hconfigures
  obtain ⟨-, -, -, -, hlength⟩ := hon rfl
  have hlisted : listedOn s = ["align", "append", "continue", "conditional"] := by
    rw [listedOn_eq]
    decide +kernel
  exact ⟨⟨hvalid, hnames⟩, hconfigures, hprinted, hlisted, hregistry, hlength⟩

end StoryPress.Command
