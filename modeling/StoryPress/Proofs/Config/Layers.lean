import StoryPress.Proofs.Config.Load
import StoryPress.Proofs.Files.Paths
import Mathlib.Data.List.Nodup

/-! What is loaded comes from three layers: overrides before the configuration file, and the file
before the defaults, each setting for itself. Of the files on a disk only the one that is used has a
part in this. If it cannot be read, or says nothing that can be used, the load fails under all
overrides. A state path leads from the directory of the file where the file says it. -/
namespace StoryPress.Config

open StoryPress.Files (Path Place Tree)
open StoryPress.Toml (Value)

namespace Settings

/-- What a section says for one of its keys. -/
def sectionValue? (keys : List String) (key : String) : Option Value → Option Value
  | some (.table fields) => fields.lookup key
  | some (.array items) => items[keys.idxOf key]?
  | _ => none

def renderKeys : List String := ["smart_punctuation", "gfm", "line_breaks", "suppress_vars"]

def modifierKeys : List String := ["builtin", "disabled"]

def stateKeys : List String := ["path"]

def flag? : Value → Option Bool
  | .bool b => some b
  | _ => none

theorem eq_text_of_text? {value : Value} {s : String} (h : text? value = some s) :
    value = .text s := by
  unfold text? at h
  split at h
  · rw [Option.some.inj h]
  · cases h

theorem sectionValues?_eq {keys : List String} (hkeys : keys.Nodup) {part : Option Value}
    {values : List (Option Value)} (h : sectionValues? keys part = some values) :
    values = keys.map fun key => sectionValue? keys key part := by
  unfold sectionValues? at h
  split at h
  · obtain rfl := Option.some.inj h
    rfl
  · split at h
    · obtain rfl := Option.some.inj h
      rfl
    · cases h
  · next items =>
    obtain rfl := Option.some.inj h
    refine List.ext_getElem (by simp) fun i hi hkey => ?_
    rw [List.length_map] at hkey
    rw [List.getElem_take, List.getElem_map, sectionValue?, hkeys.idxOf_getElem i hkey]
    by_cases hitem : i < items.length
    · rw [List.getElem_append_left (by simpa using hitem), List.getElem_map,
        List.getElem?_eq_getElem hitem]
    · rw [List.getElem_append_right (by simpa using hitem), List.getElem_replicate,
        List.getElem?_eq_none (Nat.le_of_not_lt hitem)]
  · cases h

theorem bool?_eq {default b : Bool} {value : Option Value} (h : bool? default value = some b) :
    b = (value.bind flag?).getD default := by
  unfold bool? at h
  split at h
  · exact (Option.some.inj h).symm
  · exact (Option.some.inj h).symm
  · cases h

/-- What a table says for a key of a section. -/
def said? (table : List (String × Value)) (part : String) (keys : List String) (key : String) :
    Option Value :=
  sectionValue? keys key (table.lookup part)

end Settings

open Settings in
/-- Settings in layers: overrides, then what a table says, then defaults. Only three settings can be
overridden, and a state path that the table says is seen from a directory. -/
structure Layered (o : Overrides) (directory : Path) (table : List (String × Value))
    (s : Settings) : Prop where
  suppressVariables : s.suppressVariables = (o.suppressVariables.or
    ((said? table "render" renderKeys "suppress_vars").bind flag?)).getD default.suppressVariables
  smartPunctuation : s.options.smartPunctuation = (o.smartPunctuation.or
    ((said? table "render" renderKeys "smart_punctuation").bind flag?)).getD
      default.options.smartPunctuation
  statePath : s.statePath = o.statePath.or
    (((said? table "state" stateKeys "path").bind text?).map (Path.join directory))
  gfm : s.options.gfm =
    ((said? table "render" renderKeys "gfm").bind flag?).getD default.options.gfm
  lineBreaks : s.options.lineBreaks =
    ((said? table "render" renderKeys "line_breaks").bind flag?).getD default.options.lineBreaks
  builtin : s.builtin =
    ((said? table "modifiers" modifierKeys "builtin").bind flag?).getD default.builtin
  disabled : texts? (said? table "modifiers" modifierKeys "disabled") = some s.disabled

open Settings in
theorem layered_of_ofTable? {table : List (String × Value)} {s : Settings}
    (h : ofTable? table = some s) (o : Overrides) (directory : Path) :
    Layered o directory table ((s.seenFrom directory).override o) := by
  unfold ofTable? at h
  simp only [Option.bind_eq_bind, Option.bind_eq_some_iff, Option.pure_def] at h
  obtain ⟨sections, hsections, h⟩ := h
  obtain rfl := sectionValues?_eq (by decide) hsections
  simp only [List.map_cons, List.map_nil, Option.bind_eq_some_iff] at h
  obtain ⟨render, hrender, h⟩ := h
  obtain rfl := sectionValues?_eq (by decide) hrender
  simp only [List.map_cons, List.map_nil, Option.bind_eq_some_iff] at h
  obtain ⟨modifiers, hmodifiers, h⟩ := h
  obtain rfl := sectionValues?_eq (by decide) hmodifiers
  simp only [List.map_cons, List.map_nil, Option.bind_eq_some_iff] at h
  obtain ⟨state, hstate, h⟩ := h
  obtain rfl := sectionValues?_eq (by decide) hstate
  simp only [List.map_cons, List.map_nil, Option.bind_eq_some_iff] at h
  obtain ⟨smart, hsmart, gfm, hgfm, lineBreaks, hlineBreaks, suppress, hsuppress, builtin, hbuiltin,
    disabled, hdisabled, h⟩ := h
  obtain ⟨path, hpath, rfl⟩ : ∃ path, path = (said? table "state" stateKeys "path").bind text? ∧
      ⟨⟨smart, gfm, lineBreaks⟩, suppress, builtin, disabled, path⟩ = s := by
    rw [said?]
    split at h
    · next hnone => exact ⟨none, (congrArg (Option.bind · text?) hnone).symm, Option.some.inj h⟩
    · next value hvalue =>
      obtain ⟨path, hpath, h⟩ := Option.bind_eq_some_iff.mp h
      obtain ⟨text, htext, rfl⟩ := Option.map_eq_some_iff.mp hpath
      exact ⟨some text, ((congrArg (Option.bind · text?) hvalue).trans htext).symm,
        Option.some.inj h⟩
  exact {
    suppressVariables := by
      rw [Option.getD_or]
      exact congrArg o.suppressVariables.getD (bool?_eq hsuppress)
    smartPunctuation := by
      rw [Option.getD_or]
      exact congrArg o.smartPunctuation.getD (bool?_eq hsmart)
    statePath := congrArg (fun path => o.statePath.or (Option.map (Path.join directory) path)) hpath
    gfm := bool?_eq hgfm
    lineBreaks := bool?_eq hlineBreaks
    builtin := bool?_eq hbuiltin
    disabled := hdisabled }

theorem layered_default (o : Overrides) : Layered o "" [] (Settings.default.override o) :=
  layered_of_ofTable? (s := Settings.default) rfl o ""

/-- The file that a load uses: the one that is asked for, or else the nearest one. -/
def Uses (t : Tree) (path : Option Path) (file : Path) : Prop :=
  match path with
  | some asked => asked = file ∧ t.exists? asked = true
  | none => discover t (absolute t.current) = some file

/-- Why the text of a configuration file cannot be used. -/
def failure? (text : Except Files.Fault String) : Option LoadError :=
  match text with
  | .error fault => some (.file fault)
  | .ok content =>
    match Settings.read? content with
    | none => some .toml
    | some settings => settings.problem?.map .invalid

theorem failure?_ne_notFound (text : Except Files.Fault String) (missing : Path) :
    failure? text ≠ some (.notFound missing) := by
  unfold failure?
  split
  · simp
  · split <;> simp

/-- The directory of a file, as far as its path tells. -/
def directoryOf (file : Path) : Path := (Path.parent? file).getD "."

variable {t : Tree} {path : Option Path} {file : Path}

theorem source_of_uses (h : Uses t path file) : source t path = .ok (some file) := by
  cases path with
  | some asked =>
    obtain ⟨rfl, hexists⟩ := h
    rw [source, if_pos hexists]
  | none => exact congrArg Except.ok h

/-- A file is loaded unless there is a reason that it cannot be used. -/
theorem loadFile_cases (t : Tree) (file : Path) :
    (∃ e, failure? (t.readText file) = some e ∧ loadFile t file = .error e) ∨
    (failure? (t.readText file) = none ∧
      ∃ content settings, t.readText file = .ok content ∧ Settings.read? content = some settings ∧
        settings.problem? = none ∧
        loadFile t file = .ok ⟨settings.seenFrom (directoryOf file), some file⟩) := by
  unfold failure? loadFile
  cases hread : t.readText file with
  | error fault => exact .inl ⟨_, rfl, rfl⟩
  | ok content =>
    cases hsettings : Settings.read? content with
    | none => exact .inl ⟨.toml, by simp [hsettings], by simp [hsettings]⟩
    | some settings =>
      cases hproblem : settings.problem? with
      | some problem =>
        exact .inl ⟨.invalid problem, by simp [hsettings, hproblem], by simp [hsettings, hproblem]⟩
      | none =>
        exact .inr ⟨by simp [hsettings, hproblem], content, settings, rfl, hsettings, hproblem,
          by simp [hsettings, hproblem, directoryOf]⟩

/-- Settings in which nothing is wrong have no blank state path. -/
theorem statePath_ne_empty {s : Settings} (h : s.problem? = none) {path : Path}
    (hpath : s.statePath = some path) : path ≠ "" := by
  rintro rfl
  unfold Settings.problem? at h
  rw [hpath] at h
  split at h
  · cases h
  · split at h
    · cases h
    · cases h

/-- What a path said in a file becomes: an absolute path stays, and any other leads from the working
directory where it leads from the directory of the file. -/
structure IsSeenFrom (t : Tree) (file said seen : Path) : Prop where
  absolute : Path.isAbsolute said = true → seen = said
  relative : t.IsSound → seen.utf8ByteSize < Tree.pathLimit →
    ∃ place content, t.resolve file = .ok (.found place (.text content)) ∧
      t.resolve seen = t.resolveFrom place.dropLast said

theorem isSeenFrom_join {content : String} {said : Path} (h : t.readText file = .ok content)
    (hsaid : said ≠ "") : IsSeenFrom t file said (Path.join (directoryOf file) said) where
  absolute := fun habsolute => by simp [Path.join, habsolute]
  relative := by
    intro hsound hsize
    obtain ⟨place, hplace⟩ := Tree.found_of_readText h
    exact ⟨place, content, hplace, Tree.resolve_beside hsound (by simp) hplace hsaid hsize⟩

/-- What the file says stands alone where nothing is overridden. -/
theorem statePath_eq {table : List (String × Value)} {s : Settings}
    (h : Settings.ofTable? table = some s) :
    s.statePath = (Settings.said? table "state" Settings.stateKeys "path").bind Settings.text? := by
  have hjoin : Path.join "" = id := funext fun p => by simp [Path.join]
  simpa [Settings.override, Settings.seenFrom, Overrides.none, hjoin] using
    (layered_of_ofTable? h .none "").statePath

theorem load_eq_error_iff (h : Uses t path file) (o : Overrides) (e : LoadError) :
    load t path o = .error e ↔ failure? (t.readText file) = some e := by
  rw [load_of_file (source_of_uses h) o]
  obtain ⟨reason, hfailure, hfile⟩ | ⟨hfailure, content, settings, -, -, -, hfile⟩ :=
    loadFile_cases t file
  · rw [hfile, hfailure]
    simp [Except.map]
  · rw [hfile, hfailure]
    simp [Except.map]

theorem load_eq_notFound_iff (t : Tree) (path : Option Path) (o : Overrides) (missing : Path) :
    load t path o = .error (.notFound missing) ↔
      path = some missing ∧ t.exists? missing = false := by
  constructor
  · intro h
    have hunused : ∀ file, ¬ Uses t path file := fun file huses =>
      failure?_ne_notFound _ _ ((load_eq_error_iff huses o _).mp h)
    cases path with
    | some asked =>
      have hmissing : t.exists? asked = false := by
        rw [← Bool.not_eq_true]
        exact fun hexists => hunused asked ⟨rfl, hexists⟩
      rw [load_of_error (e := .notFound asked) (by rw [source, hmissing]; rfl) o] at h
      cases h
      exact ⟨rfl, hmissing⟩
    | none =>
      cases hfound : discover t (absolute t.current) with
      | some file => exact absurd hfound (hunused file)
      | none =>
        have hsource : source t none = .ok none := congrArg Except.ok hfound
        rw [load_of_none hsource o] at h
        cases h
  · rintro ⟨rfl, hmissing⟩
    exact load_of_error (by rw [source, hmissing]; rfl) o

/-- A load uses the file asked for, or else the nearest one, or else the defaults, and a file is not
found only if it is asked for and not there. If the text of the file cannot be used, no overrides
and no other files help. Otherwise the settings come in three layers, and the state path that the
file says is seen from the directory of the file. -/
theorem load_in_layers (t : Tree) (path : Option Path) (o : Overrides) :
    (∀ missing, load t path o = .error (.notFound missing) ↔
      path = some missing ∧ t.exists? missing = false) ∧
    (path = none → discover t (absolute t.current) = none →
      ∃ s, load t path o = .ok ⟨s, none⟩ ∧ Layered o "" [] s) ∧
    ∀ file, Uses t path file →
      (∀ e, load t path o = .error e ↔ failure? (t.readText file) = some e) ∧
      (failure? (t.readText file) = none →
        ∃ content table s, t.readText file = .ok content ∧ Toml.read? content = some table ∧
          load t path o = .ok ⟨s, some file⟩ ∧ Layered o (directoryOf file) table s ∧
          ∀ said, Settings.said? table "state" Settings.stateKeys "path" = some (.text said) →
            IsSeenFrom t file said (Path.join (directoryOf file) said)) := by
  refine ⟨load_eq_notFound_iff t path o, ?_, fun file huses => ?_⟩
  · rintro rfl hnone
    have hsource : source t none = .ok none := congrArg Except.ok hnone
    exact ⟨_, load_of_none hsource o, layered_default o⟩
  · refine ⟨load_eq_error_iff huses o, fun husable => ?_⟩
    obtain ⟨e, hfailure, -⟩ | ⟨-, content, settings, hread, hsettings, hproblem, hfile⟩ :=
      loadFile_cases t file
    · rw [hfailure] at husable
      cases husable
    · obtain ⟨table, htable, hdecoded⟩ := Option.bind_eq_some_iff.mp hsettings
      refine ⟨content, table, _, hread, htable, ?_, layered_of_ofTable? hdecoded o _,
        fun said hsaid => isSeenFrom_join hread ?_⟩
      · rw [load_of_file (source_of_uses huses) o, hfile]
        rfl
      · have hpath : settings.statePath = some said := by
          rw [statePath_eq hdecoded, hsaid]
          rfl
        exact statePath_ne_empty hproblem hpath

def storyConfig : String :=
  "[render]\nsmart_punctuation = false\nsuppress_vars = true\n\n" ++
    "[state]\npath = \"saves/all.json\"\n"

/-- A story with its configuration, below a configuration that is none. -/
def storyTree : Tree where
  entries := [(["folio.toml"], .text "[render"), (["story", "folio.toml"], .text storyConfig)]
  current := ["story", "chapters"]

theorem isSound_storyTree : storyTree.IsSound := Tree.isSound_of_inits (by decide +kernel)

/-- One setting is overridden, one said by the file and one left out by both; the state path leads
where it leads from the directory of the story, and no override helps the other configuration. -/
theorem override_before_file_before_default :
    (∃ s, load storyTree none ⟨some false, none, none⟩ = .ok ⟨s, some "/story/folio.toml"⟩ ∧
      s.suppressVariables = false ∧ s.options.smartPunctuation = false ∧ s.options.gfm = true ∧
      s.statePath = some "/story/saves/all.json") ∧
    storyTree.resolve "/story/saves/all.json" =
      storyTree.resolveFrom ["story"] "saves/all.json" ∧
    load storyTree (some "/folio.toml") ⟨some false, none, none⟩ = .error .toml := by
  have huses : Uses storyTree none "/story/folio.toml" := by
    show discover storyTree (absolute storyTree.current) = _
    decide +kernel
  have hbroken : Uses storyTree (some "/folio.toml") "/folio.toml" := ⟨rfl, by decide +kernel⟩
  obtain ⟨-, -, hfile⟩ := load_in_layers storyTree none ⟨some false, none, none⟩
  obtain ⟨-, -, hother⟩ := load_in_layers storyTree (some "/folio.toml") ⟨some false, none, none⟩
  obtain ⟨content, table, s, hread, htable, hload, hlayers, hseen⟩ :=
    (hfile _ huses).2 (by decide +kernel)
  have hcontent : storyTree.readText "/story/folio.toml" = .ok storyConfig := rfl
  rw [hcontent] at hread
  obtain rfl := Except.ok.inj hread
  have hsays : (Toml.read? storyConfig).map (fun table =>
      ((Settings.said? table "render" Settings.renderKeys "smart_punctuation").bind Settings.flag?,
        (Settings.said? table "render" Settings.renderKeys "gfm").bind Settings.flag?)) =
      some (some false, none) := by decide +kernel
  have hpath : (Toml.read? storyConfig).bind (fun table =>
      (Settings.said? table "state" Settings.stateKeys "path").bind Settings.text?) =
      some "saves/all.json" := by decide +kernel
  rw [htable] at hsays
  rw [htable, Option.bind_some] at hpath
  obtain ⟨hsmart, hgfm⟩ := Prod.mk.inj (Option.some.inj hsays)
  obtain ⟨value, hvalue, htext⟩ := Option.bind_eq_some_iff.mp hpath
  obtain rfl := Settings.eq_text_of_text? htext
  have hjoin : Path.join (directoryOf "/story/folio.toml") "saves/all.json" =
      "/story/saves/all.json" := by decide +kernel
  have hstate := hlayers.statePath
  have hseen := hseen "saves/all.json" hvalue
  rw [hvalue] at hstate
  rw [hjoin] at hseen
  refine ⟨⟨s, hload, hlayers.suppressVariables, ?_, ?_, hstate.trans ?_⟩, ?_, ?_⟩
  · rw [hlayers.smartPunctuation, hsmart]
    rfl
  · rw [hlayers.gfm, hgfm]
    rfl
  · rw [← hjoin]
    rfl
  · obtain ⟨place, text, hplace, hleads⟩ := hseen.relative isSound_storyTree (by decide)
    have hfound : storyTree.resolve "/story/folio.toml" =
        .ok (.found ["story", "folio.toml"] (.text storyConfig)) := rfl
    rw [hfound] at hplace
    cases hplace
    exact hleads
  · exact ((hother _ hbroken).1 .toml).mpr (by decide +kernel)

end StoryPress.Config
