import StoryPress.Config.Load

namespace StoryPress.Config

open StoryPress.Files (Path Tree)

theorem load_of_error {t : Tree} {path : Option Path} {e : LoadError}
    (h : source t path = .error e) (o : Overrides) : load t path o = .error e := by
  rw [load, h]
  rfl

theorem load_of_none {t : Tree} {path : Option Path} (h : source t path = .ok none)
    (o : Overrides) : load t path o = .ok ⟨Settings.default.override o, none⟩ := by
  rw [load, h]
  rfl

theorem load_of_file {t : Tree} {path : Option Path} {file : Path}
    (h : source t path = .ok (some file)) (o : Overrides) :
    load t path o = (loadFile t file).map fun loaded =>
      { loaded with settings := loaded.settings.override o } := by
  rw [load, h]
  simp only [bind, Except.bind, pure, Except.pure]
  cases loadFile t file <;> rfl

theorem load_eq (t : Tree) (path : Option Path) (o : Overrides) :
    load t path o = (load t path .none).map fun loaded =>
      { loaded with settings := loaded.settings.override o } := by
  cases hsource : source t path with
  | error e =>
    rw [load_of_error hsource, load_of_error hsource]
    rfl
  | ok found =>
    cases found with
    | none =>
      rw [load_of_none hsource, load_of_none hsource]
      rfl
    | some file =>
      rw [load_of_file hsource, load_of_file hsource]
      cases loadFile t file <;> rfl

theorem exists_of_load {t : Tree} {path : Option Path} {o : Overrides} {loaded : Loaded}
    (h : load t path o = .ok loaded) :
    ∃ base, load t path .none = .ok base ∧ loaded.settings = base.settings.override o := by
  rw [load_eq] at h
  cases hbase : load t path .none with
  | error e =>
    rw [hbase] at h
    cases h
  | ok base =>
    rw [hbase] at h
    cases h
    exact ⟨base, rfl, rfl⟩

end StoryPress.Config
